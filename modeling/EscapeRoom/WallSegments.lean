import Mathlib.Tactic.Linarith
import EscapeRoom.BuildScene
import EscapeRoom.Library.Tiling

namespace EscapeRoom
set_option autoImplicit true
set_option linter.unusedSectionVars false

open Tiling

variable {R : Type} [Field R]

/-- The ends of a door, given as centre and width. -/
def doorSpan (door : R × R) : R × R := (door.1 - door.2 / 2.0, door.1 + door.2 / 2.0)

/-- The segment between two points of a wall, as length and centre. -/
def segmentOf (i : R × R) : R × R := (i.2 - i.1, (i.1 + i.2) / 2.0)

variable [LinearOrder R]

/-- The gaps that are not empty. -/
def openGaps (a : R) (is : List (R × R)) (b : R) : List (R × R) :=
  (gaps a is b).filter fun i => decide (i.1 < i.2)

/-- What follows the loop over the doors. -/
def lastSegment (half : R) (acc : List (R × R) × R) : List (R × R) :=
  if acc.2 < half then acc.1 ++ [segmentOf (acc.2, half)] else acc.1

theorem segmentsAroundDoors_eq (wallLength : R) (doors : List (R × R)) :
    segmentsAroundDoors wallLength doors =
      ((sortedDoors doors).foldlM (cutDoor (wallLength / 2.0)) ([], -(wallLength / 2.0))).map
        (lastSegment (wallLength / 2.0)) := by
  rw [segmentsAroundDoors]
  cases hloop : (sortedDoors doors).foldlM (cutDoor (wallLength / 2.0))
      ([], -(wallLength / 2.0)) with
  | error e => rfl
  | ok acc =>
    obtain ⟨segments, cursor⟩ := acc
    by_cases hlast : cursor < wallLength / 2.0
    · simp [Except.map, lastSegment, hlast, segmentOf, pure, bind, Except.bind, Except.pure]
    · simp [Except.map, lastSegment, hlast, pure, bind, Except.bind, Except.pure]

variable [IsStrictOrderedRing R] {half cursor : R} {segments : List (R × R)}
  {doors : List (R × R)}

theorem doorSpan_lt {door : R × R} (h : 0 < door.2) : (doorSpan door).1 < (doorSpan door).2 := by
  have hhalf : 0 < door.2 / 2.0 := by positivity
  rw [doorSpan]
  linarith

theorem cutDoor_eq_ok {acc : List (R × R) × R} {door : R × R} :
    cutDoor half (segments, cursor) door = .ok acc ↔
      -half ≤ (doorSpan door).1 ∧ (doorSpan door).2 ≤ half ∧ cursor < (doorSpan door).1 ∧
        acc = (segments ++ [segmentOf (cursor, (doorSpan door).1)], (doorSpan door).2) := by
  obtain ⟨centre, width⟩ := door
  simp only [cutDoor, doorSpan, segmentOf]
  by_cases hbounds : centre - width / 2.0 < -half ∨ centre + width / 2.0 > half
  · rw [if_pos hbounds]
    constructor
    · intro h
      cases h
    · rintro ⟨hleft, hright, _⟩
      exact (hbounds.elim hleft.not_gt hright.not_gt).elim
  · obtain ⟨hleft, hright⟩ := not_or.1 hbounds
    rw [if_neg hbounds]
    by_cases hcursor : centre - width / 2.0 ≤ cursor
    · rw [if_pos hcursor]
      constructor
      · intro h
        cases h
      · rintro ⟨_, _, hlt, _⟩
        exact (hlt.not_ge hcursor).elim
    · rw [if_neg hcursor, Except.ok.injEq]
      constructor
      · intro h
        exact ⟨not_lt.1 hleft, not_lt.1 hright, not_le.1 hcursor, h.symm⟩
      · rintro ⟨_, _, _, h⟩
        exact h.symm

theorem openGaps_cons {a b : R} {i : R × R} {is : List (R × R)} (h : a < i.1) :
    openGaps a (i :: is) b = (a, i.1) :: openGaps i.2 is b := by
  simp only [openGaps, gaps, List.filter_cons, h, decide_true, if_true]

/-- The loop runs through spaced doors and cuts the gaps between them. -/
theorem foldlM_cutDoor (segments : List (R × R)) (hcursor : -half ≤ cursor)
    (h : Spaced cursor (doors.map doorSpan) half) :
    ∃ acc, doors.foldlM (cutDoor half) (segments, cursor) = .ok acc ∧
      lastSegment half acc =
        segments ++ (openGaps cursor (doors.map doorSpan) half).map segmentOf := by
  induction doors generalizing segments cursor with
  | nil =>
    refine ⟨(segments, cursor), rfl, ?_⟩
    rw [lastSegment, List.map_nil, openGaps, gaps, List.filter_singleton]
    by_cases hlast : cursor < half
    · simp only [hlast, if_true, decide_true, cond_true, List.map_cons, List.map_nil]
    · simp only [hlast, if_false, decide_false, cond_false, List.map_nil, List.append_nil]
  | cons door doors ih =>
    rw [List.map_cons] at h
    cases h with
    | next hlt hspan hnext =>
      have hright : -half ≤ (doorSpan door).2 := (hcursor.trans_lt (hlt.trans hspan)).le
      obtain ⟨acc, hloop, hlast⟩ :=
        ih (segments ++ [segmentOf (cursor, (doorSpan door).1)]) hright hnext
      refine ⟨acc, ?_, ?_⟩
      · rw [List.foldlM_cons, cutDoor_eq_ok.2 ⟨hcursor.trans hlt.le, hnext.le, hlt, rfl⟩]
        exact hloop
      · rw [hlast, List.map_cons, openGaps_cons hlt, List.map_cons, List.append_assoc]
        rfl

theorem spaced_of_foldlM {acc : List (R × R) × R} (hcursor : cursor ≤ half)
    (hwidth : ∀ d ∈ doors, 0 < d.2)
    (h : doors.foldlM (cutDoor half) (segments, cursor) = .ok acc) :
    Spaced cursor (doors.map doorSpan) half := by
  induction doors generalizing segments cursor with
  | nil => exact .last hcursor
  | cons door doors ih =>
    obtain ⟨hdoor, hwidth⟩ := List.forall_mem_cons.1 hwidth
    rw [List.foldlM_cons] at h
    cases hcut : cutDoor half (segments, cursor) door with
    | error e =>
      rw [hcut] at h
      cases h
    | ok acc' =>
      rw [hcut] at h
      obtain ⟨_, hright, hlt, rfl⟩ := cutDoor_eq_ok.1 hcut
      rw [List.map_cons]
      exact .next hlt (doorSpan_lt hdoor) (ih hright hwidth h)

variable {wallLength : R} {found : List (R × R)}

theorem sortedDoors_perm (doors : List (R × R)) : (sortedDoors doors).Perm doors :=
  List.perm_insertionSort _ doors

theorem pairwise_sortedDoors (doors : List (R × R)) :
    ((sortedDoors doors).map doorSpan).Pairwise fun i j => i.1 ≤ j.1 := by
  have htotal : Std.Total fun d e : R × R => d.1 - d.2 / 2.0 ≤ e.1 - e.2 / 2.0 :=
    ⟨fun d e => le_total _ _⟩
  have htrans : IsTrans (R × R) fun d e => d.1 - d.2 / 2.0 ≤ e.1 - e.2 / 2.0 :=
    ⟨fun d e f => le_trans⟩
  exact List.pairwise_map.2 (List.pairwise_insertionSort _ doors)

/-- A wall is cut when its doors, from the left to the right, are spaced. -/
theorem segmentsAroundDoors_eq_ok (hlength : 0 < wallLength) (hwidth : ∀ d ∈ doors, 0 < d.2) :
    segmentsAroundDoors wallLength doors = .ok found ↔
      Spaced (-(wallLength / 2.0)) ((sortedDoors doors).map doorSpan) (wallLength / 2.0) ∧
        found = (openGaps (-(wallLength / 2.0)) ((sortedDoors doors).map doorSpan)
          (wallLength / 2.0)).map segmentOf := by
  have hhalf : 0 < wallLength / 2.0 := by positivity
  rw [segmentsAroundDoors_eq]
  constructor
  · intro h
    cases hloop : (sortedDoors doors).foldlM (cutDoor (wallLength / 2.0))
        ([], -(wallLength / 2.0)) with
    | error e =>
      rw [hloop] at h
      cases h
    | ok acc =>
      have hspaced := spaced_of_foldlM (by linarith)
        (fun d hd => hwidth d ((sortedDoors_perm doors).mem_iff.1 hd)) hloop
      obtain ⟨acc', hloop', hlast⟩ := foldlM_cutDoor [] le_rfl hspaced
      refine ⟨hspaced, ?_⟩
      rw [hloop'] at h
      cases h
      exact hlast
  · rintro ⟨hspaced, rfl⟩
    obtain ⟨acc, hloop, hlast⟩ := foldlM_cutDoor [] le_rfl hspaced
    rw [hloop, Except.map, hlast, List.nil_append]

/-- No two of the doors touch. -/
def Apart (doors : List (R × R)) : Prop :=
  doors.Pairwise fun d e =>
    (doorSpan d).2 < (doorSpan e).1 ∨ (doorSpan e).2 < (doorSpan d).1

theorem Apart.perm (h : Apart doors) (hperm : doors.Perm doors') : Apart doors' :=
  List.Pairwise.perm h hperm Or.symm

/-- Which doors a wall takes, in whatever order they are listed: the left end of the wall is not
part of it, the right end is. -/
theorem segmentsAroundDoors_isOk (hlength : 0 < wallLength) (hwidth : ∀ d ∈ doors, 0 < d.2) :
    (∃ found, segmentsAroundDoors wallLength doors = .ok found) ↔
      (∀ d ∈ doors, -(wallLength / 2.0) < (doorSpan d).1 ∧ (doorSpan d).2 ≤ wallLength / 2.0) ∧
        Apart doors := by
  have hhalf : 0 < wallLength / 2.0 := by positivity
  have hperm := sortedDoors_perm doors
  have hproper : ∀ i ∈ (sortedDoors doors).map doorSpan, i.1 < i.2 := by
    intro i hi
    obtain ⟨d, hd, rfl⟩ := List.mem_map.1 hi
    exact doorSpan_lt (hwidth d (hperm.mem_iff.1 hd))
  simp only [segmentsAroundDoors_eq_ok hlength hwidth, exists_and_left, exists_eq, and_true]
  rw [spaced_iff (by linarith) (pairwise_sortedDoors doors) hproper, List.forall_mem_map,
    List.pairwise_map]
  constructor
  · rintro ⟨hin, hapart⟩
    exact ⟨fun d hd => hin d (hperm.mem_iff.2 hd), Apart.perm hapart hperm⟩
  · rintro ⟨hin, hapart⟩
    exact ⟨fun d hd => hin d (hperm.mem_iff.1 hd), Apart.perm hapart hperm.symm⟩

end EscapeRoom
