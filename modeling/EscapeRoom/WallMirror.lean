import Mathlib.Tactic.Ring
import EscapeRoom.WallSegments

namespace EscapeRoom
set_option autoImplicit true
set_option linter.unusedSectionVars false

open Tiling

variable {R : Type} [Field R]

/-- The doors measured from the other end of the wall. -/
def mirrorDoors (doors : List (R × R)) : List (R × R) := doors.map fun d => (-d.1, d.2)

def mirrorSegments (segments : List (R × R)) : List (R × R) :=
  (segments.map fun s => (s.1, -s.2)).reverse

theorem doorSpan_mirror (door : R × R) :
    doorSpan (-door.1, door.2) = (-(doorSpan door).2, -(doorSpan door).1) := by
  simp only [doorSpan, Prod.mk.injEq]
  constructor
  · ring
  · ring

theorem segmentOf_mirror (i : R × R) :
    segmentOf (-i.2, -i.1) = ((segmentOf i).1, -(segmentOf i).2) := by
  simp only [segmentOf, Prod.mk.injEq]
  constructor
  · ring
  · ring

theorem map_segmentOf_mirror (is : List (R × R)) :
    (mirror is).map segmentOf = mirrorSegments (is.map segmentOf) := by
  simp only [mirror, mirrorSegments, List.map_reverse, List.map_map, Function.comp_def,
    segmentOf_mirror]

variable [LinearOrder R] [IsStrictOrderedRing R] {wallLength : R} {doors : List (R × R)}

theorem openGaps_mirror (a : R) (is : List (R × R)) (b : R) :
    openGaps (-b) (mirror is) (-a) = mirror (openGaps a is b) := by
  rw [openGaps, gaps_mirror]
  simp only [openGaps, mirror, List.filter_reverse, List.filter_map, Function.comp_def,
    neg_lt_neg_iff]

/-- Where both walls can be cut, the doors are met in the opposite order. -/
theorem map_sortedDoors_mirror {a b a' b' : R}
    (h : Spaced a ((sortedDoors doors).map doorSpan) b)
    (h' : Spaced a' ((sortedDoors (mirrorDoors doors)).map doorSpan) b') :
    (sortedDoors (mirrorDoors doors)).map doorSpan =
      mirror ((sortedDoors doors).map doorSpan) := by
  have hmirror : (mirror ((sortedDoors doors).map doorSpan)).Pairwise
      fun i j => i.1 < j.1 ∧ i.2 < j.2 := by
    apply List.pairwise_reverse.2
    apply List.pairwise_map.2
    exact h.pairwise.imp fun hij => ⟨neg_lt_neg hij.2, neg_lt_neg hij.1⟩
  have hperm : ((sortedDoors (mirrorDoors doors)).map doorSpan).Perm
      (mirror ((sortedDoors doors).map doorSpan)) := by
    have hleft := (sortedDoors_perm (mirrorDoors doors)).map doorSpan
    have hright := ((sortedDoors_perm doors).map doorSpan).map fun i => (-i.2, -i.1)
    have hsame : (mirrorDoors doors).map doorSpan =
        (doors.map doorSpan).map fun i => (-i.2, -i.1) := by
      simp only [mirrorDoors, List.map_map, Function.comp_def, doorSpan_mirror]
    rw [hsame] at hleft
    exact (hleft.trans hright.symm).trans (List.reverse_perm _).symm
  exact eq_of_perm hperm h'.pairwise hmirror

/-- `_segments_around_doors` treats both ends of the wall alike. -/
structure MirrorSymmetric (wallLength : R) (doors : List (R × R)) : Prop where
  raises : (∃ e, segmentsAroundDoors wallLength doors = .error e) ↔
    ∃ e, segmentsAroundDoors wallLength (mirrorDoors doors) = .error e
  segments : ∀ found found', segmentsAroundDoors wallLength doors = .ok found →
    segmentsAroundDoors wallLength (mirrorDoors doors) = .ok found' →
      found' = mirrorSegments found

theorem mirrorDoors_width (hwidth : ∀ d ∈ doors, 0 < d.2) : ∀ d ∈ mirrorDoors doors, 0 < d.2 := by
  intro d hd
  obtain ⟨d', hd', rfl⟩ := List.mem_map.1 hd
  exact hwidth d' hd'

theorem segments_mirror (hlength : 0 < wallLength) (hwidth : ∀ d ∈ doors, 0 < d.2)
    {found found' : List (R × R)} (h : segmentsAroundDoors wallLength doors = .ok found)
    (h' : segmentsAroundDoors wallLength (mirrorDoors doors) = .ok found') :
    found' = mirrorSegments found := by
  obtain ⟨hspaced, rfl⟩ := (segmentsAroundDoors_eq_ok hlength hwidth).1 h
  obtain ⟨hspaced', rfl⟩ :=
    (segmentsAroundDoors_eq_ok hlength (mirrorDoors_width hwidth)).1 h'
  have hgaps := openGaps_mirror (-(wallLength / 2.0)) ((sortedDoors doors).map doorSpan)
    (wallLength / 2.0)
  rw [neg_neg] at hgaps
  rw [map_sortedDoors_mirror hspaced hspaced', hgaps, map_segmentOf_mirror]

theorem exists_error_iff {x : Except ε α} : (∃ e, x = .error e) ↔ ¬ ∃ a, x = .ok a := by
  cases x with
  | error e => simp
  | ok a => simp

/-- The doors lie on the wall, its ends included. -/
def OnWall (wallLength : R) (doors : List (R × R)) : Prop :=
  ∀ d ∈ doors, -(wallLength / 2.0) ≤ (doorSpan d).1 ∧ (doorSpan d).2 ≤ wallLength / 2.0

theorem apart_mirrorDoors : Apart (mirrorDoors doors) ↔ Apart doors := by
  rw [Apart, Apart, mirrorDoors, List.pairwise_map]
  simp only [doorSpan_mirror, neg_lt_neg_iff, or_comm]

theorem onWall_mirrorDoors : OnWall wallLength (mirrorDoors doors) ↔ OnWall wallLength doors := by
  rw [OnWall, OnWall, mirrorDoors, List.forall_mem_map]
  apply forall₂_congr
  intro d _
  rw [doorSpan_mirror, neg_le_neg_iff, neg_le, and_comm]

/-- Doors that stick out or touch are refused. -/
theorem fits_of_isOk (hlength : 0 < wallLength) (hwidth : ∀ d ∈ doors, 0 < d.2)
    (h : ∃ found, segmentsAroundDoors wallLength doors = .ok found) :
    OnWall wallLength doors ∧ Apart doors := by
  obtain ⟨hin, hapart⟩ := (segmentsAroundDoors_isOk hlength hwidth).1 h
  exact ⟨fun d hd => ⟨(hin d hd).1.le, (hin d hd).2⟩, hapart⟩

/-- Of the others, those with a door flush with the left end are refused too. -/
theorem isOk_iff (hlength : 0 < wallLength) (hwidth : ∀ d ∈ doors, 0 < d.2)
    (hon : OnWall wallLength doors) (hapart : Apart doors) :
    (∃ found, segmentsAroundDoors wallLength doors = .ok found) ↔
      ¬ ∃ d ∈ doors, (doorSpan d).1 = -(wallLength / 2.0) := by
  rw [segmentsAroundDoors_isOk hlength hwidth]
  constructor
  · rintro ⟨hin, _⟩ ⟨d, hd, heq⟩
    exact (hin d hd).1.ne' heq
  · intro hflush
    refine ⟨fun d hd => ⟨(hon d hd).1.lt_of_ne ?_, (hon d hd).2⟩, hapart⟩
    intro heq
    exact hflush ⟨d, hd, heq.symm⟩

theorem isOk_mirror_iff (hlength : 0 < wallLength) (hwidth : ∀ d ∈ doors, 0 < d.2)
    (hon : OnWall wallLength doors) (hapart : Apart doors) :
    (∃ found, segmentsAroundDoors wallLength (mirrorDoors doors) = .ok found) ↔
      ¬ ∃ d ∈ doors, (doorSpan d).2 = wallLength / 2.0 := by
  rw [isOk_iff hlength (mirrorDoors_width hwidth) (onWall_mirrorDoors.2 hon)
    (apart_mirrorDoors.2 hapart), mirrorDoors]
  simp only [List.mem_map, exists_exists_and_eq_and, doorSpan_mirror, neg_inj]

/-- The cutting is symmetric unless the doors fit and just one end of the wall has a door flush
with it. -/
theorem mirrorSymmetric_iff (hlength : 0 < wallLength) (hwidth : ∀ d ∈ doors, 0 < d.2) :
    MirrorSymmetric wallLength doors ↔ (OnWall wallLength doors → Apart doors →
      ((∃ d ∈ doors, (doorSpan d).1 = -(wallLength / 2.0)) ↔
        ∃ d ∈ doors, (doorSpan d).2 = wallLength / 2.0)) := by
  constructor
  · intro hsym hon hapart
    have hraises := hsym.raises
    rw [exists_error_iff, exists_error_iff, isOk_iff hlength hwidth hon hapart,
      isOk_mirror_iff hlength hwidth hon hapart, not_not, not_not] at hraises
    exact hraises
  · intro hends
    refine ⟨?_, fun _ _ => segments_mirror hlength hwidth⟩
    rw [exists_error_iff, exists_error_iff, not_iff_not]
    by_cases hfit : OnWall wallLength doors ∧ Apart doors
    · obtain ⟨hon, hapart⟩ := hfit
      rw [isOk_iff hlength hwidth hon hapart, isOk_mirror_iff hlength hwidth hon hapart,
        hends hon hapart]
    · have hrefused : ¬ ∃ found, segmentsAroundDoors wallLength doors = .ok found := fun h =>
        hfit (fits_of_isOk hlength hwidth h)
      have hrefused' : ¬ ∃ found, segmentsAroundDoors wallLength (mirrorDoors doors) =
          .ok found := by
        intro h
        obtain ⟨hon, hapart⟩ := fits_of_isOk hlength (mirrorDoors_width hwidth) h
        exact hfit ⟨onWall_mirrorDoors.1 hon, apart_mirrorDoors.1 hapart⟩
      exact iff_of_false hrefused hrefused'

theorem mirrorSymmetric_iff_middle : MirrorSymmetric (6 : ℚ) [(1, 1)] := by
  have hlength : (0 : ℚ) < 6 := by decide
  have hwidth : ∀ d ∈ [((1, 1) : ℚ × ℚ)], 0 < d.2 := by decide
  refine (mirrorSymmetric_iff hlength hwidth).2 fun _ _ => iff_of_false ?_ ?_
  · norm_num [doorSpan]
  · norm_num [doorSpan]

/-- A door flush with the left end of a wall is taken for one that overlaps the door before it;
flush with the right end it is cut out. -/
theorem not_mirrorSymmetric : ¬ MirrorSymmetric (6 : ℚ) [(-2.5, 1)] := by
  intro hsym
  have hleft : segmentsAroundDoors (6 : ℚ) [(-2.5, 1)] =
      .error (.overlapsPreviousDoor (-2.5) 1 (-3)) := by
    norm_num [segmentsAroundDoors, sortedDoors, cutDoor, bind, Except.bind]
  have hright : segmentsAroundDoors (6 : ℚ) (mirrorDoors [(-2.5, 1)]) = .ok [(5, -0.5)] := by
    norm_num [segmentsAroundDoors, sortedDoors, mirrorDoors, cutDoor, bind, Except.bind, pure,
      Except.pure]
  obtain ⟨e, he⟩ := hsym.raises.1 ⟨_, hleft⟩
  rw [hright] at he
  cases he

end EscapeRoom
