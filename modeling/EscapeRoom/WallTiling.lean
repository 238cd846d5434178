import Mathlib.Algebra.Order.Field.Rat
import Mathlib.Tactic.Ring
import EscapeRoom.WallSegments

namespace EscapeRoom
set_option autoImplicit true
set_option linter.unusedSectionVars false

open Tiling

variable {R : Type} [Field R] [LinearOrder R]

/-- The stretch of an axis that is taken by a size around a centre. -/
def extent (centre size : R) : Piece R := .interval (centre - size / 2.0) (centre + size / 2.0)

variable [IsStrictOrderedRing R] {wallLength : R} {doors doors' found : List (R × R)}

theorem half_add_half (a : R) : a / 2.0 + a / 2.0 = a := by
  have htwo : (2.0 : R) = 2 := by norm_num
  rw [htwo, add_halves]

theorem segmentOf_ends (i : R × R) :
    (segmentOf i).2 - (segmentOf i).1 / 2.0 = i.1 ∧
      (segmentOf i).2 + (segmentOf i).1 / 2.0 = i.2 := by
  have hlow : (i.1 + i.2) / 2.0 - (i.2 - i.1) / 2.0 = i.1 := by
    have hsum : i.1 + i.2 - (i.2 - i.1) = i.1 + i.1 := by ring
    rw [← sub_div, hsum, add_div, half_add_half]
  have hhigh : (i.1 + i.2) / 2.0 + (i.2 - i.1) / 2.0 = i.2 := by
    have hsum : i.1 + i.2 + (i.2 - i.1) = i.2 + i.2 := by ring
    rw [← add_div, hsum, add_div, half_add_half]
  exact ⟨hlow, hhigh⟩

theorem extent_segmentOf (i : R × R) :
    extent (segmentOf i).2 (segmentOf i).1 = .interval i.1 i.2 := by
  rw [extent, (segmentOf_ends i).1, (segmentOf_ends i).2]

theorem segments_tile (hlength : 0 < wallLength)
    (hwidth : ∀ d ∈ doors, 0 < d.2) (h : segmentsAroundDoors wallLength doors = .ok found) :
    Tiles (found.map (fun s => extent s.2 s.1) ++ doors.map fun d => extent d.1 d.2)
      (.interval (-(wallLength / 2.0)) (wallLength / 2.0)) := by
  have hhalf : 0 < wallLength / 2.0 := by positivity
  obtain ⟨hspaced, rfl⟩ := (segmentsAroundDoors_eq_ok hlength hwidth).1 h
  have htiles := hspaced.tiles (by linarith)
  rw [List.map_append, List.map_map] at htiles
  apply htiles.perm
  apply List.Perm.append
  · rw [List.map_map]
    simp only [Function.comp_def, extent_segmentOf]
    exact .refl _
  · exact (sortedDoors_perm doors).map _

/-- The segments are what the doors leave of the wall. -/
structure CutsWall (wallLength : R) (doors found : List (R × R)) : Prop where
  positive : ∀ s ∈ found, 0 < s.1
  ordered : found.Pairwise fun s t => s.2 + s.1 / 2.0 < t.2 - t.1 / 2.0
  tiles : Tiles (found.map (fun s => extent s.2 s.1) ++ doors.map fun d => extent d.1 d.2)
    (.interval (-(wallLength / 2.0)) (wallLength / 2.0))

theorem segments_positive (hlength : 0 < wallLength) (hwidth : ∀ d ∈ doors, 0 < d.2)
    (h : segmentsAroundDoors wallLength doors = .ok found) : ∀ s ∈ found, 0 < s.1 := by
  obtain ⟨_, rfl⟩ := (segmentsAroundDoors_eq_ok hlength hwidth).1 h
  intro s hs
  obtain ⟨i, hi, rfl⟩ := List.mem_map.1 hs
  exact sub_pos.2 (of_decide_eq_true (List.mem_filter.1 hi).2)

theorem segments_ordered (hlength : 0 < wallLength) (hwidth : ∀ d ∈ doors, 0 < d.2)
    (h : segmentsAroundDoors wallLength doors = .ok found) :
    found.Pairwise fun s t => s.2 + s.1 / 2.0 < t.2 - t.1 / 2.0 := by
  obtain ⟨hspaced, rfl⟩ := (segmentsAroundDoors_eq_ok hlength hwidth).1 h
  apply List.pairwise_map.2
  apply (hspaced.gaps_pairwise.sublist List.filter_sublist).imp
  intro i j hij
  rw [(segmentOf_ends i).2, (segmentOf_ends j).1]
  exact hij

theorem toOption_eq_some {x : Except ε α} {a : α} : x.toOption = some a ↔ x = .ok a := by
  cases x with
  | error e => simp [Except.toOption]
  | ok b => simp [Except.toOption]

theorem segmentsAroundDoors_of_perm (hlength : 0 < wallLength) (hwidth : ∀ d ∈ doors, 0 < d.2)
    (hperm : doors.Perm doors') (h : segmentsAroundDoors wallLength doors = .ok found) :
    segmentsAroundDoors wallLength doors' = .ok found := by
  have hwidth' : ∀ d ∈ doors', 0 < d.2 := fun d hd => hwidth d (hperm.mem_iff.2 hd)
  obtain ⟨hin, hapart⟩ := (segmentsAroundDoors_isOk hlength hwidth).1 ⟨found, h⟩
  obtain ⟨found', h'⟩ := (segmentsAroundDoors_isOk hlength hwidth').2
    ⟨fun d hd => hin d (hperm.mem_iff.2 hd), hapart.perm hperm⟩
  obtain ⟨hspaced, rfl⟩ := (segmentsAroundDoors_eq_ok hlength hwidth).1 h
  obtain ⟨hspaced', rfl⟩ := (segmentsAroundDoors_eq_ok hlength hwidth').1 h'
  have hsorted : (sortedDoors doors).Perm (sortedDoors doors') :=
    (sortedDoors_perm doors).trans (hperm.trans (sortedDoors_perm doors').symm)
  rw [h', eq_of_perm (hsorted.map doorSpan) hspaced.pairwise hspaced'.pairwise]

/-- For every wall and list of doors: the cutting tiles the wall, and the order in which the doors
are listed does not matter. -/
theorem segmentsAroundDoors_tiles (hlength : 0 < wallLength) (hwidth : ∀ d ∈ doors, 0 < d.2) :
    (∀ found, segmentsAroundDoors wallLength doors = .ok found →
      CutsWall wallLength doors found) ∧
    ∀ doors', doors.Perm doors' →
      (segmentsAroundDoors wallLength doors').toOption =
        (segmentsAroundDoors wallLength doors).toOption := by
  constructor
  · intro found h
    exact ⟨segments_positive hlength hwidth h, segments_ordered hlength hwidth h,
      segments_tile hlength hwidth h⟩
  · intro doors' hperm
    have hwidth' : ∀ d ∈ doors', 0 < d.2 := fun d hd => hwidth d (hperm.mem_iff.2 hd)
    apply Option.ext
    intro found
    rw [toOption_eq_some, toOption_eq_some]
    exact ⟨segmentsAroundDoors_of_perm hlength hwidth' hperm.symm,
      segmentsAroundDoors_of_perm hlength hwidth hperm⟩

theorem segmentsAroundDoors_tiles_twoDoors :
    (∀ found, segmentsAroundDoors (6 : ℚ) [(1, 1), (-1, 1)] = .ok found →
      CutsWall 6 [(1, 1), (-1, 1)] found) ∧
    ∀ doors', [(1, 1), (-1, 1)].Perm doors' →
      (segmentsAroundDoors (6 : ℚ) doors').toOption =
        (segmentsAroundDoors 6 [(1, 1), (-1, 1)]).toOption :=
  segmentsAroundDoors_tiles (by decide) (by decide)

end EscapeRoom
