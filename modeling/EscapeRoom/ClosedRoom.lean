import Mathlib.Algebra.Order.Field.Rat
import EscapeRoom.WallTiling

namespace EscapeRoom
set_option autoImplicit true
set_option linter.unusedSectionVars false

open Tiling

section lists

theorem mapM_eq_ok_iff {f : α → Except ε β} {xs : List α} {ys : List β} :
    xs.mapM f = .ok ys ↔ List.Forall₂ (fun x y => f x = .ok y) xs ys := by
  induction xs generalizing ys with
  | nil =>
    rw [List.mapM_nil, List.forall₂_nil_left_iff]
    exact ⟨fun h => (Except.ok.inj h).symm, fun h => congrArg Except.ok h.symm⟩
  | cons x xs ih =>
    rw [List.mapM_cons, List.forall₂_cons_left_iff]
    constructor
    · intro h
      cases hx : f x with
      | error e =>
        rw [hx] at h
        cases h
      | ok y =>
        cases hxs : xs.mapM f with
        | error e =>
          rw [hx, hxs] at h
          cases h
        | ok ys' =>
          rw [hx, hxs] at h
          exact ⟨y, ys', rfl, ih.1 hxs, (Except.ok.inj h).symm⟩
    · rintro ⟨y, ys', hx, hxs, rfl⟩
      rw [hx, ih.2 hxs]
      rfl

theorem exists_mapM_eq_ok {f : α → Except ε β} {P : α → β → Prop} {xs : List α}
    (h : ∀ x ∈ xs, ∃ y, f x = .ok y ∧ P x y) :
    ∃ ys, xs.mapM f = .ok ys ∧ List.Forall₂ P xs ys := by
  induction xs with
  | nil => exact ⟨[], rfl, .nil⟩
  | cons x xs ih =>
    obtain ⟨⟨y, hy, hP⟩, h⟩ := List.forall_mem_cons.1 h
    obtain ⟨ys, hys, hall⟩ := ih h
    refine ⟨y :: ys, ?_, .cons hP hall⟩
    exact mapM_eq_ok_iff.2 (.cons hy (mapM_eq_ok_iff.1 hys))

theorem map_fst_zipIdx (f : α → β) (xs : List α) : (xs.zipIdx.map fun x => f x.1) = xs.map f := by
  have hfst := congrArg (List.map f) (List.zipIdx_map_fst 0 xs)
  rw [List.map_map] at hfst
  exact hfst

theorem map_eq_of_forall₂ {P : α → β → Prop} {xs : List α} {ys : List β}
    (h : List.Forall₂ P xs ys) {f : α → γ} {g : β → γ} (hP : ∀ x y, P x y → g y = f x) :
    ys.map g = xs.map f := by
  induction h with
  | nil => rfl
  | cons hxy _ ih => rw [List.map_cons, List.map_cons, ih, hP _ _ hxy]

theorem exists_of_mem_forall₂ {P : α → β → Prop} {xs : List α} {ys : List β}
    (h : List.Forall₂ P xs ys) {y : β} (hy : y ∈ ys) : ∃ x ∈ xs, P x y := by
  induction h with
  | nil => cases hy
  | cons hxy _ ih =>
    rw [List.exists_mem_cons_iff]
    obtain rfl | hy := List.mem_cons.1 hy
    · exact .inl hxy
    · exact .inr (ih hy)

/-- A list put together again from its elements of each kind. -/
theorem flatMap_filter_perm [DecidableEq κ] (kind : α → κ) {kinds : List κ}
    (hkinds : kinds.Nodup) {xs : List α} (hxs : ∀ x ∈ xs, kind x ∈ kinds) :
    (kinds.flatMap fun k => xs.filter fun x => decide (kind x = k)).Perm xs := by
  induction kinds generalizing xs with
  | nil =>
    cases xs with
    | nil => exact .nil
    | cons x xs => cases hxs x List.mem_cons_self
  | cons k kinds ih =>
    obtain ⟨hk, hkinds⟩ := List.nodup_cons.1 hkinds
    have hrest : (kinds.flatMap fun k' => xs.filter fun x => decide (kind x = k')).Perm
        (xs.filter fun x => !decide (kind x = k)) := by
      have hkind : ∀ x ∈ xs.filter fun x => !decide (kind x = k), kind x ∈ kinds := by
        intro x hx
        obtain ⟨hx, hne⟩ := List.mem_filter.1 hx
        obtain heq | hmem := List.mem_cons.1 (hxs x hx)
        · simp [heq] at hne
        · exact hmem
      have hsame : (kinds.flatMap fun k' => xs.filter fun x => decide (kind x = k')) =
          kinds.flatMap fun k' => (xs.filter fun x => !decide (kind x = k)).filter
            fun x => decide (kind x = k') := by
        apply List.flatMap_congr
        intro k' hk'
        rw [List.filter_filter]
        apply List.filter_congr
        intro x _
        by_cases hx : kind x = k'
        · have hne : k' ≠ k := fun h => hk (h ▸ hk')
          simp [hx, hne]
        · simp [hx]
      rw [hsame]
      exact ih hkinds hkind
    rw [List.flatMap_cons]
    exact (hrest.append_left _).trans (List.filter_append_perm _ _)

end lists

variable {R : Type} [Field R]

section pieces

variable [LinearOrder R]

def Shape.piece (s : Shape R) : Piece (R × R × R) :=
  (extent s.center.1 s.size.1).prod
    ((extent s.center.2.1 s.size.2.1).prod (extent s.center.2.2 s.size.2.2))

/-- What a shape covers of the floor. -/
def Shape.footprint (s : Shape R) : Set (R × R) :=
  ((extent s.center.1 s.size.1).prod (extent s.center.2.1 s.size.2.1)).carrier

/-- A stretch of a wall, over its thickness and its height. -/
def wallPiece (room : RoomConfig R) (wall : Wall R) (stretch : Piece R) : Piece (R × R × R) :=
  match wall.axis with
  | .x => stretch.prod ((extent wall.centreY room.wallThickness).prod (.interval 0 room.height))
  | .y => (extent wall.centreX room.wallThickness).prod (stretch.prod (.interval 0 room.height))

/-- The walls with the `wall_side` of each. -/
def RoomConfig.sides (room : RoomConfig R) : List (Wall R × Nat) :=
  (wallLayout room.width room.length room.wallThickness).zipIdx

def RoomConfig.wallOf (room : RoomConfig R) (wallSide : Int) : Wall R :=
  (wallLayout room.width room.length room.wallThickness).getD wallSide.toNat ⟨.x, 0, 0, 0, ""⟩

end pieces

variable [LinearOrder R] [IsStrictOrderedRing R] {room : RoomConfig R}

theorem extent_half (height : R) : extent (height / 2.0) height = .interval 0 height := by
  rw [extent, sub_self, half_add_half]

theorem wallShape_piece {wall : Wall R} (h : wall ∈ wallLayout room.width room.length
    room.wallThickness) (segment : R × R) (i : Nat) :
    (wallShape room wall segment i).piece =
      wallPiece room wall (extent segment.2 segment.1) := by
  simp only [wallLayout, List.mem_cons, List.not_mem_nil, or_false] at h
  obtain rfl | rfl | rfl | rfl := h <;>
    simp only [wallShape, Shape.piece, wallPiece, extent_half, zero_add]

theorem wallPiece_tiles {stretches : List (Piece R)} {stretch : Piece R}
    (h : Tiles stretches stretch) (room : RoomConfig R) (wall : Wall R) :
    Tiles (stretches.map (wallPiece room wall)) (wallPiece room wall stretch) := by
  cases haxis : wall.axis with
  | x =>
    have hwall : wallPiece room wall = fun p =>
        p.prod ((extent wall.centreY room.wallThickness).prod (.interval 0 room.height)) := by
      funext p
      simp only [wallPiece, haxis]
    rw [hwall]
    exact h.prod_right _
  | y =>
    have hwall : wallPiece room wall = (extent wall.centreX room.wallThickness).prod ∘ fun p =>
        p.prod (.interval 0 room.height) := by
      funext p
      simp only [wallPiece, haxis, Function.comp_apply]
    rw [hwall, ← List.map_map]
    exact (h.prod_right _).prod_left _

/-- The cuboid a door takes out of its wall. -/
def doorPiece (room : RoomConfig R) (door : DoorConfig R) : Piece (R × R × R) :=
  wallPiece room (room.wallOf door.wallSide) (extent door.centerOffset door.width)

theorem wallOf_eq {x : Wall R × Nat} (h : x ∈ room.sides) :
    x.1 ∈ wallLayout room.width room.length room.wallThickness ∧ room.wallOf x.2 = x.1 := by
  have hget := List.mem_zipIdx_iff_getElem?.1 h
  refine ⟨List.mem_of_getElem? hget, ?_⟩
  rw [RoomConfig.wallOf, Int.toNat_natCast, List.getD_eq_getElem?_getD, hget, Option.getD_some]

/-- The whole of a wall, its doors included. -/
def wholeWall (room : RoomConfig R) (wall : Wall R) : Piece (R × R × R) :=
  wallPiece room wall (.interval (-(wall.length / 2.0)) (wall.length / 2.0))

def RoomConfig.doorsOn (room : RoomConfig R) (wallSide : Int) : List (DoorConfig R) :=
  room.doors.filter fun d => decide (d.wallSide = wallSide)

theorem wallDoors_width (hwidth : ∀ d ∈ room.doors, 0 < d.width) (side : Int) :
    ∀ d ∈ room.wallDoors side, 0 < d.2 := by
  intro d hd
  obtain ⟨door, hdoor, rfl⟩ := List.mem_map.1 hd
  exact hwidth door (List.mem_of_mem_filter hdoor)

theorem buildWall_eq_ok {wall : Wall R} {side : Int} {shapes : List (Shape R)}
    (h : buildWall room wall side = .ok shapes) :
    ∃ found, segmentsAroundDoors wall.length (room.wallDoors side) = .ok found ∧
      shapes = found.zipIdx.map fun x => wallShape room wall x.1 x.2 := by
  rw [buildWall] at h
  cases hfound : segmentsAroundDoors wall.length (room.wallDoors side) with
  | error e =>
    rw [hfound] at h
    cases h
  | ok found =>
    rw [hfound] at h
    exact ⟨found, rfl, (Except.ok.inj h).symm⟩

theorem side_tiles {x : Wall R × Nat} (hx : x ∈ room.sides) (hlength : 0 < x.1.length)
    (hwidth : ∀ d ∈ room.doors, 0 < d.width) {shapes : List (Shape R)}
    (h : buildWall room x.1 x.2 = .ok shapes) :
    Tiles (shapes.map Shape.piece ++ (room.doorsOn x.2).map (doorPiece room))
      (wholeWall room x.1) := by
  obtain ⟨found, hfound, rfl⟩ := buildWall_eq_ok h
  obtain ⟨hwall, hof⟩ := wallOf_eq hx
  have hstretch := segments_tile hlength (wallDoors_width hwidth x.2) hfound
  have htiles := wallPiece_tiles hstretch room x.1
  have hshapes : (found.zipIdx.map fun y => wallShape room x.1 y.1 y.2).map Shape.piece =
      (found.map fun s => extent s.2 s.1).map (wallPiece room x.1) := by
    rw [List.map_map, List.map_map, ← map_fst_zipIdx _ found]
    apply List.map_congr_left
    intro y _
    exact wallShape_piece hwall y.1 y.2
  have hdoors : (room.doorsOn x.2).map (doorPiece room) =
      ((room.wallDoors x.2).map fun d => extent d.1 d.2).map (wallPiece room x.1) := by
    rw [RoomConfig.wallDoors, List.map_map, List.map_map]
    apply List.map_congr_left
    intro d hd
    have hside : d.wallSide = x.2 := of_decide_eq_true (List.mem_filter.1 hd).2
    rw [doorPiece, hside, hof]
    rfl
  rw [hshapes, hdoors, ← List.map_append]
  exact htiles

theorem walls_tile {sides : List (Wall R × Nat)} {shapess : List (List (Shape R))}
    (hsides : ∀ x ∈ sides, x ∈ room.sides) (hlength : ∀ x ∈ sides, 0 < x.1.length)
    (hwidth : ∀ d ∈ room.doors, 0 < d.width)
    (hapart : sides.Pairwise fun x y => ∀ p ∈ (wholeWall room x.1).inner,
      p ∉ (wholeWall room y.1).inner)
    (h : List.Forall₂ (fun x shapes => buildWall room x.1 x.2 = .ok shapes) sides shapess) :
    Tiles (shapess.flatten.map Shape.piece ++ (sides.flatMap fun x => room.doorsOn x.2).map
        (doorPiece room))
      (.unions (sides.map fun x => wholeWall room x.1)) := by
  induction h with
  | nil => exact .nil
  | @cons x shapes sides shapess hx _ ih =>
    obtain ⟨hside, hsides⟩ := List.forall_mem_cons.1 hsides
    obtain ⟨hlen, hlength⟩ := List.forall_mem_cons.1 hlength
    obtain ⟨hfirst, hapart⟩ := List.pairwise_cons.1 hapart
    have hall := (side_tiles hside hlen hwidth hx).append (ih hsides hlength hapart) (by
      intro p hp hrest
      obtain ⟨_, hw, hp'⟩ := Piece.mem_inner_unions.1 hrest
      obtain ⟨y, hy, rfl⟩ := List.mem_map.1 hw
      exact hfirst y hy p hp hp')
    apply hall.perm
    simp only [List.flatten_cons, List.flatMap_cons, List.map_append, List.append_assoc]
    exact (List.perm_append_comm_assoc _ _ _).append_left _

/-- The shape is no smaller than it says, stands on the floor and reaches up to the ceiling. -/
structure Standing (room : RoomConfig R) (s : Shape R) : Prop where
  sizeX : 0 < s.size.1
  sizeY : 0 < s.size.2.1
  sizeZ : 0 < s.size.2.2
  floor : s.center.2.2 - s.size.2.2 / 2.0 = 0
  ceiling : s.center.2.2 + s.size.2.2 / 2.0 = room.height

/-- The floor plan of the walls: the outer rectangle without the open room. -/
def RoomConfig.ring (room : RoomConfig R) : Set (R × R) :=
  {p | (-(room.width / 2.0) - room.wallThickness ≤ p.1 ∧
      p.1 ≤ room.width / 2.0 + room.wallThickness) ∧
    (-(room.length / 2.0) - room.wallThickness ≤ p.2 ∧
      p.2 ≤ room.length / 2.0 + room.wallThickness) ∧
    ¬ ((-(room.width / 2.0) < p.1 ∧ p.1 < room.width / 2.0) ∧
      -(room.length / 2.0) < p.2 ∧ p.2 < room.length / 2.0)}

/-- The shapes close the room off: they stand in full height on the whole ring around it, and no
two of them overlap. -/
structure Encloses (room : RoomConfig R) (shapes : List (Shape R)) : Prop where
  disjoint : shapes.Pairwise fun s t => ∀ p ∈ s.piece.inner, p ∉ t.piece.inner
  standing : ∀ s ∈ shapes, Standing room s
  covers : ∀ p, (∃ s ∈ shapes, p ∈ s.footprint) ↔ p ∈ room.ring

theorem map_wholeWall (room : RoomConfig R) :
    (room.sides.map fun x => wholeWall room x.1) =
      [(Piece.interval (-(room.width / 2.0) - room.wallThickness)
          (room.width / 2.0 + room.wallThickness)).prod
        ((Piece.interval (room.length / 2.0) (room.length / 2.0 + room.wallThickness)).prod
          (.interval 0 room.height)),
      (Piece.interval (room.width / 2.0) (room.width / 2.0 + room.wallThickness)).prod
        ((Piece.interval (-(room.length / 2.0)) (room.length / 2.0)).prod
          (.interval 0 room.height)),
      (Piece.interval (-(room.width / 2.0) - room.wallThickness)
          (room.width / 2.0 + room.wallThickness)).prod
        ((Piece.interval (-(room.length / 2.0) - room.wallThickness) (-(room.length / 2.0))).prod
          (.interval 0 room.height)),
      (Piece.interval (-(room.width / 2.0) - room.wallThickness) (-(room.width / 2.0))).prod
        ((Piece.interval (-(room.length / 2.0)) (room.length / 2.0)).prod
          (.interval 0 room.height))] := by
  have htwo : (2.0 : R) = 2 := by norm_num
  have hlong : (room.width + 2.0 * room.wallThickness) / 2.0 =
      room.width / 2.0 + room.wallThickness := by
    rw [htwo]
    ring
  have hupper (a : R) : extent (a + room.wallThickness / 2.0) room.wallThickness =
      .interval a (a + room.wallThickness) := by
    rw [extent, add_sub_cancel_right, add_assoc, half_add_half]
  have hlower (a : R) : extent (a - room.wallThickness / 2.0) room.wallThickness =
      .interval (a - room.wallThickness) a := by
    rw [extent, sub_add_cancel, sub_sub, half_add_half]
  simp only [RoomConfig.sides, wallLayout, List.zipIdx_cons, List.zipIdx_nil, List.map_cons,
    List.map_nil, wholeWall, wallPiece, hlong, hupper, hlower, neg_add']

/-- No two walls overlap: the northern and the southern one go past the ends of the others. -/
theorem sides_apart (hw : 0 < room.width) (hl : 0 < room.length) :
    room.sides.Pairwise fun x y => ∀ p ∈ (wholeWall room x.1).inner,
      p ∉ (wholeWall room y.1).inner := by
  have hhw : 0 < room.width / 2.0 := by positivity
  have hhl : 0 < room.length / 2.0 := by positivity
  have hwalls : (room.sides.map fun x => wholeWall room x.1).Pairwise
      fun u v => ∀ p ∈ u.inner, p ∉ v.inner := by
    rw [map_wholeWall]
    generalize room.width / 2.0 = a at hhw ⊢
    generalize room.length / 2.0 = b at hhl ⊢
    have hSN : -b ≤ b := by linarith
    have hWE : -a ≤ a := by linarith
    simp only [List.pairwise_cons, List.forall_mem_cons]
    refine ⟨⟨?_, ?_, ?_, by simp⟩, ⟨?_, ?_, by simp⟩, ⟨?_, by simp⟩, by simp, .nil⟩
    -- the northern wall lies beyond the other three
    · exact Piece.prod_apart (.inr (Piece.prod_apart (.inl (Piece.interval_apart (.inr le_rfl)))))
    · exact Piece.prod_apart (.inr (Piece.prod_apart (.inl (Piece.interval_apart (.inr hSN)))))
    · exact Piece.prod_apart (.inr (Piece.prod_apart (.inl (Piece.interval_apart (.inr le_rfl)))))
    -- the southern one before the eastern and the western one, which lie on either side
    · exact Piece.prod_apart (.inr (Piece.prod_apart (.inl (Piece.interval_apart (.inr le_rfl)))))
    · exact Piece.prod_apart (.inl (Piece.interval_apart (.inr hWE)))
    · exact Piece.prod_apart (.inr (Piece.prod_apart (.inl (Piece.interval_apart (.inl le_rfl)))))
  exact List.pairwise_map.1 hwalls

theorem mem_walls (hw : 0 < room.width) (hl : 0 < room.length) (hh : 0 < room.height)
    (ht : 0 < room.wallThickness) {p : R × R} :
    (p.1, p.2, 0) ∈ (Piece.unions (room.sides.map fun x => wholeWall room x.1)).carrier ↔
      p ∈ room.ring := by
  have hhw : 0 < room.width / 2.0 := by positivity
  have hhl : 0 < room.length / 2.0 := by positivity
  rw [map_wholeWall, Piece.mem_carrier_unions]
  simp only [List.mem_cons, List.not_mem_nil, or_false, exists_eq_or_imp, exists_eq_left,
    Piece.prod, Piece.interval, Set.mem_prod, Set.mem_Icc, le_rfl, hh.le, and_true, RoomConfig.ring,
    Set.mem_ofPred_eq]
  generalize room.width / 2.0 = a at hhw ⊢
  generalize room.length / 2.0 = b at hhl ⊢
  constructor
  · rintro (⟨hx, hy⟩ | ⟨hx, hy⟩ | ⟨hx, hy⟩ | ⟨hx, hy⟩)
    · refine ⟨hx, ⟨by linarith, hy.2⟩, fun hin => ?_⟩
      linarith [hin.2.2]
    · refine ⟨⟨by linarith, hx.2⟩, ⟨by linarith, by linarith⟩, fun hin => ?_⟩
      linarith [hin.1.2]
    · refine ⟨hx, ⟨hy.1, by linarith⟩, fun hin => ?_⟩
      linarith [hin.2.1]
    · refine ⟨⟨hx.1, by linarith⟩, ⟨by linarith, by linarith⟩, fun hin => ?_⟩
      linarith [hin.1.1]
  · rintro ⟨hx, hy, hout⟩
    -- north, south, and between them east or west
    obtain hnorth | hnorth := le_or_gt b p.2
    · exact .inl ⟨hx, hnorth, hy.2⟩
    · obtain hsouth | hsouth := le_or_gt p.2 (-b)
      · exact .inr (.inr (.inl ⟨hx, hy.1, hsouth⟩))
      · obtain heast | heast := le_or_gt a p.1
        · exact .inr (.inl ⟨⟨heast, hx.2⟩, hsouth.le, hnorth.le⟩)
        · obtain hwest | hwest := le_or_gt p.1 (-a)
          · exact .inr (.inr (.inr ⟨⟨hx.1, hwest⟩, hsouth.le, hnorth.le⟩))
          · exact (hout ⟨⟨hwest, heast⟩, hsouth, hnorth⟩).elim

theorem wallShape_standing (ht : 0 < room.wallThickness) (hh : 0 < room.height) (wall : Wall R)
    {segment : R × R} (hsegment : 0 < segment.1) (i : Nat) :
    Standing room (wallShape room wall segment i) := by
  obtain ⟨axis, _⟩ := wall
  cases axis with
  | x => exact ⟨hsegment, ht, hh, sub_self _, half_add_half _⟩
  | y => exact ⟨ht, hsegment, hh, sub_self _, half_add_half _⟩

/-- The panel of a door is the stretch of its wall that the door takes. -/
theorem buildDoor_eq_ok (ht : 0 < room.wallThickness) (hh : 0 < room.height) {door : DoorConfig R}
    (h : 0 < door.width ∧ 0 ≤ door.wallSide ∧ door.wallSide ≤ 3) (idx : Nat) :
    ∃ shape, buildDoor room door idx = .ok shape ∧
      shape.piece = doorPiece room door ∧ Standing room shape := by
  obtain ⟨side, centre, width, color⟩ := door
  obtain ⟨hwidth, hside⟩ := h
  have hcases : side = 0 ∨ side = 1 ∨ side = 2 ∨ side = 3 := by
    dsimp only at hside
    omega
  obtain rfl | rfl | rfl | rfl := hcases
  · refine ⟨_, rfl, ?_, hwidth, ht, hh, sub_self _, half_add_half _⟩
    simp [doorPiece, RoomConfig.wallOf, wallLayout, Shape.piece, wallPiece, extent_half]
  · refine ⟨_, rfl, ?_, ht, hwidth, hh, sub_self _, half_add_half _⟩
    simp [doorPiece, RoomConfig.wallOf, wallLayout, Shape.piece, wallPiece, extent_half]
  · refine ⟨_, rfl, ?_, hwidth, ht, hh, sub_self _, half_add_half _⟩
    simp [doorPiece, RoomConfig.wallOf, wallLayout, Shape.piece, wallPiece, extent_half]
  · refine ⟨_, rfl, ?_, ht, hwidth, hh, sub_self _, half_add_half _⟩
    simp [doorPiece, RoomConfig.wallOf, wallLayout, Shape.piece, wallPiece, extent_half]

theorem buildWalls_eq_ok {walls : List (Shape R)} (h : buildWalls room = .ok walls) :
    ∃ shapess, List.Forall₂ (fun x shapes => buildWall room x.1 x.2 = .ok shapes)
      room.sides shapess ∧ walls = shapess.flatten := by
  rw [buildWalls] at h
  change Except.bind (room.sides.mapM fun x => buildWall room x.1 x.2) _ = _ at h
  cases hloop : room.sides.mapM fun x => buildWall room x.1 x.2 with
  | error e =>
    rw [hloop] at h
    cases h
  | ok shapess =>
    rw [hloop] at h
    exact ⟨shapess, mapM_eq_ok_iff.1 hloop, (Except.ok.inj h).symm⟩

theorem buildDoors_eq_ok (ht : 0 < room.wallThickness) (hh : 0 < room.height)
    (hdoors : ∀ d ∈ room.doors, 0 < d.width ∧ 0 ≤ d.wallSide ∧ d.wallSide ≤ 3) :
    ∃ panels, buildDoors room = .ok panels ∧
      panels.map Shape.piece = room.doors.map (doorPiece room) ∧
      ∀ s ∈ panels, Standing room s := by
  have hturns : ∀ x ∈ room.doors.zipIdx, ∃ s, buildDoor room x.1 x.2 = .ok s ∧
      (s.piece = doorPiece room x.1 ∧ Standing room s) := by
    intro x hx
    exact buildDoor_eq_ok ht hh (hdoors x.1 (List.fst_mem_of_mem_zipIdx hx)) x.2
  obtain ⟨panels, hloop, hall⟩ := exists_mapM_eq_ok hturns
  refine ⟨panels, hloop, ?_, ?_⟩
  · rw [map_eq_of_forall₂ hall fun x s hs => hs.1, map_fst_zipIdx]
  · intro s hs
    obtain ⟨_, _, _, hstanding⟩ := exists_of_mem_forall₂ hall hs
    exact hstanding

theorem length_pos (hw : 0 < room.width) (hl : 0 < room.length) (ht : 0 < room.wallThickness) :
    ∀ x ∈ room.sides, 0 < x.1.length := by
  have hlong : 0 < room.width + 2.0 * room.wallThickness := by positivity
  simp [RoomConfig.sides, wallLayout, hl, hlong]

theorem doorsOn_perm (hdoors : ∀ d ∈ room.doors, 0 ≤ d.wallSide ∧ d.wallSide ≤ 3) :
    (room.sides.flatMap fun x => room.doorsOn x.2).Perm room.doors := by
  have hsides : ([0, 1, 2, 3] : List Int).Nodup := by decide
  apply flatMap_filter_perm DoorConfig.wallSide hsides
  intro d hd
  have hside := hdoors d hd
  simp only [List.mem_cons, List.not_mem_nil, or_false]
  omega

theorem buildWall_standing (ht : 0 < room.wallThickness) (hh : 0 < room.height)
    (hwidth : ∀ d ∈ room.doors, 0 < d.width) {wall : Wall R} (hlength : 0 < wall.length)
    {side : Int} {shapes : List (Shape R)} (h : buildWall room wall side = .ok shapes) :
    ∀ s ∈ shapes, Standing room s := by
  obtain ⟨found, hfound, rfl⟩ := buildWall_eq_ok h
  intro s hs
  obtain ⟨x, hx, rfl⟩ := List.mem_map.1 hs
  apply wallShape_standing ht hh
  exact segments_positive hlength (wallDoors_width hwidth side) hfound x.1
    (List.fst_mem_of_mem_zipIdx hx)

theorem mem_piece {s : Shape R} (hs : Standing room s) (hh : 0 < room.height) {p : R × R} :
    (p.1, p.2, 0) ∈ s.piece.carrier ↔ p ∈ s.footprint := by
  have hfloor : (0 : R) ∈ (extent s.center.2.2 s.size.2.2).carrier := by
    rw [extent, hs.floor, hs.ceiling]
    exact ⟨le_rfl, hh.le⟩
  constructor
  · intro hp
    exact ⟨hp.1, hp.2.1⟩
  · intro hp
    exact ⟨hp.1, hp.2, hfloor⟩

/-- The walls and the door panels close the room off. -/
theorem buildWalls_encloses (hw : 0 < room.width) (hl : 0 < room.length)
    (ht : 0 < room.wallThickness) (hh : 0 < room.height)
    (hdoors : ∀ d ∈ room.doors, 0 < d.width ∧ 0 ≤ d.wallSide ∧ d.wallSide ≤ 3)
    {walls : List (Shape R)} (h : buildWalls room = .ok walls) :
    ∃ panels, buildDoors room = .ok panels ∧ Encloses room (walls ++ panels) := by
  have hwidth : ∀ d ∈ room.doors, 0 < d.width := fun d hd => (hdoors d hd).1
  obtain ⟨panels, hpanels, hpieces, hstanding⟩ := buildDoors_eq_ok ht hh hdoors
  obtain ⟨shapess, hloop, rfl⟩ := buildWalls_eq_ok h
  have htiles := walls_tile (fun x hx => hx) (length_pos hw hl ht) hwidth (sides_apart hw hl) hloop
  have hall : Tiles ((shapess.flatten ++ panels).map Shape.piece)
      (.unions (room.sides.map fun x => wholeWall room x.1)) := by
    apply htiles.perm
    rw [List.map_append, hpieces]
    exact ((doorsOn_perm fun d hd => (hdoors d hd).2).map _).append_left _
  have hstand : ∀ s ∈ shapess.flatten ++ panels, Standing room s := by
    intro s hs
    obtain hs | hs := List.mem_append.1 hs
    · obtain ⟨shapes, hshapes, hs⟩ := List.mem_flatten.1 hs
      obtain ⟨x, hx, hbuilt⟩ := exists_of_mem_forall₂ hloop hshapes
      exact buildWall_standing ht hh hwidth (length_pos hw hl ht x hx) hbuilt s hs
    · exact hstanding s hs
  refine ⟨panels, hpanels, List.pairwise_map.1 hall.apart, hstand, fun p => ?_⟩
  rw [← mem_walls hw hl hh ht, hall.covers]
  simp only [List.mem_map, exists_exists_and_eq_and]
  exact exists_congr fun s => and_congr_right fun hs => (mem_piece (hstand s hs) hh).symm

/-- A room of 4 by 6 with two doors in its northern wall and one in its western wall. -/
def doorRoom : RoomConfig ℚ :=
  ⟨4, 6, 1, 0.5, [⟨0, 1, 1, none⟩, ⟨3, -0.5, 2, none⟩, ⟨0, -1, 1, none⟩]⟩

theorem buildWalls_encloses_doorRoom : ∃ walls panels, buildWalls doorRoom = .ok walls ∧
    buildDoors doorRoom = .ok panels ∧ Encloses doorRoom (walls ++ panels) := by
  have hbuilt : (buildWalls doorRoom).isOk = true := by decide +kernel
  cases h : buildWalls doorRoom with
  | error e =>
    rw [h] at hbuilt
    cases hbuilt
  | ok walls =>
    obtain ⟨panels, hpanels, hencloses⟩ := buildWalls_encloses (by decide) (by decide)
      (by norm_num [doorRoom]) (by decide) (by simp [doorRoom]) h
    exact ⟨walls, panels, rfl, hpanels, hencloses⟩

end EscapeRoom
