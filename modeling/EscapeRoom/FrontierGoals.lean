import Mathlib.Algebra.Order.Floor.Ring
import Mathlib.Algebra.Order.BigOperators.Group.Finset
import Mathlib.Data.Int.Interval
import EscapeRoom.FrontierComponents
import EscapeRoom.RealMath
import EscapeRoom.TickStep

namespace EscapeRoom
set_option autoImplicit true
set_option linter.unusedSectionVars false

open FloodFill

/-- Some component has as many cells as a frontier needs to be returned. -/
def HasLarge (S : Set Cell) : Prop :=
  ∃ C ∈ components eightConnected S, minFrontierCells ≤ C.ncard

/-- The frontier cells of the docstring: free, anywhere on the grid, with an unknown cell of the
grid on one of their sides. -/
def OccupancyGrid.wholeFrontier (grid : OccupancyGrid R) : Set Cell :=
  {cell | cell.Inside grid ∧ grid.value cell = 0 ∧
    ∃ side ∈ cell.sides, side.Inside grid ∧ grid.value side = -1}

section overlooked

variable {grid : OccupancyGrid R}

theorem finite_wholeFrontier (grid : OccupancyGrid R) : grid.wholeFrontier.Finite := by
  have hbox : (Set.Icc (0 : Int) grid.height ×ˢ Set.Icc (0 : Int) grid.width).Finite :=
    (Set.finite_Icc _ _).prod (Set.finite_Icc _ _)
  refine hbox.subset fun cell hcell => ?_
  obtain ⟨⟨h1, h2, h3, h4⟩, _⟩ := hcell
  exact ⟨⟨h1, h2.le⟩, ⟨h3, h4.le⟩⟩

theorem frontierCells_eq (grid : OccupancyGrid R) :
    grid.frontierCells = {cell | cell ∈ grid.wholeFrontier ∧ cell ∈ grid.interior} := by
  ext cell
  have hlisting := (isListing_frontierCells grid).mem cell
  rw [← hlisting, List.mem_filter, bordersUnknown_iff, Set.mem_ofPred_eq,
    OccupancyGrid.wholeFrontier,
    Set.mem_ofPred_eq]
  constructor
  · rintro ⟨hcell, hfree, side, hside, hunknown⟩
    exact ⟨⟨inside_of_interior hcell, hfree, side, hside, inside_of_side hcell hside, hunknown⟩,
      hcell⟩
  · rintro ⟨⟨_, hfree, side, hside, _, hunknown⟩, hcell⟩
    exact ⟨hcell, hfree, side, hside, hunknown⟩

theorem frontierCells_subset (grid : OccupancyGrid R) :
    grid.frontierCells ⊆ grid.wholeFrontier := by
  rw [frontierCells_eq]
  exact fun _ h => h.1

theorem hasLarge_of_offBorder {C : Set Cell} (hC : C ∈ components eightConnected grid.wholeFrontier)
    (hoff : ∀ cell ∈ C, cell ∈ grid.interior) (hlarge : minFrontierCells ≤ C.ncard) :
    HasLarge grid.frontierCells := by
  refine ⟨C, mem_components_of_subset (frontierCells_subset grid) hC ?_, hlarge⟩
  rw [frontierCells_eq]
  exact fun cell hcell => ⟨subset_of_mem_components hC hcell, hoff cell hcell⟩

variable [Field R] [CharZero R]

theorem computeFrontiers_nil_iff (order : SetOrder) (hg : grid.WellSized) :
    computeFrontiers order grid = .ok [] ↔ ¬ HasLarge grid.frontierCells := by
  obtain ⟨points, comps, hreturns, hcomps, hpoints⟩ := computeFrontiers_points order hg
  have hlarge : HasLarge grid.frontierCells ↔ comps.Nonempty := by
    constructor
    · rintro ⟨C, hC, hcard⟩
      exact ⟨C, (hcomps C).2 ⟨hC, hcard⟩⟩
    · rintro ⟨C, hC⟩
      exact ⟨C, (hcomps C).1 hC⟩
  have hnil : points = [] ↔ comps = ∅ := by
    rw [← Multiset.coe_eq_zero, hpoints, Multiset.map_eq_zero, Finset.val_eq_zero]
  rw [hreturns, hlarge, Finset.not_nonempty_iff_eq_empty, ← hnil, Except.ok.injEq]

/-- A frontier large enough is overlooked exactly when the cells of it off the border of the grid
fall into pieces that are not. -/
theorem computeFrontiers_finds_iff (order : SetOrder) (hg : grid.WellSized) :
    (HasLarge grid.wholeFrontier → computeFrontiers order grid ≠ .ok []) ↔
      ¬ HasLarge grid.wholeFrontier ∨ HasLarge grid.frontierCells := by
  rw [Ne, computeFrontiers_nil_iff order hg, not_not, imp_iff_not_or]

end overlooked

/-- Twenty cells in a row are a component large enough, or part of one. -/
theorem hasLarge_of_row {S : Set Cell} (hS : S.Finite) (row first : Int)
    (hrow : ∀ c : Nat, c < 20 → ((row, first + c) : Cell) ∈ S) : HasLarge S := by
  have hlinked : ∀ c : Nat, c < 20 →
      Linked eightConnected S (row, first) (row, first + c) := by
    intro c hc
    induction c with
    | zero => simpa using Linked.refl (by simpa using hrow 0 hc)
    | succ c ih =>
      refine (ih (by omega)).trans (.of_adj (hrow c (by omega)) (hrow _ hc) ?_)
      simp [eightConnected]
  have hfirst : ((row, first) : Cell) ∈ S := by simpa using hrow 0 (by omega)
  refine ⟨_, mem_components_iff.2 ⟨(row, first), hfirst, rfl⟩, ?_⟩
  have hsub : ((Finset.range 20).image fun c : Nat => ((row, first + c) : Cell) : Set Cell) ⊆
      {b | Linked eightConnected S (row, first) b} := by
    intro b hb
    obtain ⟨c, hc, rfl⟩ := Finset.mem_image.1 hb
    exact hlinked c (Finset.mem_range.1 hc)
  have hfinite : {b | Linked eightConnected S (row, first) b}.Finite := by
    apply hS.subset
    rintro b ⟨_, hb, _⟩
    exact hb
  have hcard := Set.ncard_le_ncard hsub hfinite
  rw [Set.ncard_coe_finset, Finset.card_image_of_injective _ (fun c c' h => by simpa using h),
    Finset.card_range] at hcard
  exact hcard

theorem corridor_mem (c : Nat) (hc : c < 20) :
    ((1, 1 + c) : Cell) ∈ (corridor : OccupancyGrid ℚ).frontierCells := by
  have hall : ∀ c : Fin 20, ((1, 1 + (c : Nat)) : Cell) ∈
      (corridor : OccupancyGrid ℚ).interior.filter (corridor : OccupancyGrid ℚ).bordersUnknown := by
    decide
  exact ((isListing_frontierCells corridor).mem _).1 (hall ⟨c, hc⟩)

theorem computeFrontiers_finds_iff_corridor :
    HasLarge (corridor : OccupancyGrid ℚ).wholeFrontier ∧
      HasLarge (corridor : OccupancyGrid ℚ).frontierCells ∧
        computeFrontiers .insertion (corridor : OccupancyGrid ℚ) ≠ .ok [] := by
  have hsub := frontierCells_subset (corridor : OccupancyGrid ℚ)
  have hfinite := finite_wholeFrontier (corridor : OccupancyGrid ℚ)
  have hwhole : HasLarge (corridor : OccupancyGrid ℚ).wholeFrontier :=
    hasLarge_of_row hfinite 1 1 fun c hc => hsub (corridor_mem c hc)
  have hinner : HasLarge (corridor : OccupancyGrid ℚ).frontierCells :=
    hasLarge_of_row (hfinite.subset hsub) 1 1 corridor_mem
  have hg : (corridor : OccupancyGrid ℚ).WellSized := by simp [OccupancyGrid.WellSized, corridor]
  exact ⟨hwhole, hinner, (computeFrontiers_finds_iff .insertion hg).2 (.inr hinner) hwhole⟩

/-- A known row along the edge of the grid, the rest of it unknown. -/
def edgeRow : OccupancyGrid ℚ :=
  ⟨20, 3, 1, 0, 0, List.replicate 20 0 ++ List.replicate 40 (-1)⟩

theorem edgeRow_mem (c : Nat) (hc : c < 20) : ((0, c) : Cell) ∈ edgeRow.wholeFrontier := by
  have hall : ∀ c : Fin 20,
      edgeRow.value (0, (c : Nat)) = 0 ∧ edgeRow.value (1, (c : Nat)) = -1 := by
    decide
  obtain ⟨hfree, hunknown⟩ := hall ⟨c, hc⟩
  have hcol : (c : Int) < edgeRow.width := by simpa [edgeRow] using hc
  refine ⟨⟨le_rfl, ?_, Int.natCast_nonneg c, hcol⟩, hfree, (1, c), ?_,
    ⟨zero_le_one, ?_, Int.natCast_nonneg c, hcol⟩, hunknown⟩
  · simp [edgeRow]
  · simp [Cell.sides, Cell.shift]
  · simp [edgeRow]

theorem edgeRow_hasLarge : HasLarge edgeRow.wholeFrontier := by
  apply hasLarge_of_row (finite_wholeFrontier edgeRow) 0 0
  intro c hc
  rw [zero_add]
  exact edgeRow_mem c hc

/-- Every order of the set, `computeFrontiers` returns nothing for the row along the edge. -/
theorem not_computeFrontiers_finds :
    edgeRow.WellSized ∧ HasLarge edgeRow.wholeFrontier ∧
      ∀ order, computeFrontiers order edgeRow = .ok [] := by
  have hg : edgeRow.WellSized := by simp [OccupancyGrid.WellSized, edgeRow]
  refine ⟨hg, edgeRow_hasLarge, fun order => (computeFrontiers_nil_iff order hg).2 ?_⟩
  rintro ⟨C, hC, _⟩
  obtain ⟨cell, hcell⟩ := nonempty_of_mem_components hC
  have hscan : edgeRow.interior.filter edgeRow.bordersUnknown = [] := by decide
  have hmem := ((isListing_frontierCells edgeRow).mem cell).2 (subset_of_mem_components hC hcell)
  rw [hscan] at hmem
  cases hmem

/-- The frontiers do not depend on the order of the set, except for their own order. -/
theorem computeFrontiers_perm [Field R] [CharZero R] {grid : OccupancyGrid R}
    (order order' : SetOrder) (hg : grid.WellSized) : ∃ points points',
      computeFrontiers order grid = .ok points ∧ computeFrontiers order' grid = .ok points' ∧
      points.Perm points' := by
  obtain ⟨points, comps, hreturns, hcomps, hpoints⟩ := computeFrontiers_points order hg
  obtain ⟨points', comps', hreturns', hcomps', hpoints'⟩ := computeFrontiers_points order' hg
  have hsame : comps = comps' := by
    ext C
    rw [hcomps, hcomps']
  rw [← hsame, ← hpoints] at hpoints'
  exact ⟨points, points', hreturns, hreturns', (Multiset.coe_eq_coe.1 hpoints').symm⟩

section goals

variable [Field R] [LinearOrder R] [IsStrictOrderedRing R] [FloorRing R] {grid : OccupancyGrid R}

/-- The cell that a point of the map falls in. -/
def OccupancyGrid.cellOf (grid : OccupancyGrid R) (point : R × R) : Cell :=
  (⌊(point.2 - grid.originY) / grid.resolution⌋, ⌊(point.1 - grid.originX) / grid.resolution⌋)

theorem exists_le_mean_le {C : Set Cell} (hC : 0 < C.ncard) (f : Cell → Int) :
    (∃ a ∈ C, f a ≤ ⌊(∑ᶠ cell ∈ C, (f cell : R)) / C.ncard + 1 / (1 + 1)⌋) ∧
      ∃ b ∈ C, ⌊(∑ᶠ cell ∈ C, (f cell : R)) / C.ncard + 1 / (1 + 1)⌋ ≤ f b := by
  have hfinite := Set.finite_of_ncard_pos hC
  obtain ⟨cells, rfl⟩ := hfinite.exists_finset_coe
  rw [Set.ncard_coe_finset] at hC ⊢
  rw [finsum_mem_coe_finset]
  have hcard : (0 : R) < cells.card := Nat.cast_pos.2 hC
  have hnonempty := Finset.card_pos.1 hC
  obtain ⟨a, ha, hmin⟩ := cells.exists_min_image f hnonempty
  obtain ⟨b, hb, hmax⟩ := cells.exists_max_image f hnonempty
  have hlow : (f a : R) ≤ (∑ cell ∈ cells, (f cell : R)) / cells.card := by
    rw [le_div_iff₀ hcard, mul_comm, ← nsmul_eq_mul]
    exact Finset.card_nsmul_le_sum _ _ _ fun cell h => Int.cast_le.2 (hmin cell h)
  have hhigh : (∑ cell ∈ cells, (f cell : R)) / cells.card ≤ f b := by
    rw [div_le_iff₀ hcard, mul_comm, ← nsmul_eq_mul]
    exact Finset.sum_le_card_nsmul _ _ _ fun cell h => Int.cast_le.2 (hmax cell h)
  have hhalf : (0 : R) < 1 / (1 + 1) ∧ (1 : R) / (1 + 1) < 1 := by norm_num
  constructor
  · exact ⟨a, ha, Int.le_floor.2 (by linarith)⟩
  · exact ⟨b, hb, Int.lt_add_one_iff.1 (Int.floor_lt.2 (by push_cast; linarith))⟩

/-- Where a frontier goal lies: at the centre of a large component of free cells, in a cell of the
grid within its rows and its columns. -/
structure FrontierSpot (grid : OccupancyGrid R) (point : R × R) (C : Set Cell) : Prop where
  component : C ∈ components eightConnected grid.frontierCells
  large : minFrontierCells ≤ C.ncard
  free : ∀ cell ∈ C, grid.value cell = 0
  centre : point = grid.centre C
  inside : (grid.cellOf point).Inside grid
  rows : (∃ a ∈ C, a.1 ≤ (grid.cellOf point).1) ∧ ∃ b ∈ C, (grid.cellOf point).1 ≤ b.1
  columns : (∃ a ∈ C, a.2 ≤ (grid.cellOf point).2) ∧ ∃ b ∈ C, (grid.cellOf point).2 ≤ b.2

theorem frontierSpot_centre (hres : 0 < grid.resolution) {C : Set Cell}
    (hC : C ∈ components eightConnected grid.frontierCells) (hlarge : minFrontierCells ≤ C.ncard) :
    FrontierSpot grid (grid.centre C) C := by
  have hmem := subset_of_mem_components hC
  have hcard : 0 < C.ncard := lt_of_lt_of_le (by decide) hlarge
  have hcell : grid.cellOf (grid.centre C) =
      (⌊(∑ᶠ cell ∈ C, (cell.1 : R)) / C.ncard + 1 / (1 + 1)⌋,
        ⌊(∑ᶠ cell ∈ C, (cell.2 : R)) / C.ncard + 1 / (1 + 1)⌋) := by
    simp only [OccupancyGrid.cellOf, OccupancyGrid.centre, add_sub_cancel_left,
      mul_div_cancel_left₀ _ hres.ne']
  have hrows := exists_le_mean_le (R := R) hcard Prod.fst
  have hcolumns := exists_le_mean_le (R := R) hcard Prod.snd
  obtain ⟨⟨a, ha, har⟩, b, hb, hbr⟩ := hrows
  obtain ⟨⟨c, hc, hcc⟩, d, hd, hdc⟩ := hcolumns
  obtain ⟨ha1, _⟩ := hmem ha
  obtain ⟨_, hb2, _⟩ := hmem hb
  obtain ⟨_, _, hc3, _⟩ := hmem hc
  obtain ⟨_, _, _, hd4, _⟩ := hmem hd
  exact
    { component := hC
      large := hlarge
      free := fun cell h => (hmem h).2.2.2.2.1
      centre := rfl
      inside := by
        rw [hcell]
        exact ⟨by omega, by omega, by omega, by omega⟩
      rows := by
        rw [hcell]
        exact ⟨⟨a, ha, har⟩, b, hb, hbr⟩
      columns := by
        rw [hcell]
        exact ⟨⟨c, hc, hcc⟩, d, hd, hdc⟩ }

theorem frontierSpot_of_mem (order : SetOrder) (hg : grid.WellSized) (hres : 0 < grid.resolution)
    {points : List (R × R)} (h : computeFrontiers order grid = .ok points) {point : R × R}
    (hpoint : point ∈ points) : ∃ C, FrontierSpot grid point C := by
  obtain ⟨points', comps, hreturns, hcomps, hpoints⟩ := computeFrontiers_points order hg
  obtain rfl : points = points' := Except.ok.inj (h.symm.trans hreturns)
  rw [← Multiset.mem_coe, hpoints] at hpoint
  obtain ⟨C, hC, rfl⟩ := Multiset.mem_map.1 hpoint
  obtain ⟨hcomponent, hlarge⟩ := (hcomps C).1 hC
  exact ⟨C, frontierSpot_centre hres hcomponent hlarge⟩

theorem pyMin_mem [LT K] [DecidableLT K] {key : α → K} {xs : List α} {x : α}
    (h : pyMin key xs = some x) : x ∈ xs := by
  have hfold : ∀ (ys : List α) (b : α),
      ys.foldl (fun best y => if key y < key best then y else best) b ∈ b :: ys := by
    intro ys
    induction ys with
    | nil => exact fun b => List.mem_cons_self
    | cons y ys ih =>
      intro b
      rw [List.foldl_cons]
      obtain he | hmem := List.mem_cons.1 (ih (if key y < key b then y else b))
      · rw [he]
        split
        · exact List.mem_cons_of_mem _ List.mem_cons_self
        · exact List.mem_cons_self
      · exact List.mem_cons_of_mem _ (List.mem_cons_of_mem _ hmem)
  cases xs with
  | nil => cases h
  | cons y ys =>
    obtain rfl := Option.some.inj h
    exact hfold ys y

variable [PyMath R]

theorem mem_sendTo_out {i : TickIn R} {sender : Sender} {x y yaw : R} {s : Node R} :
    ∃ cs, (s.sendTo i sender x y yaw).out = s.out ++ cs ∧
      ∀ r, .sendGoal r ∈ cs → r = ⟨sender, .ofYaw x y yaw⟩ := by
  refine ⟨.markGoal (.ofYaw x y yaw) ::
    if i.serverReady then [.sendGoal ⟨sender, .ofYaw x y yaw⟩] else [], ?_, fun r hr => ?_⟩
  · simp only [Node.sendTo, Node.navSend, Node.emit, List.append_assoc, List.singleton_append]
  · cases hready : i.serverReady with
    | true => simpa [hready] using hr
    | false => simp [hready] at hr

theorem sends_nothing (s : Node R) (P : NavRequest R → Prop) :
    ∃ cs, s.out = s.out ++ cs ∧ ∀ r, .sendGoal r ∈ cs → P r :=
  ⟨[], (List.append_nil _).symm, by simp⟩

theorem NavGo.sender_eq {i : TickIn R} {s : Node R} (h : NavGo i sender name s o) :
    ∃ cs, o.node.out = s.out ++ cs ∧ ∀ r, .sendGoal r ∈ cs → r.sender = sender := by
  cases h with
  | noPose => exact sends_nothing s _
  | noTarget => exact sends_nothing s _
  | sent x y yaw =>
    obtain ⟨cs, hout, hcs⟩ := mem_sendTo_out (i := i) (s := s)
    exact ⟨cs, hout, fun r hr => by rw [hcs r hr]⟩

theorem explore_goals (p : Params R) (i : TickIn R) {s : Node R} (hmap : s.currentMap = some grid) :
    ∃ cs, (s.explore p i).node.out = s.out ++ cs ∧ ∀ r, .sendGoal r ∈ cs → r.sender = .explore →
      ∃ points, computeFrontiers p.setOrder grid = .ok points ∧ (r.goal.x, r.goal.y) ∈ points := by
  unfold Node.explore
  split
  · obtain ⟨cs, hout, hcs⟩ := (navGo_navGoToKey p i (s.transition .goToKey)).sender_eq
    refine ⟨s.nav.client.handle.toList.map .cancelGoal ++ cs, ?_, fun r hr hsender => ?_⟩
    · rw [hout, ← List.append_assoc]
      rfl
    · obtain hr | hr := List.mem_append.1 hr
      · obtain ⟨_, _, he⟩ := List.mem_map.1 hr
        cases he
      · rw [hcs r hr] at hsender
        cases hsender
  split
  · exact sends_nothing s _
  rw [hmap]
  dsimp only
  cases hpoints : computeFrontiers p.setOrder grid with
  | error e => exact sends_nothing s _
  | ok points =>
    dsimp only
    split
    · exact sends_nothing s _
    split
    · exact sends_nothing s _
    split
    · exact sends_nothing s _
    · rename_i hmin
      obtain ⟨cs, hout, hcs⟩ := mem_sendTo_out (i := i) (s := s)
      refine ⟨cs, hout, fun r hr _ => ⟨points, rfl, ?_⟩⟩
      rw [hcs r hr]
      exact pyMin_mem hmin

/-- Every frontier goal lies on the grid, at the centre of a large component of free cells. -/
theorem frontier_goals_on_grid (p : Params R) (order : SetOrder) (hg : grid.WellSized)
    (hres : 0 < grid.resolution) :
    (∃ points, computeFrontiers order grid = .ok points ∧
      ∀ point ∈ points, ∃ C, FrontierSpot grid point C) ∧
    ∀ (i : TickIn R) (s : Node R), s.currentMap = some grid →
      ∃ cs, (s.explore p i).node.out = s.out ++ cs ∧
        ∀ r, .sendGoal r ∈ cs → r.sender = .explore →
          ∃ C, FrontierSpot grid (r.goal.x, r.goal.y) C := by
  constructor
  · obtain ⟨points, _, hreturns, _⟩ := computeFrontiers_points order hg
    exact ⟨points, hreturns, fun _ => frontierSpot_of_mem order hg hres hreturns⟩
  · intro i s hmap
    obtain ⟨cs, hout, hcs⟩ := explore_goals p i hmap
    refine ⟨cs, hout, fun r hr hsender => ?_⟩
    obtain ⟨points, hreturns, hpoint⟩ := hcs r hr hsender
    exact frontierSpot_of_mem p.setOrder hg hres hreturns hpoint

end goals

theorem frontier_goals_on_grid_corridor :
    (∃ points, computeFrontiers .insertion (corridor : OccupancyGrid ℝ) = .ok points ∧
      ∀ point ∈ points, ∃ C, FrontierSpot (corridor : OccupancyGrid ℝ) point C) ∧
    ∀ (i : TickIn ℝ) (s : Node ℝ), s.currentMap = some corridor →
      ∃ cs, (s.explore .default i).node.out = s.out ++ cs ∧
        ∀ r, .sendGoal r ∈ cs → r.sender = .explore →
          ∃ C, FrontierSpot (corridor : OccupancyGrid ℝ) (r.goal.x, r.goal.y) C :=
  frontier_goals_on_grid .default .insertion (by simp [OccupancyGrid.WellSized, corridor])
    (by simp [corridor])

/-- A block of unknown cells with known cells all around it. -/
def pocket : OccupancyGrid ℚ :=
  ⟨9, 9, 1, 0, 0, (List.range 81).map fun k =>
    if 2 ≤ k / 9 ∧ k / 9 ≤ 6 ∧ 2 ≤ k % 9 ∧ k % 9 ≤ 6 then -1 else 0⟩

/-- The ring of frontier cells around the block has its centre inside the block. -/
theorem pocket_goal_unknown : pocket.WellSized ∧ 0 < pocket.resolution ∧
    ∀ order, ∃ point, computeFrontiers order pocket = .ok [point] ∧
      pocket.value (pocket.cellOf point) = -1 := by
  have hg : pocket.WellSized := by simp [OccupancyGrid.WellSized, pocket]
  have hring : computeFrontiers .insertion pocket = .ok [(9 / 2, 9 / 2)] := by
    decide +kernel
  refine ⟨hg, by simp [pocket], fun order => ⟨(9 / 2, 9 / 2), ?_, by decide +kernel⟩⟩
  obtain ⟨points, points', hpoints, hpoints', hperm⟩ := computeFrontiers_perm order .insertion hg
  rw [hring] at hpoints'
  obtain rfl := Except.ok.inj hpoints'
  rw [hpoints, List.perm_singleton.1 hperm]

end EscapeRoom
