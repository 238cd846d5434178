import Mathlib.Tactic.NormNum
import EscapeRoom.FrontierScan
import EscapeRoom.Library.FloodFill

namespace EscapeRoom
set_option autoImplicit true

open FloodFill Relation

/-- Two cells that touch along a side or at a corner. -/
def eightConnected : SimpleGraph Cell where
  Adj a b := a ≠ b ∧ |a.1 - b.1| ≤ 1 ∧ |a.2 - b.2| ≤ 1
  symm := ⟨fun a b h => by
    rw [abs_sub_comm b.1, abs_sub_comm b.2]
    exact ⟨h.1.symm, h.2⟩⟩
  loopless := ⟨fun _ h => h.1 rfl⟩

theorem mem_neighbours {a b : Cell} : b ∈ a.neighbours ↔ eightConnected.Adj a b := by
  obtain ⟨r, c⟩ := a
  obtain ⟨r', c'⟩ := b
  simp only [Cell.neighbours, Cell.shift, List.map_cons, List.map_nil, List.mem_cons,
    List.not_mem_nil, or_false, Prod.mk.injEq, eightConnected, ne_eq, abs_le]
  omega

section fill

variable {frontier : List Cell} {S : Set Cell}

theorem foldl_push (frontier nbs : List Cell) (f : Fill) :
    ∃ fresh : List Cell, nbs.foldl (Fill.push frontier) f = ⟨fresh ++ f.visited, fresh ++ f.stack⟩ ∧
      fresh.Nodup ∧ ∀ b, b ∈ fresh ↔ b ∈ nbs ∧ b ∈ frontier ∧ b ∉ f.visited := by
  induction nbs generalizing f with
  | nil => exact ⟨[], rfl, .nil, by simp⟩
  | cons nb nbs ih =>
    rw [List.foldl_cons, Fill.push]
    split
    · rename_i hnb
      obtain ⟨fresh, hfold, hnodup, hfresh⟩ := ih ⟨nb :: f.visited, nb :: f.stack⟩
      refine ⟨fresh ++ [nb], ?_, ?_, fun b => ?_⟩
      · simp only [hfold, List.append_assoc, List.singleton_append]
      · refine List.nodup_append'.2 ⟨hnodup, List.nodup_singleton nb, fun b hb hb' => ?_⟩
        obtain rfl := List.mem_singleton.1 hb'
        exact ((hfresh b).1 hb).2.2 List.mem_cons_self
      · rw [List.mem_append, hfresh, List.mem_singleton, List.mem_cons, List.mem_cons, not_or]
        constructor
        · rintro (⟨hb, hmem, _, hnew⟩ | rfl)
          · exact ⟨.inr hb, hmem, hnew⟩
          · exact ⟨.inl rfl, hnb⟩
        · rintro ⟨hb, hmem, hnew⟩
          by_cases he : b = nb
          · exact .inr he
          · exact .inl ⟨hb.resolve_left he, hmem, he, hnew⟩
    · rename_i hnb
      obtain ⟨fresh, hfold, hnodup, hfresh⟩ := ih f
      refine ⟨fresh, hfold, hnodup, fun b => ?_⟩
      rw [hfresh, List.mem_cons]
      constructor
      · rintro ⟨hb, h⟩
        exact ⟨.inr hb, h⟩
      · rintro ⟨rfl | hb, h⟩
        · exact absurd h hnb
        · exact ⟨hb, h⟩

/-- Fuel for what is pending lets the loop end, and what it did is a search. -/
theorem fillCluster_run (hS : ∀ cell, cell ∈ frontier ↔ cell ∈ S) {fuel : Nat} {f : Fill}
    (h : f.pending frontier ≤ fuel) (cluster : List Cell) :
    fillWithin frontier fuel f cluster = some (fillCluster frontier fuel f cluster) ∧
      ReflTransGen (Turn eightConnected S) ⟨f.visited, f.stack, cluster⟩
        ⟨(fillCluster frontier fuel f cluster).1, [], (fillCluster frontier fuel f cluster).2⟩ := by
  induction fuel generalizing f cluster with
  | zero =>
    have hstack := Fill.stack_of_pending_le_zero h
    simp only [fillWithin, fillCluster, hstack]
    exact ⟨trivial, .refl⟩
  | succ fuel ih =>
    rw [fillWithin, fillCluster]
    cases hstack : f.stack with
    | nil => exact ⟨rfl, .refl⟩
    | cons cell stack =>
      have hturn := Fill.pending_turn hstack frontier
      obtain ⟨fresh, hfold, hnodup, hfresh⟩ :=
        foldl_push frontier cell.neighbours ⟨f.visited, stack⟩
      obtain ⟨hend, hrun⟩ := ih (f := cell.neighbours.foldl (Fill.push frontier) ⟨f.visited, stack⟩)
        (by omega) (cluster ++ [cell])
      refine ⟨hend, .head ?_ hrun⟩
      rw [hfold]
      refine .pop fresh hnodup fun b => ?_
      rw [hfresh, mem_neighbours, hS]

theorem fillCluster_seed_run (hS : ∀ cell, cell ∈ frontier ↔ cell ∈ S) {seed : Cell}
    {visited : List Cell} (hseed : seed ∈ frontier) (hnew : seed ∉ visited) :
    fillWithin frontier frontier.length ⟨seed :: visited, [seed]⟩ [] =
        some (fillCluster frontier frontier.length ⟨seed :: visited, [seed]⟩ []) ∧
      ReflTransGen (Turn eightConnected S) ⟨seed :: visited, [seed], []⟩
        ⟨(fillCluster frontier frontier.length ⟨seed :: visited, [seed]⟩ []).1, [],
          (fillCluster frontier frontier.length ⟨seed :: visited, [seed]⟩ []).2⟩ :=
  fillCluster_run hS (Fill.pending_seed hseed hnew) []

theorem clusters_labelling (hS : ∀ cell, cell ∈ frontier ↔ cell ∈ S) {seeds : List Cell}
    (hseeds : ∀ seed ∈ seeds, seed ∈ frontier) (visited : List Cell) :
    clustersWithin frontier.length frontier seeds visited =
        some (clusters frontier seeds visited) ∧
      Labelling eightConnected S seeds visited (clusters frontier seeds visited) := by
  induction seeds generalizing visited with
  | nil => exact ⟨rfl, .done⟩
  | cons seed seeds ih =>
    obtain ⟨hseed, hseeds⟩ := List.forall_mem_cons.1 hseeds
    rw [clustersWithin, clusters]
    by_cases hseen : seed ∈ visited
    · obtain ⟨hend, hlabel⟩ := ih hseeds visited
      rw [if_pos hseen, if_pos hseen]
      exact ⟨hend, .skip hseen hlabel⟩
    · obtain ⟨hfill, hrun⟩ := fillCluster_seed_run hS hseed hseen
      rw [if_neg hseen, if_neg hseen, hfill]
      obtain ⟨hend, hlabel⟩ := ih hseeds
        (fillCluster frontier frontier.length ⟨seed :: visited, [seed]⟩ []).1
      refine ⟨?_, .search hseen ((hS seed).1 hseed) hrun hlabel⟩
      simp only [hend, Option.map_some]

end fill

section grid

variable {grid : OccupancyGrid R} {cell : Cell}

/-- The free cells off the border with an unknown cell on one of their sides. -/
def OccupancyGrid.frontierCells (grid : OccupancyGrid R) : Set Cell :=
  {cell | 1 ≤ cell.1 ∧ cell.1 ≤ grid.height - 2 ∧ 1 ≤ cell.2 ∧ cell.2 ≤ grid.width - 2 ∧
    grid.value cell = 0 ∧ ∃ side ∈ cell.sides, grid.value side = -1}

theorem nodup_interior (grid : OccupancyGrid R) : grid.interior.Nodup := by
  refine List.nodup_flatMap.2 ⟨fun r _ => ?_, ?_⟩
  · refine List.Nodup.map (fun c c' h => ?_) List.nodup_range'
    simpa using h
  · refine (List.nodup_range' (s := 1) (n := grid.height - 2)).pairwise_of_forall_ne
      fun r _ r' _ hne => ?_
    intro cell hcell hcell'
    obtain ⟨c, _, rfl⟩ := List.mem_map.1 hcell
    obtain ⟨c', _, h⟩ := List.mem_map.1 hcell'
    simp only [Prod.mk.injEq, Nat.cast_inj] at h
    exact hne h.1.symm

theorem bordersUnknown_iff : grid.bordersUnknown cell = true ↔
    grid.value cell = 0 ∧ ∃ side ∈ cell.sides, grid.value side = -1 := by
  simp only [OccupancyGrid.bordersUnknown, Bool.and_eq_true, decide_eq_true_eq, List.any_eq_true]

theorem isListing_frontierCells (grid : OccupancyGrid R) :
    IsListing (grid.interior.filter grid.bordersUnknown) grid.frontierCells where
  nodup := (nodup_interior grid).filter _
  mem cell := by
    rw [List.mem_filter, mem_interior, bordersUnknown_iff, OccupancyGrid.frontierCells,
      Set.mem_ofPred_eq]
    constructor
    · rintro ⟨⟨h1, h2, h3, h4⟩, h⟩
      exact ⟨h1, by omega, h3, by omega, h⟩
    · rintro ⟨h1, h2, h3, h4, h⟩
      exact ⟨⟨h1, by omega, h3, by omega⟩, h⟩

/-- `at`, refusing an index outside `data`, a negative one included. -/
def OccupancyGrid.atChecked (grid : OccupancyGrid R) (cell : Cell) : Except PyError Int :=
  if 0 ≤ cell.1 * grid.width + cell.2 ∧ cell.1 * grid.width + cell.2 < grid.data.length then
    grid.at cell
  else
    .error .indexError

theorem OccupancyGrid.atChecked_eq (hg : grid.WellSized) (h : cell.Inside grid) :
    grid.atChecked cell = .ok (grid.value cell) := by
  have hlt := h.index_lt
  have hnonneg := h.index_nonneg
  rw [← hg] at hlt
  rw [OccupancyGrid.atChecked, if_pos ⟨hnonneg, by omega⟩, OccupancyGrid.at_eq hg h]

variable [Field R]

/-- The point of the map over the mean cell of a set. -/
noncomputable def OccupancyGrid.centre (grid : OccupancyGrid R) (C : Set Cell) : R × R :=
  (grid.originX + grid.resolution * ((∑ᶠ cell ∈ C, (cell.2 : R)) / C.ncard + 1 / (1 + 1)),
    grid.originY + grid.resolution * ((∑ᶠ cell ∈ C, (cell.1 : R)) / C.ncard + 1 / (1 + 1)))

theorem centroid_eq_centre [CharZero R] {cluster : List Cell} {C : Set Cell}
    (h : IsListing cluster C) : grid.centroid cluster = grid.centre C := by
  have hhalf : (0.5 : R) = 1 / (1 + 1) := by norm_num
  rw [OccupancyGrid.centroid, OccupancyGrid.centre, h.finsum_eq, h.finsum_eq, h.ncard_eq, hhalf]
  simp only [Int.cast_list_sum, List.map_map, Function.comp_def, mul_comm]

theorem computeFrontiers_points [CharZero R] (order : SetOrder) (hg : grid.WellSized) :
    ∃ (points : List (R × R)) (comps : Finset (Set Cell)),
      computeFrontiers order grid = .ok points ∧
      (∀ C, C ∈ comps ↔
        C ∈ components eightConnected grid.frontierCells ∧ minFrontierCells ≤ C.ncard) ∧
      (points : Multiset (R × R)) = comps.val.map grid.centre := by
  have hlisting := isListing_frontierCells grid
  have hperm := order.perm (grid.interior.filter grid.bordersUnknown)
  obtain ⟨_, hlabel⟩ := clusters_labelling hlisting.mem (fun seed h => hperm.mem_iff.1 h) []
  obtain ⟨Cs, hfound, hCs, hmem⟩ :=
    hlabel.components fun cell => hperm.mem_iff.trans (hlisting.mem cell)
  have hbig := hCs.filter fun C : Set Cell => decide (minFrontierCells ≤ C.ncard)
  refine ⟨_, ⟨_, Multiset.coe_nodup.2 hbig⟩, ?_, fun C => ?_, rfl⟩
  · rw [computeFrontiers, frontierSet_eq hg]
    exact congrArg Except.ok
      (map_filter_listings minFrontierCells hfound fun _ _ => centroid_eq_centre)
  · rw [Finset.mem_mk, Multiset.mem_coe, List.mem_filter, hmem, decide_eq_true_eq]

/-- `computeFrontiers` labels the components of the frontier: `frontier` is the set it scans,
`points` what it returns. -/
structure LabelsComponents (order : SetOrder) (grid : OccupancyGrid R) (frontier : List Cell)
    (points : List (R × R)) : Prop where
  scan : grid.frontierSet = .ok frontier
  -- no read of the scan asks for an index outside the data
  reads : grid.frontierSetBy grid.atChecked = .ok frontier
  cells : IsListing frontier grid.frontierCells
  -- both loops end by themselves
  ends : clustersWithin frontier.length frontier (order.iter frontier) [] =
    some (clusters frontier (order.iter frontier) [])
  assigned : IsListing (clusters frontier (order.iter frontier) []).flatten grid.frontierCells
  returns : computeFrontiers order grid = .ok points
  points : ∃ comps : Finset (Set Cell),
    (∀ C, C ∈ comps ↔
      C ∈ components eightConnected grid.frontierCells ∧ minFrontierCells ≤ C.ncard) ∧
    (points : Multiset (R × R)) = comps.val.map grid.centre

/-- The frontiers returned are the connected components of at least 20 cells, each once. -/
theorem computeFrontiers_labels [CharZero R] (order : SetOrder) (hg : grid.WellSized) :
    ∃ frontier points, LabelsComponents order grid frontier points := by
  have hlisting := isListing_frontierCells grid
  have hperm := order.perm (grid.interior.filter grid.bordersUnknown)
  obtain ⟨hends, hlabel⟩ :=
    clusters_labelling hlisting.mem (fun seed h => hperm.mem_iff.1 h) []
  obtain ⟨points, comps, hreturns, hcomps, hpoints⟩ := computeFrontiers_points order hg
  exact ⟨_, points,
    { scan := frontierSet_eq hg
      reads := frontierSetBy_eq fun _ => OccupancyGrid.atChecked_eq hg
      cells := hlisting
      ends := hends
      assigned := hlabel.isListing fun cell => hperm.mem_iff.trans (hlisting.mem cell)
      returns := hreturns
      points := ⟨comps, hcomps, hpoints⟩ }⟩

end grid

/-- A corridor one cell wide that runs off the edge of what is known. -/
def corridor [Zero R] [One R] : OccupancyGrid R :=
  ⟨24, 3, 1, 0, 0, List.replicate 24 (-1) ++ List.replicate 48 0⟩

theorem computeFrontiers_labels_corridor :
    ∃ frontier points, LabelsComponents .insertion (corridor : OccupancyGrid ℚ) frontier points :=
  computeFrontiers_labels .insertion (by simp [OccupancyGrid.WellSized, corridor])

end EscapeRoom
