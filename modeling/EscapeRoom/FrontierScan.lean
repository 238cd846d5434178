import Mathlib.Tactic.Linarith
import EscapeRoom.Frontier

namespace EscapeRoom
set_option autoImplicit true

section scans

variable {f : α → Except ε Bool} {p : α → Bool}

theorem anyM_ok {xs : List α} (h : ∀ x ∈ xs, f x = .ok (p x)) :
    xs.anyM f = .ok (xs.any p) := by
  induction xs with
  | nil => rfl
  | cons x xs ih =>
    obtain ⟨hx, hxs⟩ := List.forall_mem_cons.1 h
    rw [List.anyM_cons, hx, List.any_cons]
    cases hp : p x with
    | true => rfl
    | false => exact ih hxs

theorem filterAuxM_ok {xs : List α} (h : ∀ x ∈ xs, f x = .ok (p x)) (acc : List α) :
    xs.filterAuxM f acc = .ok ((xs.filter p).reverse ++ acc) := by
  induction xs generalizing acc with
  | nil => rfl
  | cons x xs ih =>
    obtain ⟨hx, hxs⟩ := List.forall_mem_cons.1 h
    have hstep : (x :: xs).filterAuxM f acc = xs.filterAuxM f (cond (p x) (x :: acc) acc) := by
      rw [List.filterAuxM, hx]
      rfl
    rw [hstep, ih hxs]
    cases hp : p x with
    | true => rw [List.filter_cons_of_pos hp, List.reverse_cons, List.append_assoc]; rfl
    | false => rw [List.filter_cons_of_neg (by simp [hp])]; rfl

theorem filterM_ok {xs : List α} (h : ∀ x ∈ xs, f x = .ok (p x)) :
    xs.filterM f = .ok (xs.filter p) := by
  rw [List.filterM, filterAuxM_ok h, List.append_nil]
  exact congrArg Except.ok (List.reverse_reverse _)

end scans

variable {grid : OccupancyGrid R} {cell : Cell}

def Cell.Inside (grid : OccupancyGrid R) (cell : Cell) : Prop :=
  0 ≤ cell.1 ∧ cell.1 < grid.height ∧ 0 ≤ cell.2 ∧ cell.2 < grid.width

def OccupancyGrid.value (grid : OccupancyGrid R) (cell : Cell) : Int :=
  grid.data.getD (cell.1 * grid.width + cell.2).toNat 0

theorem Cell.Inside.index_lt (h : cell.Inside grid) :
    (cell.1 * grid.width + cell.2).toNat < grid.width * grid.height := by
  obtain ⟨h1, h2, h3, h4⟩ := h
  have hrow : (cell.1 + 1) * grid.width ≤ grid.height * grid.width :=
    mul_le_mul_of_nonneg_right h2 (by omega)
  have hindex : cell.1 * grid.width + cell.2 < grid.width * grid.height := by linarith
  have hnonneg : 0 ≤ cell.1 * grid.width := mul_nonneg h1 (by omega)
  zify
  omega

theorem Cell.Inside.index_nonneg (h : cell.Inside grid) : 0 ≤ cell.1 * grid.width + cell.2 :=
  add_nonneg (mul_nonneg h.1 (by omega)) h.2.2.1

theorem OccupancyGrid.at_eq (hg : grid.WellSized) (h : cell.Inside grid) :
    grid.at cell = .ok (grid.value cell) := by
  have hlt : (cell.1 * grid.width + cell.2).toNat < grid.data.length := by
    rw [hg]
    exact h.index_lt
  have hindex := Int.toNat_of_nonneg h.index_nonneg
  rw [OccupancyGrid.at, ← hindex, pyGet_ofNat _ _ hlt, OccupancyGrid.value,
    List.getD_eq_getElem?_getD, List.getElem?_eq_getElem hlt]
  rfl

def Cell.sides (cell : Cell) : List Cell :=
  [(-1, 0), (1, 0), (0, -1), (0, 1)].map (Cell.shift cell)

/-- Free, with an unknown cell on one of its sides. -/
def OccupancyGrid.bordersUnknown (grid : OccupancyGrid R) (cell : Cell) : Bool :=
  decide (grid.value cell = 0) && cell.sides.any fun side => decide (grid.value side = -1)

theorem mem_interior : cell ∈ grid.interior ↔
    1 ≤ cell.1 ∧ cell.1 + 1 < grid.height ∧ 1 ≤ cell.2 ∧ cell.2 + 1 < grid.width := by
  obtain ⟨r, c⟩ := cell
  simp only [OccupancyGrid.interior, List.mem_flatMap, List.mem_map, List.mem_range'_1,
    Prod.mk.injEq]
  constructor
  · rintro ⟨i, hi, j, hj, rfl, rfl⟩
    omega
  · rintro ⟨h1, h2, h3, h4⟩
    exact ⟨r.toNat, by omega, c.toNat, by omega, by omega, by omega⟩

theorem inside_of_interior (h : cell ∈ grid.interior) : cell.Inside grid := by
  obtain ⟨h1, h2, h3, h4⟩ := mem_interior.1 h
  exact ⟨by omega, by omega, by omega, by omega⟩

theorem inside_of_side {side : Cell} (h : cell ∈ grid.interior) (hs : side ∈ cell.sides) :
    side.Inside grid := by
  obtain ⟨h1, h2, h3, h4⟩ := mem_interior.1 h
  obtain ⟨d, hd, rfl⟩ := List.mem_map.1 hs
  simp only [List.mem_cons, List.not_mem_nil, or_false] at hd
  rcases hd with rfl | rfl | rfl | rfl <;>
    exact ⟨by simp [Cell.shift]; omega, by simp [Cell.shift]; omega,
      by simp [Cell.shift]; omega, by simp [Cell.shift]; omega⟩

/-- `isFrontier`, reading the grid through `read`. -/
def OccupancyGrid.isFrontierBy (read : Cell → Except PyError Int) (cell : Cell) :
    Except PyError Bool := do
  if (← read cell) ≠ 0 then
    return false
  [(-1, 0), (1, 0), (0, -1), (0, 1)].anyM fun d : Cell => do
    return decide ((← read (Cell.shift cell d)) = -1)

/-- `frontierSet`, reading the grid through `read`. -/
def OccupancyGrid.frontierSetBy (grid : OccupancyGrid R) (read : Cell → Except PyError Int) :
    Except PyError (List Cell) :=
  grid.interior.filterM (OccupancyGrid.isFrontierBy read)

theorem frontierSetBy_at (grid : OccupancyGrid R) : grid.frontierSetBy grid.at = grid.frontierSet :=
  rfl

theorem isFrontierBy_eq {read : Cell → Except PyError Int}
    (hread : ∀ cell : Cell, cell.Inside grid → read cell = .ok (grid.value cell))
    (h : cell ∈ grid.interior) :
    OccupancyGrid.isFrontierBy read cell = .ok (grid.bordersUnknown cell) := by
  have hcell := hread cell (inside_of_interior h)
  rw [OccupancyGrid.isFrontierBy, hcell, OccupancyGrid.bordersUnknown]
  by_cases hfree : grid.value cell = 0
  · have hscan : ([(-1, 0), (1, 0), (0, -1), (0, 1)] : List Cell).anyM
        (fun d => do return decide ((← read (Cell.shift cell d)) = -1)) =
        .ok ([(-1, 0), (1, 0), (0, -1), (0, 1)].any fun d =>
          decide (grid.value (Cell.shift cell d) = -1)) := by
      apply anyM_ok
      intro d hd
      rw [hread _ (inside_of_side h (List.mem_map_of_mem hd))]
      rfl
    simp only [hfree, ne_eq, decide_true, Bool.true_and, Cell.sides, List.any_map]
    exact hscan
  · rw [decide_eq_false hfree, Bool.false_and]
    exact if_pos hfree

theorem frontierSetBy_eq {read : Cell → Except PyError Int}
    (hread : ∀ cell : Cell, cell.Inside grid → read cell = .ok (grid.value cell)) :
    grid.frontierSetBy read = .ok (grid.interior.filter grid.bordersUnknown) :=
  filterM_ok fun _ h => isFrontierBy_eq hread h

/-- The scan of a grid of the announced size reads every cell it asks for. -/
theorem frontierSet_eq (hg : grid.WellSized) :
    grid.frontierSet = .ok (grid.interior.filter grid.bordersUnknown) := by
  rw [← frontierSetBy_at]
  exact frontierSetBy_eq fun _ => OccupancyGrid.at_eq hg

section fill

variable {frontier : List Cell}

/-- The frontier cells that the flood fill has not pushed yet. -/
def unseen [DecidableEq α] (frontier visited : List α) : List α :=
  frontier.filter fun cell => decide (cell ∉ visited)

/-- How many cells the flood fill can still pop. -/
def Fill.pending (frontier : List Cell) (f : Fill) : Nat :=
  f.stack.length + (unseen frontier f.visited).length

theorem unseen_cons_length_lt {visited : List Cell} {nb : Cell} (hmem : nb ∈ frontier)
    (hnew : nb ∉ visited) :
    (unseen frontier (nb :: visited)).length < (unseen frontier visited).length := by
  have hseen : unseen frontier (nb :: visited) =
      (unseen frontier visited).filter fun cell => decide (cell ≠ nb) := by
    rw [unseen, unseen, List.filter_filter]
    apply List.filter_congr
    intro cell _
    simp [List.mem_cons, not_or]
  rw [hseen, List.length_filter_lt_length_iff_exists]
  exact ⟨nb, List.mem_filter.2 ⟨hmem, by simpa using hnew⟩, by simp⟩

theorem Fill.pending_push (f : Fill) (nb : Cell) :
    (f.push frontier nb).pending frontier ≤ f.pending frontier := by
  unfold Fill.push
  split
  · rename_i h
    have hlt := unseen_cons_length_lt h.1 h.2
    simp only [Fill.pending, List.length_cons]
    omega
  · exact le_rfl

theorem Fill.pending_pushes (nbs : List Cell) (f : Fill) (frontier : List Cell) :
    (nbs.foldl (Fill.push frontier) f).pending frontier ≤ f.pending frontier := by
  induction nbs generalizing f with
  | nil => exact le_rfl
  | cons nb nbs ih => exact (ih (f.push frontier nb)).trans (f.pending_push nb)

theorem Fill.stack_of_pending_le_zero {f : Fill} (h : f.pending frontier ≤ 0) : f.stack = [] := by
  apply List.eq_nil_of_length_eq_zero
  rw [Fill.pending] at h
  omega

/-- Each turn leaves less to pop, whatever it pushes. -/
theorem Fill.pending_turn {f : Fill} {cell : Cell} {stack : List Cell}
    (hstack : f.stack = cell :: stack) (frontier : List Cell) :
    (cell.neighbours.foldl (Fill.push frontier) ⟨f.visited, stack⟩).pending frontier <
      f.pending frontier := by
  have hpop : Fill.pending frontier ⟨f.visited, stack⟩ + 1 = f.pending frontier := by
    simp only [Fill.pending, hstack, List.length_cons]
    omega
  have hpush := Fill.pending_pushes cell.neighbours ⟨f.visited, stack⟩ frontier
  omega

theorem Fill.pending_seed {seed : Cell} {visited : List Cell} (hseed : seed ∈ frontier)
    (hnew : seed ∉ visited) :
    Fill.pending frontier ⟨seed :: visited, [seed]⟩ ≤ frontier.length := by
  have hlt := unseen_cons_length_lt hseed hnew
  have hle : (unseen frontier visited).length ≤ frontier.length := List.length_filter_le _ _
  simp only [Fill.pending, List.length_singleton]
  omega

end fill

theorem computeFrontiers_ok [Field R] (order : SetOrder) (hg : grid.WellSized) (e : PyError) :
    computeFrontiers order grid ≠ .error e := by
  rw [computeFrontiers, frontierSet_eq hg]
  intro h
  cases h

end EscapeRoom
