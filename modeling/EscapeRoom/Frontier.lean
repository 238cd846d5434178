import Mathlib.Algebra.Field.Basic
import Mathlib.Data.Rat.Cast.Defs
import Mathlib.Data.List.Basic
import EscapeRoom.PyMath

namespace EscapeRoom
set_option autoImplicit true

/-- What `compute_frontiers` reads of a `nav_msgs/OccupancyGrid`; nothing ties `data` to the
announced size. -/
structure OccupancyGrid (R : Type) where
  width : Nat
  height : Nat
  resolution : R
  originX : R
  originY : R
  data : List Int

def OccupancyGrid.WellSized (grid : OccupancyGrid R) : Prop :=
  grid.data.length = grid.width * grid.height

/-- A cell, row first. -/
abbrev Cell := Int × Int

def minFrontierCells : Nat := 20

def OccupancyGrid.at (grid : OccupancyGrid R) (cell : Cell) : Except PyError Int :=
  pyGet grid.data (cell.1 * grid.width + cell.2)

def Cell.shift (cell d : Cell) : Cell := (cell.1 + d.1, cell.2 + d.2)

/-- A free cell with an unknown 4-neighbour; the scan stops at the first one it finds. -/
def OccupancyGrid.isFrontier (grid : OccupancyGrid R) (cell : Cell) : Except PyError Bool := do
  if (← grid.at cell) ≠ 0 then
    return false
  [(-1, 0), (1, 0), (0, -1), (0, 1)].anyM fun d : Cell => do
    return decide ((← grid.at (Cell.shift cell d)) = -1)

/-- The cells that the two `range(1, n - 1)` loops visit, in their order. -/
def OccupancyGrid.interior (grid : OccupancyGrid R) : List Cell :=
  (List.range' 1 (grid.height - 2)).flatMap fun (r : Nat) =>
    (List.range' 1 (grid.width - 2)).map fun (c : Nat) => ((r : Int), (c : Int))

/-- `frontier_set`, in the order of its `add` calls. -/
def OccupancyGrid.frontierSet (grid : OccupancyGrid R) : Except PyError (List Cell) :=
  grid.interior.filterM grid.isFrontier

def Cell.neighbours (cell : Cell) : List Cell :=
  [(-1, -1), (-1, 0), (-1, 1), (0, -1), (0, 1), (1, -1), (1, 0), (1, 1)].map (Cell.shift cell)

/-- The `visited` set and the stack of the flood fill. -/
structure Fill where
  visited : List Cell
  stack : List Cell

def Fill.push (frontier : List Cell) (f : Fill) (nb : Cell) : Fill :=
  if nb ∈ frontier ∧ nb ∉ f.visited then ⟨nb :: f.visited, nb :: f.stack⟩ else f

/-- The `while stack` loop; each turn pops another frontier cell, so their number is fuel enough. -/
def fillCluster (frontier : List Cell) : Nat → Fill → List Cell → List Cell × List Cell
  | 0, f, cluster => (f.visited, cluster)
  | fuel + 1, f, cluster =>
    match f.stack with
    | [] => (f.visited, cluster)
    | cell :: stack =>
      fillCluster frontier fuel (cell.neighbours.foldl (Fill.push frontier) ⟨f.visited, stack⟩)
        (cluster ++ [cell])

/-- The `for seed in frontier_set` loop. -/
def clusters (frontier : List Cell) : List Cell → List Cell → List (List Cell)
  | [], _ => []
  | seed :: seeds, visited =>
    if seed ∈ visited then
      clusters frontier seeds visited
    else
      let (visited', cluster) := fillCluster frontier frontier.length ⟨seed :: visited, [seed]⟩ []
      cluster :: clusters frontier seeds visited'

/-- The `while stack` loop, `none` if it is still running after `fuel` turns. -/
def fillWithin (frontier : List Cell) : Nat → Fill → List Cell → Option (List Cell × List Cell)
  | 0, f, cluster =>
    match f.stack with
    | [] => some (f.visited, cluster)
    | _ :: _ => none
  | fuel + 1, f, cluster =>
    match f.stack with
    | [] => some (f.visited, cluster)
    | cell :: stack =>
      fillWithin frontier fuel (cell.neighbours.foldl (Fill.push frontier) ⟨f.visited, stack⟩)
        (cluster ++ [cell])

/-- The `for seed in frontier_set` loop, `none` if a fill needs more than `fuel` turns. -/
def clustersWithin (fuel : Nat) (frontier : List Cell) :
    List Cell → List Cell → Option (List (List Cell))
  | [], _ => some []
  | seed :: seeds, visited =>
    if seed ∈ visited then
      clustersWithin fuel frontier seeds visited
    else
      match fillWithin frontier fuel ⟨seed :: visited, [seed]⟩ [] with
      | some (visited', cluster) => (clustersWithin fuel frontier seeds visited').map (cluster :: ·)
      | none => none

/-- The order in which the interpreter iterates over a set, whatever it is. -/
structure SetOrder where
  iter : List Cell → List Cell
  perm : ∀ cells, (iter cells).Perm cells

/-- Insertion order. -/
def SetOrder.insertion : SetOrder := ⟨fun cells => cells, fun _ => .refl _⟩

variable {R : Type} [Field R]

def OccupancyGrid.centroid (grid : OccupancyGrid R) (cluster : List Cell) : R × R :=
  let cr := ((cluster.map Prod.fst).sum : R) / cluster.length
  let cc := ((cluster.map Prod.snd).sum : R) / cluster.length
  (grid.originX + (cc + 0.5) * grid.resolution, grid.originY + (cr + 0.5) * grid.resolution)

def computeFrontiers (order : SetOrder) (grid : OccupancyGrid R) :
    Except PyError (List (R × R)) := do
  let frontier ← grid.frontierSet
  let found := clusters frontier (order.iter frontier) []
  return (found.filter fun cluster => decide (minFrontierCells ≤ cluster.length)).map grid.centroid

end EscapeRoom
