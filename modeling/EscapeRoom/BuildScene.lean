import Mathlib.Algebra.Order.Field.Basic
import Mathlib.Data.Rat.Cast.Defs
import Mathlib.Data.List.Sort

namespace EscapeRoom
set_option autoImplicit true
set_option linter.unusedSectionVars false

structure DoorConfig (R : Type) where
  wallSide : Int
  centerOffset : R
  width : R
  color : Option (R × R × R)

structure RoomConfig (R : Type) where
  width : R
  length : R
  height : R
  wallThickness : R
  doors : List (DoorConfig R)

/-- The `ValueError`s of the builder, with the numbers in their texts. -/
inductive SceneError (R : Type) where
  | exceedsWallBounds (centre width half : R)
  | overlapsPreviousDoor (centre width cursor : R)
  | unknownWallSide (side : Int)

inductive Axis where
  | x
  | y
deriving DecidableEq, Repr

structure Wall (R : Type) where
  axis : Axis
  length : R
  centreX : R
  centreY : R
  aliasName : String

/-- A cuboid put into the scene. -/
structure Shape (R : Type) where
  size : R × R × R
  center : R × R × R
  color : R × R × R
  name : String
  static : Bool := true
  respondable : Bool := true

variable {R : Type} [Field R]

section segments

variable [LinearOrder R]

/-- One turn of the loop over the doors: the segments cut so far and the cursor. -/
def cutDoor (half : R) (acc : List (R × R) × R) (door : R × R) :
    Except (SceneError R) (List (R × R) × R) :=
  let (segments, cursor) := acc
  let (centre, width) := door
  let left := centre - width / 2.0
  let right := centre + width / 2.0
  if left < -half ∨ right > half then .error (.exceedsWallBounds centre width half)
  else if left ≤ cursor then .error (.overlapsPreviousDoor centre width cursor)
  else .ok (segments ++ [(left - cursor, (cursor + left) / 2.0)], right)

def sortedDoors (doors : List (R × R)) : List (R × R) :=
  doors.insertionSort fun d e => d.1 - d.2 / 2.0 ≤ e.1 - e.2 / 2.0

/-- The solid segments of a wall, as length and centre, from the left to the right. -/
def segmentsAroundDoors (wallLength : R) (doors : List (R × R)) :
    Except (SceneError R) (List (R × R)) := do
  let half := wallLength / 2.0
  let (segments, cursor) ← (sortedDoors doors).foldlM (cutDoor half) ([], -half)
  if cursor < half then return segments ++ [(half - cursor, (cursor + half) / 2.0)]
  else return segments

end segments

/-- The walls in the order of `wall_side`. -/
def wallLayout (width length thickness : R) : List (Wall R) :=
  let hw := width / 2.0
  let hl := length / 2.0
  [⟨.x, width + 2.0 * thickness, 0, hl + thickness / 2.0, "WallNorth"⟩,
    ⟨.y, length, hw + thickness / 2.0, 0, "WallEast"⟩,
    ⟨.x, width + 2.0 * thickness, 0, -hl - thickness / 2.0, "WallSouth"⟩,
    ⟨.y, length, -hw - thickness / 2.0, 0, "WallWest"⟩]

/-- The cuboid of one segment of a wall. -/
def wallShape (room : RoomConfig R) (wall : Wall R) (segment : R × R) (i : Nat) : Shape R :=
  let (segLen, segOff) := segment
  let (size, pos) := match wall.axis with
    | .x => ((segLen, room.wallThickness, room.height),
        (wall.centreX + segOff, wall.centreY, room.height / 2.0))
    | .y => ((room.wallThickness, segLen, room.height),
        (wall.centreX, wall.centreY + segOff, room.height / 2.0))
  { size := size, center := pos, color := (0.85, 0.85, 0.85),
    name := wall.aliasName ++ "_" ++ toString i }

/-- The doors of one wall, as centre and width. -/
def RoomConfig.wallDoors (room : RoomConfig R) (wallSide : Int) : List (R × R) :=
  (room.doors.filter fun d => decide (d.wallSide = wallSide)).map
    fun d => (d.centerOffset, d.width)

/-- The body of the loop over the walls. -/
def buildWall [LinearOrder R] (room : RoomConfig R) (wall : Wall R) (wallSide : Int) :
    Except (SceneError R) (List (Shape R)) := do
  let segments ← segmentsAroundDoors wall.length (room.wallDoors wallSide)
  return segments.zipIdx.map fun (segment, i) => wallShape room wall segment i

def buildWalls [LinearOrder R] (room : RoomConfig R) : Except (SceneError R) (List (Shape R)) := do
  let walls ← (wallLayout room.width room.length room.wallThickness).zipIdx.mapM
    fun (wall, wallSide) => buildWall room wall wallSide
  return walls.flatten

/-- The panel that fills the opening of a door. -/
def buildDoor (room : RoomConfig R) (door : DoorConfig R) (idx : Nat) :
    Except (SceneError R) (Shape R) :=
  let hw := room.width / 2.0
  let hl := room.length / 2.0
  let thickness := room.wallThickness
  let height := room.height
  let centre := door.centerOffset
  let panel (size pos : R × R × R) : Shape R :=
    { size := size, center := pos, color := door.color.getD (0.55, 0.30, 0.15),
      name := "Door_" ++ toString idx }
  if door.wallSide = 0 then
    .ok (panel (door.width, thickness, height) (centre, hl + thickness / 2.0, height / 2.0))
  else if door.wallSide = 1 then
    .ok (panel (thickness, door.width, height) (hw + thickness / 2.0, centre, height / 2.0))
  else if door.wallSide = 2 then
    .ok (panel (door.width, thickness, height) (centre, -hl - thickness / 2.0, height / 2.0))
  else if door.wallSide = 3 then
    .ok (panel (thickness, door.width, height) (-hw - thickness / 2.0, centre, height / 2.0))
  else .error (.unknownWallSide door.wallSide)

/-- `main`'s loop over the doors. -/
def buildDoors (room : RoomConfig R) : Except (SceneError R) (List (Shape R)) :=
  room.doors.zipIdx.mapM fun (door, i) => buildDoor room door i

end EscapeRoom
