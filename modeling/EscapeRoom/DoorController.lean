import Mathlib.Algebra.Order.Group.Abs
import EscapeRoom.Detector

namespace EscapeRoom
set_option autoImplicit true
set_option linter.unusedSectionVars false

/-- What `DoorController.tick` reads of its parameters. -/
structure DoorParams (R : Type) where
  xyMargin : R
  zMaxOffset : R
  latch : Bool

structure DoorController (R : Type) where
  plateBboxXy : R × R
  isOpen : Bool

inductive DoorCmd where
  | openDoor
  | closeDoor
deriving DecidableEq, Repr

variable {R : Type} [Field R] [LinearOrder R]

def DoorParams.default : DoorParams R := ⟨0.05, 0.15, true⟩

/-- The part of the trigger test that looks at the floor plan. -/
def DoorController.xyTriggered (p : DoorParams R) (c : DoorController R) (dx dy : R) : Bool :=
  decide (|dx| ≤ c.plateBboxXy.1 + p.xyMargin) && decide (|dy| ≤ c.plateBboxXy.2 + p.xyMargin)

def DoorController.triggered (p : DoorParams R) (c : DoorController R) (cube plate : Point R) :
    Bool :=
  let dz := cube.z - plate.z
  c.xyTriggered p (cube.x - plate.x) (cube.y - plate.y) &&
    (decide (-0.05 ≤ dz) && decide (dz ≤ p.zMaxOffset))

/-- One tick; `query` is the answer of the simulator, `none` when it raises. -/
def DoorController.tick (p : DoorParams R) (query : Option (Point R × Point R))
    (c : DoorController R) : DoorController R × List DoorCmd :=
  match query with
  | none => (c, [])
  | some (cube, plate) =>
    if c.triggered p cube plate && !c.isOpen then
      ({ c with isOpen := true }, [.openDoor])
    else if !c.triggered p cube plate && c.isOpen && !p.latch then
      ({ c with isOpen := false }, [.closeDoor])
    else (c, [])

end EscapeRoom
