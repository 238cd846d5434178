import Mathlib.Algebra.Order.Field.Basic
import Mathlib.Data.Fin.VecNotation
import Mathlib.Data.Rat.Cast.Defs

namespace EscapeRoom
set_option autoImplicit true

/-- What the script uses of Lua's `math`. -/
class LuaMath (R : Type) where
  pi : R
  atan : R → R → R
  cos : R → R
  sin : R → R

/-- The pose of an object as CoppeliaSim hands it out: a 3×4 matrix, row by row. -/
abbrev ObjectMatrix (R : Type) := Fin 12 → R

/-- Lua counts the entries from one. -/
def lua (i : Nat) : Fin 12 := Fin.ofNat 12 (i - 1)

/-- A `LaserScan` message. -/
structure LaserScan (R : Type) where
  stamp : R
  frameId : String
  angleMin : R
  angleMax : R
  angleIncrement : R
  timeIncrement : R
  scanTime : R
  rangeMin : R
  rangeMax : R
  ranges : List R

/-- What the script has the simulator do. -/
inductive LidarCmd (R : Type) where
  | clearDrawing
  | setSensor (mat : ObjectMatrix R)
  | draw (point : R × R × R)
  | publish (scan : LaserScan R)

/-- What the simulator answers during one `sysCall_sensing`; `stamp` is the ROS time, `probe i` the
distance at which the ray of index `i` hits, if it does. -/
structure SensingIn (R : Type) where
  t : R
  stamp : R
  mat : ObjectMatrix R
  probe : Nat → Option R

/-- The variables of the script. -/
structure Lidar (R : Type) where
  rayAngles : List R
  lastT : R

def nRays : Nat := 360

def laserFrame : String := "laser_link"

variable {R : Type} [Field R]

def maxRange : R := 5.0

def rangeMin : R := 0.05

def rateHz : R := 10.0

def laserZ : R := 0.12

variable [LuaMath R]

def sysCallInit : Lidar R where
  rayAngles := (List.range nRays).map fun (i : Nat) => -LuaMath.pi + i * (2.0 * LuaMath.pi / nRays)
  lastT := -1e9

/-- One turn of the loop over the rays: the commands given and the ranges found so far. -/
def senseRay (probe : Nat → Option R) (rx ry oz yaw : R) (acc : List (LidarCmd R) × List R)
    (ray : R × Nat) : List (LidarCmd R) × List R :=
  let (cmds, ranges) := acc
  let (angle, i) := ray
  let phi := angle + yaw
  let cw := LuaMath.cos phi
  let sw := LuaMath.sin phi
  let cmds := cmds ++ [.setSensor ![-sw, 0, cw, rx, cw, 0, sw, ry, 0, 1, 0, oz]]
  match probe i with
  | some dist =>
    (cmds ++ [.draw (rx + cw * dist, ry + sw * dist, oz)], ranges ++ [dist])
  | none => (cmds, ranges ++ [maxRange])

def sysCallSensing [LinearOrder R] (inp : SensingIn R) (s : Lidar R) :
    Lidar R × List (LidarCmd R) :=
  if inp.t - s.lastT < 1.0 / rateHz then (s, [])
  else
    let rx := inp.mat (lua 4)
    let ry := inp.mat (lua 8)
    let rz := inp.mat (lua 12)
    let yaw := LuaMath.atan (inp.mat (lua 5)) (inp.mat (lua 1))
    let oz := rz + laserZ
    let (cmds, ranges) :=
      (s.rayAngles.zipIdx 1).foldl (senseRay inp.probe rx ry oz yaw) ([.clearDrawing], [])
    ({ s with lastT := inp.t }, cmds ++ [.publish {
      stamp := inp.stamp
      frameId := laserFrame
      angleMin := -LuaMath.pi
      angleMax := LuaMath.pi - 2.0 * LuaMath.pi / nRays
      angleIncrement := 2.0 * LuaMath.pi / nRays
      timeIncrement := 0.0
      scanTime := 1.0 / rateHz
      rangeMin := rangeMin
      rangeMax := maxRange
      ranges := ranges }])

/-- The arguments of `static_transform_publisher`. -/
structure StaticTransform (R : Type) where
  x : R
  y : R
  z : R
  yaw : R
  pitch : R
  roll : R
  frameId : String
  childFrameId : String

/-- The transform that the launch file publishes. -/
def baseLinkToLaserLink : StaticTransform R where
  x := 0
  y := 0
  z := 0.12
  yaw := 0
  pitch := 0
  roll := 0
  frameId := "base_link"
  childFrameId := "laser_link"

end EscapeRoom
