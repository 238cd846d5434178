import Mathlib.Algebra.Order.Ring.Defs
import Mathlib.Logic.Function.Basic
import EscapeRoom.Frontier
import EscapeRoom.Library.Runs
import EscapeRoom.NavClient

namespace EscapeRoom
set_option autoImplicit true
set_option linter.unusedSectionVars false

/-- The mission modes, in the order the robot walks through them. -/
inductive State where
  | explore
  | goToKey
  | pickupOpen
  | pickupAlign
  | pickupClose
  | goToPlate
  | dropAlign
  | dropOpen
  | dropBackup
  | done
deriving DecidableEq, Repr

inductive TargetName where
  | cube
  | plate
  | door
deriving DecidableEq, Repr

/-- The node's parameters under its attribute names. -/
structure Params (R : Type) where
  pickupStandoff : R
  parkMaxSpeed : R
  alignYawTol : R
  alignKp : R
  alignMaxOmega : R
  gripperTimeout : R
  pickupEngageDist : R
  cubeLiveTimeout : R
  pickupLungeStart : R
  pickupLungeMargin : R
  dropBackupDist : R
  setOrder : SetOrder := .insertion

/-- A planar transform as TF reports it. -/
structure Transform (R : Type) where
  x : R
  y : R
  qx : R
  qy : R
  qz : R
  qw : R

structure Twist (R : Type) where
  linearX : R
  angularZ : R
deriving DecidableEq, Repr

/-- The pose of a Nav2 goal. -/
structure NavGoal (R : Type) where
  x : R
  y : R
  qw : R
  qz : R
deriving DecidableEq, Repr

/-- The method that sends a goal. -/
inductive Sender where
  | explore
  | navGoToKey
  | navGoToPlate
deriving DecidableEq, Repr

structure NavRequest (R : Type) where
  sender : Sender
  goal : NavGoal R
deriving DecidableEq, Repr

/-- The target codes of the gripper's script. -/
inductive GripperTarget where
  | «open»
  | close
deriving DecidableEq, Repr

def GripperTarget.code : GripperTarget → Int
  | .open => 1
  | .close => 2

/-- Everything the node emits: messages, action requests and simulator calls. -/
inductive Cmd (R : Type) where
  | twist (t : Twist R)
  | markGoal (g : NavGoal R)
  | sendGoal (r : NavRequest R)
  | cancelGoal (handle : Nat)
  | gripper (target : GripperTarget)
  | cubeVisible (visible : Bool)
deriving DecidableEq, Repr

/-- What a tick is told by the world. No path through a tick asks the same question twice. -/
structure TickIn (R : Type) where
  serverReady : Bool
  mapTf : Option (Transform R)
  odomTf : Option (Transform R)
  clock : R
  gripperState : Option Int

/-- The attributes of `ExplorerNode`, with every command emitted so far in `out`. -/
structure Node (R : Type) where
  targets : TargetName → Option (R × R)
  mode : State
  actionT : R
  currentMap : Option (OccupancyGrid R)
  started : Bool
  cubeLive : Option (R × R × R)
  lungeActive : Bool
  lungeStart : Option (R × R)
  lungeDist : R
  backupStart : Option (R × R)
  nav : NavLink (NavRequest R)
  out : List (Cmd R)

/-- How a callback ends: with the node it leaves, and the exception that got out of it, if any. -/
structure Outcome (R : Type) where
  node : Node R
  raised : Option PyError

@[match_pattern] def Outcome.ok (s : Node R) : Outcome R := ⟨s, none⟩

@[match_pattern] def Outcome.raise (e : PyError) (s : Node R) : Outcome R := ⟨s, some e⟩

variable {R : Type} [Field R] [LinearOrder R] [PyMath R]

/-- The values that `_declare_params` declares. -/
def Params.default : Params R where
  pickupStandoff := 0.90
  parkMaxSpeed := 0.06
  alignYawTol := 0.08
  alignKp := 1.5
  alignMaxOmega := 0.6
  gripperTimeout := 4.0
  pickupEngageDist := 0.177
  cubeLiveTimeout := 0.8
  pickupLungeStart := 0.90
  pickupLungeMargin := 0.03
  dropBackupDist := 0.25

def Node.init : Node R where
  targets := fun _ => none
  mode := .explore
  actionT := 0
  currentMap := none
  started := false
  cubeLive := none
  lungeActive := false
  lungeStart := none
  lungeDist := 0
  backupStart := none
  nav := {}
  out := []

def Twist.zero : Twist R := ⟨0, 0⟩

/-- The command of `_drive`; two of its callers pass `cap_linear=False`. -/
def driveTwist (p : Params R) (linear angular : R) (capLinear : Bool) : Twist R where
  linearX := if capLinear then clamp linear (-p.parkMaxSpeed) p.parkMaxSpeed else linear
  angularZ := clamp angular (-p.alignMaxOmega) p.alignMaxOmega

/-- Yaw about the vertical axis, from the full quaternion. -/
def getRobotPose (tf : Option (Transform R)) : Option (R × R × R) :=
  tf.map fun t => (t.x, t.y,
    PyMath.atan2 (2.0 * (t.qw * t.qz + t.qx * t.qy)) (1.0 - 2.0 * (t.qy ^ 2 + t.qz ^ 2)))

def getOdomPose (tf : Option (Transform R)) : Option (R × R) := tf.map fun t => (t.x, t.y)

/-- Yaw to quaternion, as `publish_nav_goal` and `NavClient.send` both do it. -/
def NavGoal.ofYaw (x y yaw : R) : NavGoal R :=
  ⟨x, y, PyMath.cos (yaw / 2.0), PyMath.sin (yaw / 2.0)⟩

def gripperReached (target : GripperTarget) (elapsed timeout : R) (reply : Option Int) : Bool :=
  if timeout ≤ elapsed then true
  else match reply with
    | some cur => decide (cur = target.code)
    | none => false

namespace Node

def emit (c : Cmd R) (s : Node R) : Node R := { s with out := s.out ++ [c] }

def stop (s : Node R) : Node R := s.emit (.twist .zero)

def drive (p : Params R) (linear angular : R) (capLinear : Bool) (s : Node R) : Node R :=
  s.emit (.twist (driveTwist p linear angular capLinear))

def gripperOpen (s : Node R) : Node R := s.emit (.gripper .open)

def gripperClose (s : Node R) : Node R := s.emit (.gripper .close)

def setCubeVisible (visible : Bool) (s : Node R) : Node R := s.emit (.cubeVisible visible)

def navCancel (s : Node R) : Node R :=
  { s with nav := s.nav.cancel, out := s.out ++ s.nav.client.handle.toList.map .cancelGoal }

def navSend (i : TickIn R) (r : NavRequest R) (s : Node R) : Node R :=
  { s with
    nav := s.nav.send i.serverReady r
    out := s.out ++ if i.serverReady then [.sendGoal r] else [] }

def transition (state : State) (s : Node R) : Node R := { s.navCancel with mode := state }

/-- `publish_nav_goal` followed by `nav.send`, as every goal goes out. -/
def sendTo (i : TickIn R) (sender : Sender) (x y yaw : R) (s : Node R) : Node R :=
  (s.emit (.markGoal (.ofYaw x y yaw))).navSend i ⟨sender, .ofYaw x y yaw⟩

def navGoToKey (p : Params R) (i : TickIn R) (s : Node R) : Outcome R :=
  match getRobotPose i.mapTf with
  | none => .ok s
  | some (rx, ry, _) =>
    match s.targets .cube with
    | none => .raise .keyError s
    | some (cx, cy) =>
      let yaw := PyMath.atan2 (cy - ry) (cx - rx)
      let sx := cx - p.pickupStandoff * PyMath.cos yaw
      let sy := cy - p.pickupStandoff * PyMath.sin yaw
      .ok (s.sendTo i .navGoToKey sx sy yaw)

def navGoToPlate (i : TickIn R) (s : Node R) : Outcome R :=
  match getRobotPose i.mapTf with
  | none => .ok s
  | some (rx, ry, _) =>
    match s.targets .plate with
    | none => .raise .keyError s
    | some (px, py) =>
      let yaw := PyMath.atan2 (py - ry) (px - rx)
      .ok (s.sendTo i .navGoToPlate px py yaw)

/-- `len(self.targets)`. -/
def targetCount (s : Node R) : Nat :=
  ([.cube, .plate, .door].filter fun name => (s.targets name).isSome).length

def isReady (i : TickIn R) (s : Node R) : Bool :=
  i.serverReady && s.currentMap.isSome && (getRobotPose i.mapTf).isSome

def explore (p : Params R) (i : TickIn R) (s : Node R) : Outcome R :=
  if s.targetCount = 3 then
    (s.transition .goToKey).navGoToKey p i
  else if s.nav.client.active then
    .ok s
  else match s.currentMap with
    | none => .raise .attributeError s
    | some grid =>
      match computeFrontiers p.setOrder grid with
      | .error e => .raise e s
      | .ok frontiers =>
        if frontiers = [] then
          .ok s
        else match getRobotPose i.mapTf with
          | none => .ok s
          | some (rx, ry, _) =>
            match pyMin (fun f => PyMath.hypot (f.1 - rx) (f.2 - ry)) frontiers with
            | none => .raise .valueError s
            | some (fx, fy) => .ok (s.sendTo i .explore fx fy (PyMath.atan2 (fy - ry) (fx - rx)))

def goToKey (p : Params R) (i : TickIn R) (s : Node R) : Outcome R :=
  if s.nav.client.active then
    .ok s
  else if !s.nav.client.succeeded then
    s.navGoToKey p i
  else
    let s := { s.stop with lungeActive := false, lungeStart := none }
    let s := { s.transition .pickupOpen with actionT := i.clock }
    .ok s.gripperOpen

def goToPlate (i : TickIn R) (s : Node R) : Outcome R :=
  if s.nav.client.active then
    .ok s
  else if !s.nav.client.succeeded then
    s.navGoToPlate i
  else
    .ok (s.stop.transition .dropAlign)

def pickupOpen (p : Params R) (i : TickIn R) (s : Node R) : Outcome R :=
  let s := s.stop
  let elapsed := i.clock - s.actionT
  if gripperReached .open elapsed p.gripperTimeout i.gripperState then
    .ok (s.transition .pickupAlign)
  else
    .ok s

def pickupClose (p : Params R) (i : TickIn R) (s : Node R) : Outcome R :=
  let s := s.stop
  let elapsed := i.clock - s.actionT
  if gripperReached .close elapsed p.gripperTimeout i.gripperState then
    ((s.setCubeVisible false).transition .goToPlate).navGoToPlate i
  else
    .ok s

/-- The plate in `base_link`, forward and left: translate, then rotate by `-yaw`. -/
def plateInBase (rx ry ryaw px py : R) : R × R :=
  let c := PyMath.cos (-ryaw)
  let s := PyMath.sin (-ryaw)
  let dx := px - rx
  let dy := py - ry
  (c * dx - s * dy, s * dx + c * dy)

def dropAlign (p : Params R) (i : TickIn R) (s : Node R) : Outcome R :=
  match getRobotPose i.mapTf with
  | none => .ok s
  | some (rx, ry, ryaw) =>
    match s.targets .plate with
    | none => .raise .keyError s
    | some (px, py) =>
      let b := plateInBase rx ry ryaw px py
      let bearing := PyMath.atan2 b.2 b.1
      if |bearing| > p.alignYawTol then
        .ok (s.drive p 0 (p.alignKp * bearing) true)
      else
        let carried := p.pickupEngageDist + p.pickupLungeMargin
        let err := PyMath.hypot b.1 b.2 - carried
        if |err| ≤ 0.03 then
          .ok { s.stop.transition .dropOpen with actionT := i.clock }.gripperOpen
        else
          .ok (s.drive p (0.5 * err) (0.5 * bearing) true)

def dropOpen (p : Params R) (i : TickIn R) (s : Node R) : Outcome R :=
  let s := s.stop
  let elapsed := i.clock - s.actionT
  if !gripperReached .open elapsed p.gripperTimeout i.gripperState then
    .ok s
  else match getOdomPose i.odomTf with
    | none => .ok s
    | some start =>
      .ok ({ s.setCubeVisible true with backupStart := some start }.transition .dropBackup)

def dropBackup (p : Params R) (i : TickIn R) (s : Node R) : Outcome R :=
  match getOdomPose i.odomTf with
  | none => .ok s
  | some pose =>
    match s.backupStart with
    | none => .raise .typeError s
    | some start =>
      let advanced := PyMath.hypot (pose.1 - start.1) (pose.2 - start.2)
      if advanced ≥ p.dropBackupDist then
        .ok (s.stop.transition .done)
      else
        .ok (s.drive p (-p.parkMaxSpeed) 0 false)

def cubeFresh (p : Params R) (i : TickIn R) (s : Node R) : Bool :=
  match s.cubeLive with
  | none => false
  | some (_, _, stamp) => decide (i.clock - stamp ≤ p.cubeLiveTimeout)

def engageCube (i : TickIn R) (s : Node R) : Node R :=
  { s.transition .pickupClose with actionT := i.clock }.gripperClose

/-- The heading still to correct during the lunge, zero once the cube is out of sight. -/
def lungeBearing (p : Params R) (i : TickIn R) (s : Node R) : R :=
  match s.cubeLive with
  | some (bx, by_, _) => if s.cubeFresh p i then PyMath.atan2 by_ bx else 0
  | none => 0

def pickupLunge (p : Params R) (i : TickIn R) (s : Node R) : Outcome R :=
  match getOdomPose i.odomTf with
  | none => .ok s
  | some pose =>
    match s.lungeStart with
    | none => .raise .typeError s
    | some start =>
      let advanced := PyMath.hypot (pose.1 - start.1) (pose.2 - start.2)
      if advanced ≥ s.lungeDist then
        .ok ({ s.stop with lungeActive := false }.engageCube i)
      else
        .ok (s.drive p p.parkMaxSpeed (0.5 * s.lungeBearing p i) false)

def pickupAlign (p : Params R) (i : TickIn R) (s : Node R) : Outcome R :=
  if s.lungeActive then
    s.pickupLunge p i
  else if !s.cubeFresh p i then
    .ok s
  else match s.cubeLive with
    | none => .raise .typeError s
    | some (bx, by_, _) =>
      let rng := PyMath.hypot bx by_
      let bearing := PyMath.atan2 by_ bx
      if |bearing| > p.alignYawTol then
        .ok (s.drive p 0 (p.alignKp * bearing) true)
      else if rng ≤ p.pickupLungeStart then
        match getOdomPose i.odomTf with
        | none => .ok s
        | some start =>
          let dist := max 0 (rng - p.pickupEngageDist - p.pickupLungeMargin)
          .ok { s with lungeActive := true, lungeStart := some start, lungeDist := dist }.stop
      else
        .ok (s.drive p (0.5 * (rng - p.pickupEngageDist)) (0.5 * bearing) true)

/-- The dispatch of `_handlers`. -/
def handle (p : Params R) (i : TickIn R) (s : Node R) : Outcome R :=
  match s.mode with
  | .explore => s.explore p i
  | .goToKey => s.goToKey p i
  | .goToPlate => s.goToPlate i
  | .pickupOpen => s.pickupOpen p i
  | .pickupAlign => s.pickupAlign p i
  | .pickupClose => s.pickupClose p i
  | .dropAlign => s.dropAlign p i
  | .dropOpen => s.dropOpen p i
  | .dropBackup => s.dropBackup p i
  | .done => .ok s

def tick (p : Params R) (i : TickIn R) (s : Node R) : Outcome R :=
  if !s.started then
    if s.isReady i then .ok { s with started := true } else .ok s
  else
    s.handle p i

def onMap (grid : OccupancyGrid R) (s : Node R) : Node R := { s with currentMap := some grid }

def setTarget (name : TargetName) (x y : R) (s : Node R) : Node R :=
  { s with targets := Function.update s.targets name (some (x, y)) }

def onTarget (name : TargetName) (x y : R) (s : Node R) : Node R :=
  match s.targets name with
  | some (ox, oy) =>
    if PyMath.hypot (x - ox) (y - oy) ≤ 0.1 then s else s.setTarget name x y
  | none => s.setTarget name x y

@[simp] theorem stop_mode (s : Node R) : s.stop.mode = s.mode := rfl

@[simp] theorem setCubeVisible_mode (visible : Bool) (s : Node R) :
    (s.setCubeVisible visible).mode = s.mode := rfl

@[simp] theorem setTarget_targets_self (name : TargetName) (x y : R) (s : Node R) :
    (s.setTarget name x y).targets name = some (x, y) := Function.update_self _ _ _

theorem setTarget_targets_of_ne {name name' : TargetName} (h : name' ≠ name) (x y : R)
    (s : Node R) : (s.setTarget name x y).targets name' = s.targets name' :=
  Function.update_of_ne h _ _

def onCubeLive (x y clock : R) (s : Node R) : Node R := { s with cubeLive := some (x, y, clock) }

end Node

/-- A callback of the node's executor, or a step of the Nav2 server. -/
inductive Event (R : Type) where
  | tick (i : TickIn R)
  | map (grid : OccupancyGrid R)
  | target (name : TargetName) (x y : R)
  | cubeLive (x y clock : R)
  | nav (e : NavEvent)

/-- One callback; an exception ends the process, so nothing happens after it. -/
def step (p : Params R) (o : Outcome R) (e : Event R) : Outcome R :=
  if o.raised.isSome then o
  else match e with
    | .tick i => o.node.tick p i
    | .map grid => .ok (o.node.onMap grid)
    | .target name x y => .ok (o.node.onTarget name x y)
    | .cubeLive x y clock => .ok (o.node.onCubeLive x y clock)
    | .nav e => .ok { o.node with nav := o.node.nav.step e }

theorem raised_of_step {p : Params R} {o : Outcome R} {e : Event R}
    (h : (step p o e).raised = none) : o.raised = none := by
  unfold step at h
  split at h
  · exact h
  · rename_i hr
    simpa using hr

theorem step_tick {p : Params R} {o : Outcome R} (h : o.raised = none) (i : TickIn R) :
    step p o (.tick i) = o.node.tick p i := by
  rw [step, h]
  rfl

theorem step_ok_tick (p : Params R) (s : Node R) (i : TickIn R) :
    step p (.ok s) (.tick i) = s.tick p i := rfl

theorem step_ok_nav (p : Params R) (s : Node R) (e : NavEvent) :
    step p (.ok s) (.nav e) = .ok { s with nav := s.nav.step e } := rfl

/-- The outcome of the node after its callbacks ran in the given order. -/
def missionRun (p : Params R) (es : List (Event R)) : Outcome R :=
  Runs.run (step p) (.ok .init) es

theorem missionRun_concat (p : Params R) (es : List (Event R)) (e : Event R) :
    missionRun p (es ++ [e]) = step p (missionRun p es) e := Runs.run_concat _ _ _ _

theorem missionRun_invariant {p : Params R} (I : Outcome R → Prop) (hI : I (.ok .init))
    (hs : ∀ o e, I o → I (step p o e)) (es : List (Event R)) : I (missionRun p es) :=
  Runs.invariant hI hs es

end EscapeRoom
