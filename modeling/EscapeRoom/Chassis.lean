import EscapeRoom.BaseFrame

namespace EscapeRoom.Sim
set_option autoImplicit true

open Planar

/-- A value read from the robot, the one it was last sent, and the one that is wanted. -/
structure ControllableValue (α : Type) where
  current : α
  target : α
  desired : α
  initialized : Bool

namespace ControllableValue

variable [DecidableEq α] (v : ControllableValue α)

/-- Whether there is something to send, and the value after it is sent. -/
def check : Bool × ControllableValue α :=
  if v.target ≠ v.desired ∨ v.initialized = false then
    (true, { v with target := v.desired, initialized := true })
  else (false, v)

def setTarget (value : α) (v : ControllableValue α) : ControllableValue α :=
  { v with desired := value }

@[simp] theorem check_current : v.check.2.current = v.current := by
  rw [check]
  split <;> rfl

@[simp] theorem check_desired : v.check.2.desired = v.desired := by
  rw [check]
  split <;> rfl

@[simp] theorem check_target : v.check.2.target = v.desired := by
  rw [check]
  split
  · rfl
  · rename_i h
    exact not_not.1 (not_or.1 h).1

end ControllableValue

/-- The remainder with the sign of the dividend. -/
noncomputable def fmod (x y : ℝ) : ℝ :=
  x - y * (if 0 ≤ x / y then ⌊x / y⌋ else ⌈x / y⌉ : ℤ)

noncomputable def normalize (value : ℝ) : ℝ :=
  if fmod (value + Real.pi) (2.0 * Real.pi) < 0 then
    fmod (value + Real.pi) (2.0 * Real.pi) + 2.0 * Real.pi - Real.pi
  else fmod (value + Real.pi) (2.0 * Real.pi) - Real.pi

structure Twist2D (R : Type) where
  x : R
  y : R
  theta : R

/-- A pose with real coordinates, where the source computes in `float`. -/
structure Pose2D where
  x : ℝ
  y : ℝ
  theta : ℝ

structure WheelSpeeds (R : Type) where
  frontLeft : R
  frontRight : R
  rearLeft : R
  rearRight : R
deriving DecidableEq

section wheels

variable [Field R]

def wheelSpeedsFromTwist (twist : Twist2D R) (l radius : R) : WheelSpeeds R where
  frontLeft := (twist.x - twist.y - l * twist.theta) / radius
  frontRight := (twist.x + twist.y + l * twist.theta) / radius
  rearLeft := (twist.x + twist.y - l * twist.theta) / radius
  rearRight := (twist.x - twist.y + l * twist.theta) / radius

def twistFromWheelSpeeds (speeds : WheelSpeeds R) (l radius : R) : Twist2D R where
  x := 0.25 * (speeds.frontLeft + speeds.frontRight + speeds.rearLeft + speeds.rearRight) * radius
  y := 0.25 * (-speeds.frontLeft + speeds.frontRight + speeds.rearLeft - speeds.rearRight) * radius
  theta := 0.25 * (-speeds.frontLeft + speeds.frontRight - speeds.rearLeft + speeds.rearRight) *
    radius / l

/-- The four wheels of a mecanum base have one speed too many, which a twist never asks for. -/
theorem twistFromWheelSpeeds_wheelSpeedsFromTwist [CharZero R] (twist : Twist2D R) {l radius : R}
    (hl : l ≠ 0) (hr : radius ≠ 0) :
    twistFromWheelSpeeds (wheelSpeedsFromTwist twist l radius) l radius = twist := by
  have hquarter : (0.25 : R) * 4 = 1 := by norm_num
  obtain ⟨x, y, θ⟩ := twist
  rw [wheelSpeedsFromTwist, twistFromWheelSpeeds]
  dsimp only
  congr 1
  · field_simp
    linear_combination x * hquarter
  · field_simp
    linear_combination y * hquarter
  · field_simp
    linear_combination θ * hquarter

end wheels

namespace Twist2D

noncomputable def rotateAroundZ (alpha : ℝ) (t : Twist2D ℝ) : Twist2D ℝ where
  x := t.x * Real.cos alpha - t.y * Real.sin alpha
  y := t.x * Real.sin alpha + t.y * Real.cos alpha
  theta := t.theta

/-- The translation of a twist. -/
def planar (t : Twist2D ℝ) : ℂ := ⟨t.x, t.y⟩

theorem planar_rotateAroundZ (alpha : ℝ) (t : Twist2D ℝ) :
    (t.rotateAroundZ alpha).planar = heading alpha * t.planar := by
  apply Complex.ext
  · simp only [planar, rotateAroundZ, heading, Complex.mul_re]
    ring
  · simp only [planar, rotateAroundZ, heading, Complex.mul_im]
    ring

end Twist2D

namespace Pose2D

/-- `Pose2D + Twist2D * time_step`. -/
def advance (p : Pose2D) (t : Twist2D ℝ) (timeStep : ℝ) : Pose2D :=
  ⟨p.x + t.x * timeStep, p.y + t.y * timeStep, p.theta + t.theta * timeStep⟩

noncomputable def rotateAroundZ (alpha : ℝ) (p : Pose2D) : Pose2D where
  x := p.x * Real.cos alpha - p.y * Real.sin alpha
  y := p.x * Real.sin alpha + p.y * Real.cos alpha
  theta := p.theta + alpha

/-- `Pose2D * Pose2D`: the second pose, given in the frame of the first. -/
noncomputable def compose (p q : Pose2D) : Pose2D where
  x := (q.rotateAroundZ p.theta).x + p.x
  y := (q.rotateAroundZ p.theta).y + p.y
  theta := q.theta + p.theta

noncomputable def inverse (p : Pose2D) : Pose2D where
  x := -(p.rotateAroundZ (-p.theta)).x
  y := -(p.rotateAroundZ (-p.theta)).y
  theta := -p.theta

noncomputable def relativeTo (p pose : Pose2D) : Pose2D := pose.inverse.compose p

noncomputable def distance (p : Pose2D) : ℝ := √(p.x * p.x + p.y * p.y)

noncomputable def norm (p : Pose2D) : ℝ := p.distance + |normalize p.theta|

/-- The position of a pose. -/
def spot (p : Pose2D) : ℂ := ⟨p.x, p.y⟩

theorem spot_rotateAroundZ (alpha : ℝ) (p : Pose2D) :
    (p.rotateAroundZ alpha).spot = heading alpha * p.spot := by
  apply Complex.ext
  · simp only [spot, rotateAroundZ, heading, Complex.mul_re]
    ring
  · simp only [spot, rotateAroundZ, heading, Complex.mul_im]
    ring

theorem spot_compose (p q : Pose2D) : (p.compose q).spot = heading p.theta * q.spot + p.spot := by
  rw [← spot_rotateAroundZ]
  rfl

theorem spot_inverse (p : Pose2D) : p.inverse.spot = -(heading (-p.theta) * p.spot) := by
  rw [← spot_rotateAroundZ]
  rfl

theorem spot_relativeTo (p pose : Pose2D) :
    (p.relativeTo pose).spot = heading (-pose.theta) * (p.spot - pose.spot) := by
  rw [relativeTo, spot_compose, spot_inverse, inverse]
  ring

theorem theta_relativeTo (p pose : Pose2D) :
    (p.relativeTo pose).theta = p.theta - pose.theta := by
  rw [relativeTo, compose, inverse, sub_eq_add_neg]

theorem distance_eq (p : Pose2D) : p.distance = ‖p.spot‖ := by
  rw [Complex.norm_eq_sqrt_sq_add_sq, distance, ← pow_two, ← pow_two]
  rfl

theorem distance_relativeTo (p pose : Pose2D) :
    (p.relativeTo pose).distance = ‖p.spot - pose.spot‖ := by
  rw [distance_eq, spot_relativeTo, norm_mul, norm_heading, one_mul]

theorem spot_advance (p : Pose2D) (t : Twist2D ℝ) (timeStep : ℝ) :
    (p.advance t timeStep).spot = p.spot + timeStep * t.planar := by
  apply Complex.ext
  · simp [spot, advance, Twist2D.planar, mul_comm]
  · simp [spot, advance, Twist2D.planar, mul_comm]

end Pose2D

structure Vector3 where
  x : ℝ
  y : ℝ
  z : ℝ

structure Attitude where
  yaw : ℝ
  pitch : ℝ
  roll : ℝ

structure IMU where
  angularVelocity : Vector3
  attitude : Attitude

structure Odometry where
  pose : Pose2D
  twist : Twist2D ℝ

structure Chassis where
  wheelSpeeds : ControllableValue (WheelSpeeds ℝ)
  imu : IMU
  odometry : Odometry
  bodyTwist : Twist2D ℝ
  attitude : Attitude
  wheelMotorsEngaged : Bool

/-- What a robot reads off its hardware. -/
structure Hardware where
  readWheelSpeeds : Chassis → WheelSpeeds ℝ
  readImu : Chassis → IMU

namespace Chassis

noncomputable def axisX : ℝ := 0.1

noncomputable def axisY : ℝ := 0.1

noncomputable def wheelRadius : ℝ := 0.05

def setWheelSpeeds (speeds : WheelSpeeds ℝ) (c : Chassis) : Chassis :=
  { c with wheelSpeeds := c.wheelSpeeds.setTarget speeds }

noncomputable def setTargetVelocity (twist : Twist2D ℝ) (c : Chassis) : Chassis :=
  c.setWheelSpeeds (wheelSpeedsFromTwist twist (axisX + axisY) wheelRadius)

def stop (c : Chassis) : Chassis := c.setWheelSpeeds ⟨0, 0, 0, 0⟩

noncomputable def updateOdometry (timeStep : ℝ) (c : Chassis) : Chassis :=
  let bodyTwist := twistFromWheelSpeeds c.wheelSpeeds.current 0.2 0.05
  let twist := bodyTwist.rotateAroundZ c.odometry.pose.theta
  { c with bodyTwist, odometry := ⟨c.odometry.pose.advance twist timeStep, twist⟩ }

/-- The IMU has the last word on the heading. -/
def updateAttitude (timeStep : ℝ) (c : Chassis) : Chassis :=
  let yaw := c.attitude.yaw + timeStep * c.imu.angularVelocity.z
  { c with
    attitude := ⟨yaw, c.imu.attitude.pitch, c.imu.attitude.roll⟩
    odometry := ⟨{ c.odometry.pose with theta := yaw },
      { c.odometry.twist with theta := c.imu.angularVelocity.z }⟩ }

/-- `Robot::read_chassis`. -/
noncomputable def read (hw : Hardware) (timeStep : ℝ) (c : Chassis) : Chassis :=
  let c := { c with wheelSpeeds := { c.wheelSpeeds with current := hw.readWheelSpeeds c } }
  let c := c.updateOdometry timeStep
  let c := { c with imu := hw.readImu c }
  c.updateAttitude timeStep

/-- `Robot::control_chassis`. -/
noncomputable def control (c : Chassis) : Chassis :=
  if c.wheelMotorsEngaged then { c with wheelSpeeds := c.wheelSpeeds.check.2 } else c

end Chassis

inductive ActionState where
  | running
  | succeed
  | failed
  | started
  | undefined
  | rejected
deriving DecidableEq, Repr

def ActionState.done : ActionState → Bool
  | .failed => true
  | .succeed => true
  | _ => false

noncomputable def timeToGoal (goal : Pose2D) (linearSpeed angularSpeed : ℝ) : ℝ :=
  max (|normalize goal.theta| / angularSpeed) (goal.distance / linearSpeed)

structure MoveAction where
  goal : Pose2D
  goalOdom : Pose2D
  linearSpeed : ℝ
  angularSpeed : ℝ
  state : ActionState
  predictedDuration : ℝ
  remainingDuration : ℝ

namespace MoveAction

/-- The first step sets what is not known yet. -/
noncomputable def new (goal : Pose2D) (linearSpeed angularSpeed : ℝ) : MoveAction where
  goal := goal
  goalOdom := goal
  linearSpeed := linearSpeed
  angularSpeed := angularSpeed
  state := .undefined
  predictedDuration := timeToGoal goal linearSpeed angularSpeed
  remainingDuration := 0

/-- The twist towards a goal in the robot's frame. At the goal the source divides by zero and goes
on with `f = 1`, which makes no difference there. -/
noncomputable def steer (goal : Pose2D) (linearSpeed angularSpeed : ℝ) : Twist2D ℝ :=
  let f := min 1 (linearSpeed / (goal.distance / 0.5))
  ⟨f * goal.x / 0.5, f * goal.y / 0.5, clamp (goal.theta / 0.5) (-angularSpeed) angularSpeed⟩

noncomputable def start (c : Chassis) (a : MoveAction) : MoveAction :=
  if a.state = .started then
    { a with goalOdom := c.odometry.pose.compose a.goal, state := .running }
  else a

noncomputable def doStep (c : Chassis) (a : MoveAction) : MoveAction × Chassis :=
  let first := decide (a.state = .started)
  let a := a.start c
  if a.state = .running then
    let goal := a.goalOdom.relativeTo c.odometry.pose
    if goal.norm < 0.01 then
      ({ a with state := .succeed, remainingDuration := 0 }, c.setTargetVelocity ⟨0, 0, 0⟩)
    else
      let remaining := timeToGoal goal a.linearSpeed a.angularSpeed
      ({ a with
          remainingDuration := remaining
          predictedDuration := if first then remaining else a.predictedDuration },
        c.setTargetVelocity (steer goal a.linearSpeed a.angularSpeed))
  else (a, c)

end MoveAction

/-- The chassis of a robot, its action `move` and how the last one ended. -/
structure Robot where
  chassis : Chassis
  move : Option MoveAction
  previousMove : Option ActionState

namespace Robot

/-- A robot that is switched on. -/
def fresh : Robot where
  chassis :=
    { wheelSpeeds := ⟨⟨0, 0, 0, 0⟩, ⟨0, 0, 0, 0⟩, ⟨0, 0, 0, 0⟩, false⟩
      imu := ⟨⟨0, 0, 0⟩, ⟨0, 0, 0⟩⟩
      odometry := ⟨⟨0, 0, 0⟩, ⟨0, 0, 0⟩⟩
      bodyTwist := ⟨0, 0, 0⟩
      attitude := ⟨0, 0, 0⟩
      wheelMotorsEngaged := true }
  move := none
  previousMove := none

def submitAction (action : MoveAction) (r : Robot) : ActionState × Robot :=
  match r.move with
  | some _ => (.rejected, r)
  | none => (.started, { r with move := some { action with state := .started } })

noncomputable def moveBase (pose : Pose2D) (linearSpeed angularSpeed : ℝ) (r : Robot) :
    ActionState × Robot :=
  r.submitAction (.new pose linearSpeed angularSpeed)

def engageWheelMotors (value : Bool) (r : Robot) : Robot :=
  if value = r.chassis.wheelMotorsEngaged then r
  else
    let chassis := { r.chassis with wheelMotorsEngaged := value }
    { r with chassis := if value then chassis.stop else chassis }

noncomputable def doStep (hw : Hardware) (timeStep : ℝ) (r : Robot) : Robot :=
  let chassis := r.chassis.read hw timeStep
  match r.move with
  | none => { r with chassis := chassis.control }
  | some action =>
    let stepped := action.doStep chassis
    if stepped.1.state.done then ⟨stepped.2.control, none, some stepped.1.state⟩
    else { r with chassis := stepped.2.control, move := some stepped.1 }

end Robot

namespace DummyRobot

/-- The dummy's wheels turn at the speed they were sent, and its IMU believes them. -/
def hardware : Hardware where
  readWheelSpeeds c := c.wheelSpeeds.current
  readImu c := ⟨⟨0, 0, c.bodyTwist.theta⟩, ⟨0, 0, 0⟩⟩

noncomputable def doStep (timeStep : ℝ) (r : Robot) : Robot :=
  let wheelSpeeds := { r.chassis.wheelSpeeds with current := r.chassis.wheelSpeeds.target }
  Robot.doStep hardware timeStep { r with chassis := { r.chassis with wheelSpeeds } }

end DummyRobot

theorem normalize_eq (θ : ℝ) :
    normalize θ = θ - 2.0 * Real.pi * ⌊(θ + Real.pi) / (2.0 * Real.pi)⌋ := by
  have hpi : 0 < 2.0 * Real.pi := mul_pos (by norm_num) Real.pi_pos
  rw [normalize, fmod]
  generalize 2.0 * Real.pi = turn at hpi ⊢
  have hdiv : turn * ((θ + Real.pi) / turn) = θ + Real.pi := mul_div_cancel₀ _ hpi.ne'
  generalize (θ + Real.pi) / turn = q at hdiv ⊢
  by_cases hq : 0 ≤ q
  · have hfloor := mul_le_mul_of_nonneg_left (Int.floor_le q) hpi.le
    rw [if_pos hq, if_neg (by linarith)]
    ring
  · have hceil := mul_le_mul_of_nonneg_left (Int.le_ceil q) hpi.le
    rw [if_neg hq]
    obtain hlt | heq := hceil.lt_or_eq
    · have hne : (⌊q⌋ : ℝ) ≠ q := by
        intro h
        rw [← h, Int.ceil_intCast] at hlt
        exact hlt.false
      have hone : ⌈q⌉ = ⌊q⌋ + 1 := by
        apply Int.ceil_eq_iff.2
        push_cast
        exact ⟨by linarith [(Int.floor_le q).lt_of_ne hne], (Int.lt_floor_add_one q).le⟩
      rw [if_pos (by linarith), hone]
      push_cast
      ring
    · have hint : (⌈q⌉ : ℝ) = q := (mul_left_cancel₀ hpi.ne' heq).symm
      have hfloor : ⌊q⌋ = ⌈q⌉ := by
        rw [← hint, Int.floor_intCast, Int.ceil_intCast]
      rw [if_neg (by linarith), hfloor]
      ring

theorem abs_normalize_le (θ : ℝ) : |normalize θ| ≤ |θ| := by
  have hpi : 0 < 2.0 * Real.pi := mul_pos (by norm_num) Real.pi_pos
  have hdiv : 2.0 * Real.pi * ((θ + Real.pi) / (2.0 * Real.pi)) = θ + Real.pi :=
    mul_div_cancel₀ _ hpi.ne'
  rw [normalize_eq]
  generalize (θ + Real.pi) / (2.0 * Real.pi) = q at hdiv ⊢
  have hlow := mul_le_mul_of_nonneg_left (Int.floor_le q) hpi.le
  have hhigh := mul_lt_mul_of_pos_left (Int.lt_floor_add_one q) hpi
  have hhalf : |θ - 2.0 * Real.pi * ⌊q⌋| ≤ Real.pi :=
    abs_le.2 ⟨by linarith, by linarith⟩
  obtain hneg | hzero | hpos := lt_trichotomy ⌊q⌋ 0
  · have hcast : (⌊q⌋ : ℝ) + 1 ≤ 0 := by exact_mod_cast hneg
    have hfar := mul_nonpos_of_nonneg_of_nonpos hpi.le hcast
    exact hhalf.trans (le_abs.2 (.inr (by linarith)))
  · rw [hzero, Int.cast_zero, mul_zero, sub_zero]
  · have hcast : (1 : ℝ) ≤ ⌊q⌋ := by exact_mod_cast hpos
    have hfar := mul_le_mul_of_nonneg_left hcast hpi.le
    exact hhalf.trans (le_abs.2 (.inl (by linarith)))

namespace Chassis

theorem read_dummy (c : Chassis) (timeStep : ℝ)
    (hlevel : c.attitude.yaw = c.odometry.pose.theta) :
    (c.read DummyRobot.hardware timeStep).odometry.pose = c.odometry.pose.advance
      ((twistFromWheelSpeeds c.wheelSpeeds.current 0.2 0.05).rotateAroundZ c.odometry.pose.theta)
      timeStep := by
  simp only [read, updateOdometry, updateAttitude, DummyRobot.hardware, hlevel, Pose2D.advance,
    Twist2D.rotateAroundZ, mul_comm timeStep]

theorem twist_of_wheels (t : Twist2D ℝ) :
    twistFromWheelSpeeds (wheelSpeedsFromTwist t 0.2 0.05) 0.2 0.05 = t :=
  twistFromWheelSpeeds_wheelSpeedsFromTwist t (by norm_num) (by norm_num)

theorem setTargetVelocity_eq (twist : Twist2D ℝ) (c : Chassis) :
    c.setTargetVelocity twist = c.setWheelSpeeds (wheelSpeedsFromTwist twist 0.2 0.05) := by
  have haxes : axisX + axisY = 0.2 := by norm_num [axisX, axisY]
  rw [setTargetVelocity, haxes, wheelRadius]

theorem control_engaged {c : Chassis} (h : c.wheelMotorsEngaged = true) :
    ∃ w, c.control = { c with wheelSpeeds := w } ∧ w.target = c.wheelSpeeds.desired ∧
      w.desired = c.wheelSpeeds.desired := by
  rw [control, if_pos h]
  exact ⟨_, rfl, ControllableValue.check_target _, ControllableValue.check_desired _⟩

theorem control_setTargetVelocity (twist : Twist2D ℝ) {c : Chassis}
    (h : c.wheelMotorsEngaged = true) :
    ∃ w, (c.setTargetVelocity twist).control = { c with wheelSpeeds := w } ∧
      w.target = wheelSpeedsFromTwist twist 0.2 0.05 := by
  rw [setTargetVelocity_eq]
  obtain ⟨w, hcontrol, htarget, -⟩ := control_engaged (c := c.setWheelSpeeds
    (wheelSpeedsFromTwist twist 0.2 0.05)) h
  exact ⟨w, hcontrol, htarget⟩

end Chassis

end EscapeRoom.Sim
