import EscapeRoom.MoveAction

namespace EscapeRoom
set_option autoImplicit true

open Planar

namespace Sim

noncomputable def rad2deg (value : ℝ) : ℝ := 180.0 * value / Real.pi

/-- `from_robot`: the SDK's y-axis points to the right. -/
def Twist2D.fromRobot (twist : Twist2D ℝ) : Twist2D ℝ := ⟨twist.x, -twist.y, 0⟩

def Pose2D.fromRobot (pose : Pose2D) : Pose2D := ⟨pose.x, -pose.y, 0⟩

noncomputable def Attitude.fromRobot (attitude : Attitude) : Attitude where
  yaw := rad2deg (normalize (-attitude.yaw))
  pitch := rad2deg (normalize (-attitude.pitch))
  roll := rad2deg (normalize attitude.roll)

theorem heading_normalize (θ : ℝ) : heading (normalize θ) = heading θ := by
  apply heading_congr
  rw [normalize_eq, Real.Angle.angle_eq_iff_two_pi_dvd_sub]
  refine ⟨-⌊(θ + Real.pi) / (2.0 * Real.pi)⌋, ?_⟩
  have htwo : (2.0 : ℝ) = 2 := by norm_num
  rw [htwo]
  push_cast
  ring

theorem cos_normalize (θ : ℝ) : Real.cos (normalize θ) = Real.cos θ :=
  (heading_eq_iff.1 (heading_normalize θ)).1

theorem heading_neg_normalize (θ : ℝ) : heading (-normalize (-θ)) = heading θ := by
  obtain ⟨hcos, hsin⟩ := heading_eq_iff.1 (heading_normalize (-θ))
  apply heading_eq_iff.2
  rw [Real.cos_neg, Real.sin_neg, hcos, hsin, Real.cos_neg, Real.sin_neg, neg_neg]
  exact ⟨rfl, rfl⟩

end Sim

namespace Driver

/-- `chassis.py` computes in radians, the SDK in degrees. -/
noncomputable def deg (rad : ℝ) : ℝ := 180.0 / Real.pi * rad

noncomputable def rad (deg : ℝ) : ℝ := Real.pi / 180.0 * deg

theorem rad_rad2deg (value : ℝ) : rad (Sim.rad2deg value) = value := by
  have hpi := Real.pi_ne_zero
  rw [rad, Sim.rad2deg]
  field_simp

structure Quaternion where
  w : ℝ
  x : ℝ
  y : ℝ
  z : ℝ

noncomputable def quaternionFromEuler (roll pitch yaw : ℝ) : Quaternion :=
  let cy := Real.cos (yaw * 0.5)
  let sy := Real.sin (yaw * 0.5)
  let cp := Real.cos (pitch * 0.5)
  let sp := Real.sin (pitch * 0.5)
  let cr := Real.cos (roll * 0.5)
  let sr := Real.sin (roll * 0.5)
  { w := cr * cp * cy + sr * sp * sy
    x := sr * cp * cy - cr * sp * sy
    y := cr * sp * cy + sr * cp * sy
    z := cr * cp * sy - sr * sp * cy }

/-- The parameters of the module `Chassis` that its state estimation reads. -/
structure ChassisParams where
  forceLevel : Bool
  odomTwistInOdom : Bool
  odomTwistFromPoseDiff : Bool
  positionPeriod : ℝ

/-- The state estimation of the module `Chassis`: what it was told last, and what it publishes. -/
structure Chassis where
  params : ChassisParams
  odomPosition : ℝ × ℝ
  orientation : Quaternion
  velocity : ℝ × ℝ
  angularVelocity : Sim.Vector3
  position : Option (ℝ × ℝ)
  yaw : Option ℝ
  /-- The odometry messages, of which TF broadcasts the transform. -/
  published : List (Transform ℝ × (ℝ × ℝ) × Sim.Vector3)

/-- What the SDK's subscriptions report. -/
inductive Report where
  | position (x y z : ℝ)
  | velocity (vgx vgy vgz vbx vby vbz : ℝ)
  | attitude (yaw pitch roll : ℝ)
  | imu (gyroX gyroY gyroZ : ℝ)

namespace Chassis

/-- A driver that has heard nothing. -/
noncomputable def new (params : ChassisParams) : Chassis where
  params := params
  odomPosition := (0, 0)
  orientation := ⟨1, 0, 0, 0⟩
  velocity := (0, 0)
  angularVelocity := ⟨0, 0, 0⟩
  position := none
  yaw := none
  published := []

def publishStateEstimation (d : Chassis) : Chassis :=
  let transform : Transform ℝ := ⟨d.odomPosition.1, d.odomPosition.2, d.orientation.x,
    d.orientation.y, d.orientation.z, d.orientation.w⟩
  { d with published := d.published ++ [(transform, d.velocity, d.angularVelocity)] }

/-- The twist in the frame of the robot, as far as its yaw is known. -/
noncomputable def turn (d : Chassis) (vx vy : ℝ) : ℝ × ℝ :=
  match d.yaw with
  | none => d.velocity
  | some yaw => (Real.cos yaw * vx + Real.sin yaw * vy, Real.cos yaw * vy - Real.sin yaw * vx)

/-- The finite difference of the position. -/
noncomputable def poseDiff (d : Chassis) (x y : ℝ) : ℝ × ℝ :=
  match d.position with
  | none => (0, 0)
  | some last =>
    ((x - last.1) / d.params.positionPeriod, (y - last.2) / d.params.positionPeriod)

/-- Exactly the same position is a repetition. -/
noncomputable def updatedPosition (d : Chassis) (x y : ℝ) : Chassis :=
  let v := d.poseDiff x y
  let d := { d with odomPosition := (x, y) }
  if d.params.odomTwistFromPoseDiff then
    let d := { d with position := some (x, y) }
    if v.1 = 0 ∧ v.2 = 0 then d
    else
      let velocity := if d.params.odomTwistInOdom then v else d.turn v.1 v.2
      publishStateEstimation { d with velocity }
  else publishStateEstimation d

noncomputable def updated (d : Chassis) : Report → Chassis
  | .position x y _ => d.updatedPosition x (-y)
  | .velocity vgx vgy _ vbx vby _ =>
    if d.params.odomTwistFromPoseDiff then d
    else { d with velocity := if d.params.odomTwistInOdom then (vgx, -vgy) else (vbx, -vby) }
  | .attitude yaw pitch roll =>
    let yaw := -rad yaw
    let pitch := if d.params.forceLevel then 0 else -rad pitch
    let roll := if d.params.forceLevel then 0 else rad roll
    { d with yaw := some yaw, orientation := quaternionFromEuler roll pitch yaw }
  | .imu gyroX gyroY gyroZ => { d with angularVelocity := ⟨gyroX, -gyroY, -gyroZ⟩ }

end Chassis

/-- The subjects of the simulator that the driver subscribes to. -/
inductive Subject where
  | position
  | velocity
  | attitude
  | imu
deriving DecidableEq

/-- What a subject's `update` takes from the robot. -/
noncomputable def Subject.update (c : Sim.Chassis) : Subject → Report
  | .position =>
    let pose := c.odometry.pose.fromRobot
    .position pose.x pose.y pose.theta
  | .velocity =>
    let odom := c.odometry.twist.fromRobot
    let body := c.bodyTwist.fromRobot
    .velocity odom.x odom.y odom.theta body.x body.y body.theta
  | .attitude =>
    let attitude := c.attitude.fromRobot
    .attitude attitude.yaw attitude.pitch attitude.roll
  | .imu => .imu c.imu.angularVelocity.x (-c.imu.angularVelocity.y) (-c.imu.angularVelocity.z)

/-- The calls that move the base. -/
inductive DriveCall where
  | driveSpeed (x y z : ℝ) (timeout : Option ℝ)
  | driveWheels (w1 w2 w3 w4 : Int) (timeout : Option ℝ)

namespace DriveCall

def timeout : DriveCall → Option ℝ
  | .driveSpeed _ _ _ timeout => timeout
  | .driveWheels _ _ _ _ timeout => timeout

/-- The request as the robot reads it. -/
def request : DriveCall → Sim.Request
  | .driveSpeed x y z _ => .chassisSpeedMode x y z
  | .driveWheels w1 w2 w3 w4 _ => .setWheelSpeed w1 w2 w3 w4

/-- What the SDK takes as it is. -/
def InRange : DriveCall → Prop
  | .driveSpeed x y z _ => |x| ≤ 3.5 ∧ |y| ≤ 3.5 ∧ |z| ≤ 600
  | .driveWheels w1 w2 w3 w4 _ => |w1| ≤ 1000 ∧ |w2| ≤ 1000 ∧ |w3| ≤ 1000 ∧ |w4| ≤ 1000

end DriveCall

/-- A request to the robot, some seconds after the call that it comes from. -/
structure Sent where
  delay : ℝ
  request : Sim.Request

/-- The SDK between the driver and the robot: what a callback is told of a push, and which requests
it makes of a call, in their order, as long as no other call comes. -/
structure Sdk where
  report : Report → Report
  drive : DriveCall → List Sent

/-- It hands on what it is given, calls within their range; it adds to a call only what is to come
after the timeout. -/
structure Sdk.Direct (sdk : Sdk) : Prop where
  report : ∀ m, sdk.report m = m
  drive : ∀ call : DriveCall, call.InRange → ∃ later, sdk.drive call = ⟨0, call.request⟩ :: later ∧
    ∀ s ∈ later, ∃ timeout, call.timeout = some timeout ∧ timeout ≤ s.delay

/-- An SDK that clips what is out of range, and stops the robot at the timeout. -/
noncomputable def Sdk.clipping : Sdk where
  report m := m
  drive
    | .driveSpeed x y z timeout =>
      ⟨0, .chassisSpeedMode (clamp x (-3.5) 3.5) (clamp y (-3.5) 3.5) (clamp z (-600) 600)⟩ ::
        timeout.toList.map fun delay => ⟨delay, .chassisSpeedMode 0 0 0⟩
    | .driveWheels w1 w2 w3 w4 timeout =>
      ⟨0, .setWheelSpeed (clamp w1 (-1000) 1000) (clamp w2 (-1000) 1000) (clamp w3 (-1000) 1000)
        (clamp w4 (-1000) 1000)⟩ ::
        timeout.toList.map fun delay => ⟨delay, .setWheelSpeed 0 0 0 0⟩

theorem clamp_of_abs_le {R : Type} [AddCommGroup R] [LinearOrder R] [IsOrderedAddMonoid R]
    {x m : R} (h : |x| ≤ m) : clamp x (-m) m = x := by
  obtain ⟨hlow, hhigh⟩ := abs_le.1 h
  rw [clamp, min_eq_right hhigh, max_eq_right hlow]

theorem Sdk.clipping_direct : Sdk.clipping.Direct where
  report _ := rfl
  drive call h := by
    cases call with
    | driveSpeed x y z timeout =>
      obtain ⟨hx, hy, hz⟩ := h
      refine ⟨timeout.toList.map fun delay => ⟨delay, .chassisSpeedMode 0 0 0⟩, ?_, ?_⟩
      · simp only [clipping, clamp_of_abs_le hx, clamp_of_abs_le hy, clamp_of_abs_le hz,
          DriveCall.request]
      · intro s hs
        obtain ⟨delay, hdelay, rfl⟩ := List.mem_map.1 hs
        exact ⟨delay, Option.mem_toList.1 hdelay, le_rfl⟩
    | driveWheels w1 w2 w3 w4 timeout =>
      obtain ⟨h1, h2, h3, h4⟩ := h
      refine ⟨timeout.toList.map fun delay => ⟨delay, .setWheelSpeed 0 0 0 0⟩, ?_, ?_⟩
      · simp only [clipping, clamp_of_abs_le h1, clamp_of_abs_le h2, clamp_of_abs_le h3,
          clamp_of_abs_le h4, DriveCall.request]
      · intro s hs
        obtain ⟨delay, hdelay, rfl⟩ := List.mem_map.1 hs
        exact ⟨delay, Option.mem_toList.1 hdelay, le_rfl⟩

/-- The driver's callbacks, one for each push of the simulator. -/
noncomputable def Chassis.listen (sdk : Sdk) (d : Chassis)
    (pushes : List (Subject × Sim.Chassis)) : Chassis :=
  pushes.foldl (fun d push => d.updated (sdk.report (push.1.update push.2))) d

/-- The robot as a subject pushed it last. -/
def lastHeard (subject : Subject) (pushes : List (Subject × Sim.Chassis)) : Option Sim.Chassis :=
  (pushes.filter fun push => push.1 = subject).getLast?.map (·.2)

section lastHeard

variable {subject : Subject} {push : Subject × Sim.Chassis} {pushes : List (Subject × Sim.Chassis)}

theorem lastHeard_concat_same (c : Sim.Chassis) :
    lastHeard subject (pushes ++ [(subject, c)]) = some c := by
  simp [lastHeard]

theorem lastHeard_concat_ne (h : push.1 ≠ subject) :
    lastHeard subject (pushes ++ [push]) = lastHeard subject pushes := by
  simp [lastHeard, h]

end lastHeard

section quaternion

variable (roll pitch yaw : ℝ)

theorem cos_half (a : ℝ) : Real.cos a = Real.cos (a * 0.5) ^ 2 - Real.sin (a * 0.5) ^ 2 := by
  have h := Real.cos_two_mul' (a * 0.5)
  have htwice : 2 * (a * 0.5) = a := by
    rw [mul_left_comm]
    norm_num
  rwa [htwice] at h

theorem sin_half (a : ℝ) : Real.sin a = 2 * Real.sin (a * 0.5) * Real.cos (a * 0.5) := by
  have h := Real.sin_two_mul (a * 0.5)
  have htwice : 2 * (a * 0.5) = a := by
    rw [mul_left_comm]
    norm_num
  rwa [htwice] at h

theorem quaternion_sin_yaw : 2.0 * ((quaternionFromEuler roll pitch yaw).w *
      (quaternionFromEuler roll pitch yaw).z + (quaternionFromEuler roll pitch yaw).x *
      (quaternionFromEuler roll pitch yaw).y) = Real.cos pitch * Real.sin yaw := by
  have htwo : (2.0 : ℝ) = 2 := by norm_num
  have hroll := Real.cos_sq_add_sin_sq (roll * 0.5)
  rw [cos_half pitch, sin_half yaw, quaternionFromEuler, htwo]
  linear_combination 2 * Real.sin (yaw * 0.5) * Real.cos (yaw * 0.5) *
    (Real.cos (pitch * 0.5) ^ 2 - Real.sin (pitch * 0.5) ^ 2) * hroll

theorem quaternion_cos_yaw : 1.0 - 2.0 * ((quaternionFromEuler roll pitch yaw).y ^ 2 +
      (quaternionFromEuler roll pitch yaw).z ^ 2) = Real.cos pitch * Real.cos yaw := by
  have hone : (1.0 : ℝ) = 1 := by norm_num
  have htwo : (2.0 : ℝ) = 2 := by norm_num
  have hroll := Real.cos_sq_add_sin_sq (roll * 0.5)
  have hpitch := Real.cos_sq_add_sin_sq (pitch * 0.5)
  have hyaw := Real.cos_sq_add_sin_sq (yaw * 0.5)
  rw [cos_half pitch, cos_half yaw, quaternionFromEuler, hone, htwo]
  generalize Real.cos (roll * 0.5) = cr at *
  generalize Real.sin (roll * 0.5) = sr at *
  generalize Real.cos (pitch * 0.5) = cp at *
  generalize Real.sin (pitch * 0.5) = sp at *
  generalize Real.cos (yaw * 0.5) = cy at *
  generalize Real.sin (yaw * 0.5) = sy at *
  linear_combination (-2 * (sp ^ 2 * cy ^ 2 + cp ^ 2 * sy ^ 2)) * hroll -
    (cy ^ 2 + sy ^ 2) * hpitch - hyaw

end quaternion

/-- The explorer reads the yaw back off the quaternion, whatever the roll, unless the robot stands
on its nose. -/
theorem getRobotPose_quaternion {pitch : ℝ} (h : 0 < Real.cos pitch) (roll yaw x y : ℝ) :
    getRobotPose (some ⟨x, y, (quaternionFromEuler roll pitch yaw).x,
        (quaternionFromEuler roll pitch yaw).y, (quaternionFromEuler roll pitch yaw).z,
        (quaternionFromEuler roll pitch yaw).w⟩) = some (x, y, (heading yaw).arg) := by
  have hscaled : (⟨Real.cos pitch * Real.cos yaw, Real.cos pitch * Real.sin yaw⟩ : ℂ) =
      (Real.cos pitch : ℂ) * heading yaw := by
    apply Complex.ext
    · rw [Complex.re_ofReal_mul, heading]
    · rw [Complex.im_ofReal_mul, heading]
  have hyaw : PyMath.atan2 (Real.cos pitch * Real.sin yaw) (Real.cos pitch * Real.cos yaw) =
      (heading yaw).arg := by
    rw [← Complex.arg_real_mul (heading yaw) h, ← hscaled]
    rfl
  simp only [getRobotPose, Option.map_some, quaternion_sin_yaw, quaternion_cos_yaw, hyaw]

/-- The driver's estimate follows what it heard last on each subject. -/
structure Chassis.Tracks (params : ChassisParams) (pushes : List (Subject × Sim.Chassis))
    (d : Chassis) : Prop where
  configured : d.params = params
  position : params.odomTwistFromPoseDiff = true → d.position =
    (lastHeard .position pushes).map fun c => (c.odometry.pose.x, c.odometry.pose.y)
  attitude : ∀ c, lastHeard .attitude pushes = some c →
    ∃ roll pitch yaw, d.yaw = some yaw ∧ d.orientation = quaternionFromEuler roll pitch yaw ∧
      (0 < Real.cos c.attitude.pitch → 0 < Real.cos pitch) ∧ heading yaw = heading c.attitude.yaw
  velocity : params.odomTwistFromPoseDiff = false → ∀ c, lastHeard .velocity pushes = some c →
    d.velocity = if params.odomTwistInOdom then (c.odometry.twist.x, c.odometry.twist.y)
      else (c.bodyTwist.x, c.bodyTwist.y)
  angularVelocity : ∀ c, lastHeard .imu pushes = some c →
    d.angularVelocity = c.imu.angularVelocity

variable {sdk : Sdk} {d : Chassis} {params : ChassisParams} {c : Sim.Chassis}
  {pushes : List (Subject × Sim.Chassis)}

theorem Chassis.tracks_new (params : ChassisParams) : (new params).Tracks params [] where
  configured := rfl
  position _ := rfl
  attitude c h := by cases h
  velocity _ c h := by cases h
  angularVelocity c h := by cases h

theorem Chassis.listen_concat (push : Subject × Sim.Chassis) :
    d.listen sdk (pushes ++ [push]) = (d.listen sdk pushes).updated
      (sdk.report (push.1.update push.2)) := by
  rw [listen, List.foldl_append]
  rfl

theorem Chassis.update_position : d.updated (Subject.position.update c) =
    d.updatedPosition c.odometry.pose.x c.odometry.pose.y := by
  rw [Subject.update, updated, Sim.Pose2D.fromRobot, neg_neg]

theorem Chassis.updatedPosition_keeps (d : Chassis) (x y : ℝ) :
    (d.updatedPosition x y).params = d.params ∧ (d.updatedPosition x y).yaw = d.yaw ∧
      (d.updatedPosition x y).orientation = d.orientation ∧
      (d.updatedPosition x y).angularVelocity = d.angularVelocity := by
  rw [updatedPosition]
  dsimp only
  split
  · split
    · exact ⟨rfl, rfl, rfl, rfl⟩
    · exact ⟨rfl, rfl, rfl, rfl⟩
  · exact ⟨rfl, rfl, rfl, rfl⟩

theorem Chassis.Tracks.positionHeard (h : d.Tracks params pushes) :
    (d.updated (Subject.position.update c)).Tracks params (pushes ++ [(.position, c)]) := by
  rw [update_position]
  obtain ⟨hparams, hyaw, horientation, hangular⟩ :=
    d.updatedPosition_keeps c.odometry.pose.x c.odometry.pose.y
  constructor
  · rw [hparams, h.configured]
  · intro hdiff
    rw [lastHeard_concat_same, updatedPosition]
    dsimp only
    rw [h.configured, if_pos hdiff]
    split
    · rfl
    · rfl
  · rw [lastHeard_concat_ne (by simp), hyaw, horientation]
    exact h.attitude
  · intro hdiff
    rw [lastHeard_concat_ne (by simp), updatedPosition]
    dsimp only
    rw [h.configured, if_neg (by rw [hdiff]; exact Bool.false_ne_true)]
    exact h.velocity hdiff
  · rw [lastHeard_concat_ne (by simp), hangular]
    exact h.angularVelocity

theorem Chassis.Tracks.velocityHeard (h : d.Tracks params pushes) :
    (d.updated (Subject.velocity.update c)).Tracks params (pushes ++ [(.velocity, c)]) := by
  rw [updated.eq_def, Subject.update]
  dsimp only
  rw [h.configured]
  split
  · rename_i hdiff
    constructor
    · exact h.configured
    · rw [lastHeard_concat_ne (by simp)]
      exact h.position
    · rw [lastHeard_concat_ne (by simp)]
      exact h.attitude
    · intro hoff
      rw [hdiff] at hoff
      cases hoff
    · rw [lastHeard_concat_ne (by simp)]
      exact h.angularVelocity
  · constructor
    · rfl
    · rw [lastHeard_concat_ne (by simp)]
      exact h.position
    · rw [lastHeard_concat_ne (by simp)]
      exact h.attitude
    · rw [lastHeard_concat_same]
      intro _ _ hlast
      cases hlast
      simp only [Sim.Twist2D.fromRobot, neg_neg]
    · rw [lastHeard_concat_ne (by simp)]
      exact h.angularVelocity

theorem Chassis.Tracks.attitudeHeard (h : d.Tracks params pushes) :
    (d.updated (Subject.attitude.update c)).Tracks params (pushes ++ [(.attitude, c)]) := by
  constructor
  · exact h.configured
  · rw [lastHeard_concat_ne (by simp)]
    exact h.position
  · rw [lastHeard_concat_same]
    intro _ hlast
    cases hlast
    refine ⟨_, _, _, rfl, rfl, ?_, ?_⟩
    · intro hup
      split
      · rw [Real.cos_zero]
        exact one_pos
      · rwa [Sim.Attitude.fromRobot, rad_rad2deg, Real.cos_neg, Sim.cos_normalize, Real.cos_neg]
    · rw [Sim.Attitude.fromRobot, rad_rad2deg, Sim.heading_neg_normalize]
  · rw [lastHeard_concat_ne (by simp)]
    exact h.velocity
  · rw [lastHeard_concat_ne (by simp)]
    exact h.angularVelocity

theorem Chassis.Tracks.imuHeard (h : d.Tracks params pushes) :
    (d.updated (Subject.imu.update c)).Tracks params (pushes ++ [(.imu, c)]) := by
  constructor
  · exact h.configured
  · rw [lastHeard_concat_ne (by simp)]
    exact h.position
  · rw [lastHeard_concat_ne (by simp)]
    exact h.attitude
  · rw [lastHeard_concat_ne (by simp)]
    exact h.velocity
  · rw [lastHeard_concat_same]
    intro _ hlast
    cases hlast
    simp only [Chassis.updated, Subject.update, neg_neg]

theorem Chassis.tracks_listen (hsdk : sdk.Direct) (params : ChassisParams)
    (pushes : List (Subject × Sim.Chassis)) : ((new params).listen sdk pushes).Tracks params
      pushes := by
  induction pushes using List.reverseRecOn with
  | nil => exact tracks_new params
  | append_singleton pushes push ih =>
    obtain ⟨subject, c⟩ := push
    rw [listen_concat, hsdk.report]
    cases subject with
    | position => exact ih.positionHeard
    | velocity => exact ih.velocityHeard
    | attitude => exact ih.attitudeHeard
    | imu => exact ih.imuHeard

/-- A position that was the last one already, or is the first. -/
def Repeats (pushes : List (Subject × Sim.Chassis)) (c : Sim.Chassis) : Prop :=
  ∀ p, lastHeard .position pushes = some p → p.odometry.pose.spot = c.odometry.pose.spot

/-- The velocity that goes with a position: the one heard last, or the one that the last two
positions make, in the frame of the robot as seen from the yaw heard last. -/
def VelocityHeard (params : ChassisParams) (pushes : List (Subject × Sim.Chassis))
    (c : Sim.Chassis) (velocity : ℝ × ℝ) : Prop :=
  if params.odomTwistFromPoseDiff then
    ∀ p, lastHeard .position pushes = some p →
      let v := (c.odometry.pose.spot - p.odometry.pose.spot) / params.positionPeriod
      if params.odomTwistInOdom then (⟨velocity.1, velocity.2⟩ : ℂ) = v
      else ∀ b, lastHeard .attitude pushes = some b →
        (⟨velocity.1, velocity.2⟩ : ℂ) = heading (-b.attitude.yaw) * v
  else ∀ v, lastHeard .velocity pushes = some v → velocity =
    if params.odomTwistInOdom then (v.odometry.twist.x, v.odometry.twist.y)
    else (v.bodyTwist.x, v.bodyTwist.y)

/-- The finite difference vanishes for just the repetitions. -/
theorem Chassis.Tracks.poseDiff_eq_zero (h : d.Tracks params pushes)
    (hdiff : params.odomTwistFromPoseDiff = true) (hperiod : 0 < params.positionPeriod) :
    ((d.poseDiff c.odometry.pose.x c.odometry.pose.y).1 = 0 ∧
      (d.poseDiff c.odometry.pose.x c.odometry.pose.y).2 = 0) ↔ Repeats pushes c := by
  rw [poseDiff, h.position hdiff, h.configured, Repeats]
  cases hlast : lastHeard .position pushes with
  | none => simp
  | some p =>
    simp only [Option.map_some, div_eq_zero_iff, hperiod.ne', or_false, sub_eq_zero,
      Option.some.injEq, forall_eq', Complex.ext_iff, Sim.Pose2D.spot]
    rw [eq_comm, @eq_comm _ c.odometry.pose.y]

theorem Chassis.Tracks.velocity_poseDiff (h : d.Tracks params pushes)
    (hdiff : params.odomTwistFromPoseDiff = true) :
    VelocityHeard params pushes c
      (if params.odomTwistInOdom then d.poseDiff c.odometry.pose.x c.odometry.pose.y
      else d.turn (d.poseDiff c.odometry.pose.x c.odometry.pose.y).1
        (d.poseDiff c.odometry.pose.x c.odometry.pose.y).2) := by
  rw [VelocityHeard, if_pos hdiff]
  intro p hp
  rw [poseDiff, h.position hdiff, hp, h.configured]
  dsimp only [Option.map_some]
  split
  · apply Complex.ext
    · rw [Complex.div_ofReal_re]
      rfl
    · rw [Complex.div_ofReal_im]
      rfl
  · intro b hb
    obtain ⟨_, _, yaw, hyaw, _, _, hheading⟩ := h.attitude b hb
    obtain ⟨hcos, hsin⟩ := heading_eq_iff.1 hheading
    rw [turn, hyaw]
    apply Complex.ext
    · simp only [heading, Sim.Pose2D.spot, Complex.mul_re, Complex.div_ofReal_re,
        Complex.div_ofReal_im, Complex.sub_re, Complex.sub_im, Real.cos_neg, Real.sin_neg, hcos,
        hsin]
      ring
    · simp only [heading, Sim.Pose2D.spot, Complex.mul_im, Complex.div_ofReal_re,
        Complex.div_ofReal_im, Complex.sub_re, Complex.sub_im, Real.cos_neg, Real.sin_neg, hcos,
        hsin]
      ring

/-- The broadcast transform has the simulated pose, once the attitude has been heard. -/
theorem Chassis.Tracks.pose (h : d.Tracks params pushes) {b : Sim.Chassis}
    (hb : lastHeard .attitude pushes = some b) (hup : 0 < Real.cos b.attitude.pitch) (x y : ℝ) :
    getRobotPose (some ⟨x, y, d.orientation.x, d.orientation.y, d.orientation.z,
      d.orientation.w⟩) = some (x, y, (heading b.attitude.yaw).arg) := by
  obtain ⟨roll, pitch, yaw, _, hquat, hpitch, hheading⟩ := h.attitude b hb
  rw [hquat, getRobotPose_quaternion (hpitch hup), hheading]

/-- Whatever came before, a position that arrives is broadcast with the attitude heard last, and
the explorer reads the simulated pose off it; only a repetition is not broadcast where the driver
makes the velocity of the positions. -/
theorem tf_tracks (hsdk : sdk.Direct) (params : ChassisParams) (hperiod : 0 < params.positionPeriod)
    (pushes : List (Subject × Sim.Chassis)) (c : Sim.Chassis) :
    let before := ((Chassis.new params).listen sdk pushes).published
    let after := ((Chassis.new params).listen sdk (pushes ++ [(.position, c)])).published
    (params.odomTwistFromPoseDiff = true ∧ Repeats pushes c → after = before) ∧
    (¬ (params.odomTwistFromPoseDiff = true ∧ Repeats pushes c) →
      ∃ tf velocity angularVelocity, after = before ++ [(tf, velocity, angularVelocity)] ∧
        (∀ b, lastHeard .attitude pushes = some b → 0 < Real.cos b.attitude.pitch →
          getRobotPose (some tf) =
            some (c.odometry.pose.x, c.odometry.pose.y, (heading b.attitude.yaw).arg)) ∧
        VelocityHeard params pushes c velocity ∧
        ∀ i, lastHeard .imu pushes = some i → angularVelocity = i.imu.angularVelocity) := by
  have htracks := Chassis.tracks_listen hsdk params pushes
  dsimp only
  rw [Chassis.listen_concat, hsdk.report, Chassis.update_position, Chassis.updatedPosition]
  dsimp only
  rw [htracks.configured]
  cases hdiff : params.odomTwistFromPoseDiff with
  | false =>
    refine ⟨fun h => absurd h.1 Bool.false_ne_true, fun _ => ?_⟩
    refine ⟨_, _, _, rfl, fun b hb hup => htracks.pose hb hup _ _, ?_, htracks.angularVelocity⟩
    rw [VelocityHeard, if_neg (by rw [hdiff]; exact Bool.false_ne_true)]
    exact htracks.velocity hdiff
  | true =>
    rw [if_pos rfl]
    have hzero := htracks.poseDiff_eq_zero (c := c) hdiff hperiod
    constructor
    · rintro ⟨-, hrepeats⟩
      rw [if_pos (hzero.2 hrepeats)]
    · intro hmoved
      rw [if_neg fun h => hmoved ⟨rfl, hzero.1 h⟩]
      exact ⟨_, _, _, rfl, fun b hb hup => htracks.pose hb hup _ _,
        htracks.velocity_poseDiff hdiff, htracks.angularVelocity⟩

/-- The simulated robot on a slope. -/
noncomputable def leaning : Sim.Chassis :=
  { Sim.Robot.fresh.chassis with attitude := ⟨1, 0.5, 0.25⟩ }

/-- The same, a metre on. -/
noncomputable def leaningAhead : Sim.Chassis :=
  { leaning with odometry := ⟨⟨1, 0, 1⟩, ⟨0, 0, 0⟩⟩ }

theorem tf_tracks_leaning :
    let published := fun pushes =>
      ((Chassis.new ⟨false, false, true, 0.1⟩).listen Sdk.clipping pushes).published
    published ([(.attitude, leaning)] ++ [(.position, leaning)]) =
        published [(.attitude, leaning)] ∧
      ∃ tf velocity angularVelocity,
        published ([(.attitude, leaning), (.position, leaning)] ++ [(.position, leaningAhead)]) =
          published [(.attitude, leaning), (.position, leaning)] ++
            [(tf, velocity, angularVelocity)] ∧
        getRobotPose (some tf) = some (1, 0, (heading 1).arg) := by
  have hup : 0 < Real.cos leaning.attitude.pitch := by
    apply Real.cos_pos_of_le_one
    norm_num [leaning, abs_le]
  have hperiod : (0 : ℝ) < 0.1 := by norm_num
  refine ⟨(tf_tracks Sdk.clipping_direct ⟨false, false, true, 0.1⟩ hperiod _ leaning).1
    ⟨rfl, fun p hp => by cases hp⟩, ?_⟩
  obtain ⟨tf, velocity, angularVelocity, hpublished, hpose, -⟩ :=
    (tf_tracks Sdk.clipping_direct ⟨false, false, true, 0.1⟩ hperiod
      [(.attitude, leaning), (.position, leaning)] leaningAhead).2 fun h =>
        absurd (congrArg Complex.re (h.2 leaning rfl)) zero_ne_one
  exact ⟨tf, velocity, angularVelocity, hpublished, hpose leaning rfl hup⟩

end Driver

end EscapeRoom
