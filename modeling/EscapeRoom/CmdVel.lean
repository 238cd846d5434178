import Mathlib.Analysis.Real.Pi.Bounds
import EscapeRoom.AlignLoop
import EscapeRoom.Driver

namespace EscapeRoom
set_option autoImplicit true

open Planar

theorem norm_heading_sub_le (θ φ : ℝ) : ‖heading (θ + φ) - heading θ‖ ≤ |φ| := by
  have hexp : heading φ = Complex.exp (Complex.I * φ) := by
    rw [mul_comm, Complex.exp_mul_I, heading_eq]
  have hturn : heading (θ + φ) - heading θ = heading θ * (heading φ - 1) := by
    rw [← heading_mul]
    ring
  rw [hturn, norm_mul, norm_heading, one_mul, hexp, ← Real.norm_eq_abs]
  exact Real.norm_exp_I_mul_ofReal_sub_one_le

namespace Sim.Robot

variable {r : Robot} {t : Twist2D ℝ}

/-- The robot rolls freely, under one command. -/
structure Cruising (t : Twist2D ℝ) (r : Robot) : Prop extends Rolls r where
  idle : r.move = none
  target : twistFromWheelSpeeds r.chassis.wheelSpeeds.target 0.2 0.05 = t
  desired : twistFromWheelSpeeds r.chassis.wheelSpeeds.desired 0.2 0.05 = t

theorem doStep_idle (h : r.Rolls) (hi : r.move = none) (timeStep : ℝ) :
    (DummyRobot.doStep timeStep r).Cruising
        (twistFromWheelSpeeds r.chassis.wheelSpeeds.desired 0.2 0.05) ∧
      (DummyRobot.doStep timeStep r).pose = r.pose.advance
        ((twistFromWheelSpeeds r.chassis.wheelSpeeds.target 0.2 0.05).rotateAroundZ r.pose.theta)
        timeStep := by
  let c : Chassis := { r.chassis with
    wheelSpeeds := { r.chassis.wheelSpeeds with current := r.chassis.wheelSpeeds.target } }
  have hstep : DummyRobot.doStep timeStep r =
      { r with chassis := (c.read DummyRobot.hardware timeStep).control } := by
    rw [DummyRobot.doStep, doStep]
    dsimp only
    rw [hi]
  obtain ⟨w, hcontrol, htarget, hdesired⟩ := Chassis.control_engaged
    (c := c.read DummyRobot.hardware timeStep) h.engaged
  rw [hstep, hcontrol]
  refine ⟨⟨⟨h.engaged, rfl⟩, hi, ?_, ?_⟩, c.read_dummy timeStep h.level⟩
  · rw [htarget]
    rfl
  · rw [hdesired]
    rfl

theorem Cruising.step (h : r.Cruising t) (timeStep : ℝ) :
    (DummyRobot.doStep timeStep r).Cruising t ∧
      (DummyRobot.doStep timeStep r).pose =
        r.pose.advance (t.rotateAroundZ r.pose.theta) timeStep := by
  have hstep := doStep_idle h.toRolls h.idle timeStep
  rwa [h.desired, h.target] at hstep

noncomputable def roll (timeSteps : List ℝ) (r : Robot) : Robot :=
  timeSteps.foldl (fun r timeStep => DummyRobot.doStep timeStep r) r

theorem roll_concat (timeSteps : List ℝ) (timeStep : ℝ) (r : Robot) :
    r.roll (timeSteps ++ [timeStep]) = DummyRobot.doStep timeStep (r.roll timeSteps) := by
  rw [roll, List.foldl_append]
  rfl

/-- However the time is cut into steps, the robot turns evenly, and leaves the straight line it set
out on by no more than the turn bends it. -/
theorem Cruising.roll (h : r.Cruising t) {timeSteps : List ℝ} (hpos : ∀ dt ∈ timeSteps, 0 ≤ dt) :
    (r.roll timeSteps).Cruising t ∧
      (r.roll timeSteps).pose.theta = r.pose.theta + t.theta * timeSteps.sum ∧
      ‖(r.roll timeSteps).pose.spot -
          (r.pose.spot + timeSteps.sum * (heading r.pose.theta * t.planar))‖ ≤
        ‖t.planar‖ * |t.theta| * timeSteps.sum ^ 2 / 2 := by
  induction timeSteps using List.reverseRecOn with
  | nil => exact ⟨h, by simp [Robot.roll], by simp [Robot.roll]⟩
  | append_singleton timeSteps dt ih =>
    rw [List.forall_mem_append, List.forall_mem_singleton] at hpos
    obtain ⟨hcruise, htheta, hspot⟩ := ih hpos.1
    obtain ⟨hnext, hpose⟩ := hcruise.step dt
    have hsum : 0 ≤ timeSteps.sum := List.sum_nonneg hpos.1
    rw [roll_concat, List.sum_append, List.sum_singleton]
    generalize timeSteps.sum = s at *
    refine ⟨hnext, ?_, ?_⟩
    · rw [hpose, Pose2D.advance, htheta, Twist2D.rotateAroundZ]
      ring
    · have hbend := norm_heading_sub_le r.pose.theta (t.theta * s)
      have hmove : (DummyRobot.doStep dt (r.roll timeSteps)).pose.spot -
            (r.pose.spot + ((s + dt : ℝ) : ℂ) * (heading r.pose.theta * t.planar)) =
          ((r.roll timeSteps).pose.spot - (r.pose.spot + s * (heading r.pose.theta * t.planar))) +
            dt * ((heading (r.pose.theta + t.theta * s) - heading r.pose.theta) * t.planar) := by
        rw [hpose, Pose2D.spot_advance, Twist2D.planar_rotateAroundZ, htheta]
        push_cast
        ring
      have hlast : ‖(dt : ℂ) * ((heading (r.pose.theta + t.theta * s) - heading r.pose.theta) *
          t.planar)‖ ≤ dt * (|t.theta| * s * ‖t.planar‖) := by
        rw [norm_mul, norm_mul, Complex.norm_of_nonneg hpos.2]
        rw [abs_mul, abs_of_nonneg hsum] at hbend
        exact mul_le_mul_of_nonneg_left (mul_le_mul_of_nonneg_right hbend (norm_nonneg _)) hpos.2
      have hsquare : 0 ≤ ‖t.planar‖ * |t.theta| * dt ^ 2 := by positivity
      rw [hmove]
      calc _ ≤ ‖t.planar‖ * |t.theta| * s ^ 2 / 2 + dt * (|t.theta| * s * ‖t.planar‖) :=
            (norm_add_le _ _).trans (add_le_add hspot hlast)
        _ ≤ ‖t.planar‖ * |t.theta| * (s + dt) ^ 2 / 2 := by linarith

/-- The same from when the wheels are asked on: the first step does not know of it yet. -/
theorem roll_late (h : r.Rolls) (hi : r.move = none) (speeds : WheelSpeeds ℝ) {dt : ℝ}
    {timeSteps : List ℝ} (hdt : 0 ≤ dt) (hpos : ∀ dt ∈ timeSteps, 0 ≤ dt) :
    let before := twistFromWheelSpeeds r.chassis.wheelSpeeds.target 0.2 0.05
    let t := twistFromWheelSpeeds speeds 0.2 0.05
    let r' := (DummyRobot.doStep dt { r with chassis := r.chassis.setWheelSpeeds speeds }).roll
      timeSteps
    r'.pose.theta = r.pose.theta + before.theta * dt + t.theta * timeSteps.sum ∧
      ‖r'.pose.spot -
          (r.pose.spot + ((dt + timeSteps.sum : ℝ) : ℂ) * (heading r.pose.theta * t.planar))‖ ≤
        ‖before.planar - t.planar‖ * dt + ‖t.planar‖ * |before.theta| * dt * timeSteps.sum +
          ‖t.planar‖ * |t.theta| * timeSteps.sum ^ 2 / 2 := by
  intro before t r'
  have hasked : Rolls { r with chassis := r.chassis.setWheelSpeeds speeds } := ⟨h.engaged, h.level⟩
  obtain ⟨hcruise, hfirst⟩ := doStep_idle hasked hi dt
  obtain ⟨-, htheta, hspot⟩ := hcruise.roll hpos
  have hsum : 0 ≤ timeSteps.sum := List.sum_nonneg hpos
  rw [hfirst, Pose2D.spot_advance, Twist2D.planar_rotateAroundZ] at hspot
  rw [hfirst] at htheta
  refine ⟨htheta, ?_⟩
  have hbend := norm_heading_sub_le r.pose.theta (before.theta * dt)
  rw [abs_mul, abs_of_nonneg hdt] at hbend
  generalize timeSteps.sum = s at *
  have hstraight : ‖r'.pose.spot - (r.pose.spot + dt * (heading r.pose.theta * before.planar) +
      s * (heading (r.pose.theta + before.theta * dt) * t.planar))‖ ≤
        ‖t.planar‖ * |t.theta| * s ^ 2 / 2 := hspot
  have hsplit : r'.pose.spot -
        (r.pose.spot + ((dt + s : ℝ) : ℂ) * (heading r.pose.theta * t.planar)) =
      (r'.pose.spot - (r.pose.spot + dt * (heading r.pose.theta * before.planar) +
          s * (heading (r.pose.theta + before.theta * dt) * t.planar))) +
        (dt * (heading r.pose.theta * (before.planar - t.planar)) +
          s * ((heading (r.pose.theta + before.theta * dt) - heading r.pose.theta) *
            t.planar)) := by
    push_cast
    ring
  have hlate : ‖(dt : ℂ) * (heading r.pose.theta * (before.planar - t.planar))‖ =
      ‖before.planar - t.planar‖ * dt := by
    rw [norm_mul, norm_mul, norm_heading, one_mul, Complex.norm_of_nonneg hdt, mul_comm]
  have hturn : ‖(s : ℂ) * ((heading (r.pose.theta + before.theta * dt) - heading r.pose.theta) *
      t.planar)‖ ≤ ‖t.planar‖ * |before.theta| * dt * s := by
    rw [norm_mul, norm_mul, Complex.norm_of_nonneg hsum]
    calc s * (‖heading (r.pose.theta + before.theta * dt) - heading r.pose.theta‖ * ‖t.planar‖)
        ≤ s * (|before.theta| * dt * ‖t.planar‖) :=
          mul_le_mul_of_nonneg_left (mul_le_mul_of_nonneg_right hbend (norm_nonneg _)) hsum
      _ = ‖t.planar‖ * |before.theta| * dt * s := by ring
  rw [hsplit]
  refine (norm_add_le _ _).trans ((add_le_add hstraight (norm_add_le _ _)).trans ?_)
  rw [hlate]
  linarith

end Sim.Robot

namespace Driver

noncomputable def rpm2speed : ℝ := 2.0 * Real.pi * 0.05 / 60.0

/-- Python's `round`: a half goes to the even neighbour. -/
noncomputable def pyRound (x : ℝ) : Int :=
  if Int.fract x < 0.5 then ⌊x⌋
  else if 0.5 < Int.fract x then ⌊x⌋ + 1
  else if Even ⌊x⌋ then ⌊x⌋ else ⌊x⌋ + 1

noncomputable def rpmFromLinearSpeed (value : ℝ) : Int := pyRound (value / rpm2speed)

def wheelSpeedsFromTwist (vx vy vtheta : ℝ) (axisLength : ℝ) : Sim.WheelSpeeds ℝ where
  frontLeft := vx - vy - axisLength * vtheta
  frontRight := vx + vy + axisLength * vtheta
  rearLeft := vx + vy - axisLength * vtheta
  rearRight := vx - vy + axisLength * vtheta

/-- The call for a message on `cmd_vel`. -/
noncomputable def hasReceivedTwist (twistToWheelSpeeds : Bool) (timeout : Option ℝ)
    (msg : Sim.Twist2D ℝ) : DriveCall :=
  if twistToWheelSpeeds then
    let speeds := wheelSpeedsFromTwist msg.x msg.y msg.theta 0.2
    .driveWheels (rpmFromLinearSpeed speeds.frontRight) (rpmFromLinearSpeed speeds.frontLeft)
      (rpmFromLinearSpeed speeds.rearLeft) (rpmFromLinearSpeed speeds.rearRight) timeout
  else .driveSpeed msg.x (-msg.y) (-deg msg.theta) timeout

/-- The steps of the robot with the requests that are due before each. -/
noncomputable def periods : List Sent → ℝ → List ℝ → List Sim.Robot.Period
  | _, _, [] => []
  | sent, time, timeStep :: timeSteps =>
    ⟨(sent.takeWhile fun s => s.delay ≤ time).map (·.request), timeStep⟩ ::
      periods (sent.dropWhile fun s => s.delay ≤ time) (time + timeStep) timeSteps

/-- The robot after the steps that follow a message on `cmd_vel`. -/
noncomputable def driven (sdk : Sdk) (call : DriveCall) (timeSteps : List ℝ) (r : Sim.Robot) :
    Sim.Robot :=
  (periods (sdk.drive call) 0 timeSteps).foldl Sim.Robot.period r

theorem abs_pyRound_sub (x : ℝ) : |pyRound x - x| ≤ 0.5 := by
  have hfract := Int.self_sub_floor x
  have hlow := Int.fract_nonneg x
  have hhigh := Int.fract_lt_one x
  have hhalf : (0.5 : ℝ) = 1 / 2 := by norm_num
  rw [pyRound, hhalf]
  split
  · exact abs_le.2 ⟨by linarith, by linarith⟩
  · split
    · push_cast
      exact abs_le.2 ⟨by linarith, by linarith⟩
    · split
      · exact abs_le.2 ⟨by linarith, by linarith⟩
      · push_cast
        exact abs_le.2 ⟨by linarith, by linarith⟩

theorem rpm2speed_ge : 0.005 ≤ rpm2speed := by
  have hpi := Real.pi_gt_three
  rw [rpm2speed]
  norm_num
  linarith

theorem abs_wheel_sub (value : ℝ) :
    |Sim.angularSpeedFromRpm (rpmFromLinearSpeed value) * 0.05 - value| ≤ 0.5 * rpm2speed := by
  have hpos : 0 < rpm2speed := lt_of_lt_of_le (by norm_num) rpm2speed_ge
  have hround := abs_pyRound_sub (value / rpm2speed)
  have hlinear : Sim.angularSpeedFromRpm (rpmFromLinearSpeed value) * 0.05 - value =
      rpm2speed * (pyRound (value / rpm2speed) - value / rpm2speed) := by
    rw [mul_sub, mul_div_cancel₀ _ hpos.ne', Sim.angularSpeedFromRpm, rpmFromLinearSpeed]
    generalize pyRound (value / rpm2speed) = n
    rw [rpm2speed]
    norm_num
    ring
  rw [hlinear, abs_mul, abs_of_pos hpos]
  calc rpm2speed * |(pyRound (value / rpm2speed) : ℝ) - value / rpm2speed| ≤ rpm2speed * 0.5 :=
        mul_le_mul_of_nonneg_left hround hpos.le
    _ = 0.5 * rpm2speed := mul_comm _ _

/-- How far a wheel may be off the speed it should have. -/
noncomputable def wheelError (twistToWheelSpeeds : Bool) : ℝ :=
  if twistToWheelSpeeds then 0.5 * rpm2speed else 0

/-- One twist is another up to what the wheels make of it. -/
structure Near (e : ℝ) (t u : Sim.Twist2D ℝ) : Prop where
  x : |u.x - t.x| ≤ e
  y : |u.y - t.y| ≤ e
  theta : |u.theta - t.theta| ≤ e / 0.2

variable {sdk : Sdk} {t : Sim.Twist2D ℝ} {r : Sim.Robot}

theorem near_of_wheels {w : Sim.WheelSpeeds ℝ} {e : ℝ}
    (h1 : |w.frontLeft * 0.05 - (wheelSpeedsFromTwist t.x t.y t.theta 0.2).frontLeft| ≤ e)
    (h2 : |w.frontRight * 0.05 - (wheelSpeedsFromTwist t.x t.y t.theta 0.2).frontRight| ≤ e)
    (h3 : |w.rearLeft * 0.05 - (wheelSpeedsFromTwist t.x t.y t.theta 0.2).rearLeft| ≤ e)
    (h4 : |w.rearRight * 0.05 - (wheelSpeedsFromTwist t.x t.y t.theta 0.2).rearRight| ≤ e) :
    Near e t (Sim.twistFromWheelSpeeds w 0.2 0.05) := by
  simp only [wheelSpeedsFromTwist] at h1 h2 h3 h4
  norm_num [abs_le] at h1 h2 h3 h4
  constructor
  · norm_num [Sim.twistFromWheelSpeeds, abs_le]
    constructor <;> linarith
  · norm_num [Sim.twistFromWheelSpeeds, abs_le]
    constructor <;> linarith
  · norm_num [Sim.twistFromWheelSpeeds, abs_le]
    constructor <;> linarith

theorem deg2rad_deg (value : ℝ) : Sim.deg2rad (deg value) = value := by
  have hpi := Real.pi_ne_zero
  rw [Sim.deg2rad, deg]
  field_simp

/-- The signs that driver and simulator turn around cancel, as do their degrees. -/
theorem serve_speed (timeout : Option ℝ) (t : Sim.Twist2D ℝ) (r : Sim.Robot) :
    r.serve (hasReceivedTwist false timeout t).request =
      { r with chassis := r.chassis.setTargetVelocity t } := by
  have hneg : Sim.deg2rad (-deg t.theta) = -t.theta := by
    rw [Sim.deg2rad, mul_neg, neg_div]
    exact congrArg Neg.neg (deg2rad_deg t.theta)
  rw [hasReceivedTwist, if_neg Bool.false_ne_true, DriveCall.request, Sim.Robot.serve, hneg,
    neg_neg, neg_neg]

theorem serve_twist (mode : Bool) (timeout : Option ℝ) (t : Sim.Twist2D ℝ) (r : Sim.Robot) :
    ∃ w, r.serve (hasReceivedTwist mode timeout t).request =
        { r with chassis := r.chassis.setWheelSpeeds w } ∧
      Near (wheelError mode) t (Sim.twistFromWheelSpeeds w 0.2 0.05) := by
  cases mode with
  | false =>
    refine ⟨Sim.wheelSpeedsFromTwist t 0.2 0.05, ?_, ?_⟩
    · rw [serve_speed, Sim.Chassis.setTargetVelocity_eq]
    · rw [Sim.Chassis.twist_of_wheels, wheelError]
      constructor <;> simp
  | true => exact ⟨_, rfl, near_of_wheels (abs_wheel_sub _) (abs_wheel_sub _) (abs_wheel_sub _)
      (abs_wheel_sub _)⟩

theorem periods_idle {later : List Sent} {timeSteps : List ℝ} {time : ℝ}
    (hpos : ∀ dt ∈ timeSteps, 0 ≤ dt) (hlater : ∀ s ∈ later, time + timeSteps.sum < s.delay) :
    periods later time timeSteps = timeSteps.map fun dt => ⟨[], dt⟩ := by
  induction timeSteps generalizing time with
  | nil => rfl
  | cons dt timeSteps ih =>
    rw [List.forall_mem_cons] at hpos
    rw [List.sum_cons] at hlater
    have hsum := List.sum_nonneg hpos.2
    have hidle : ∀ s ∈ later, ¬ s.delay ≤ time := fun s hs => by
      linarith [hlater s hs, hpos.1]
    rw [periods, List.map_cons]
    cases later with
    | nil => exact congrArg _ (ih hpos.2 (by simp))
    | cons s later =>
      have hs := hidle s List.mem_cons_self
      rw [List.takeWhile_cons_of_neg (by simpa using hs),
        List.dropWhile_cons_of_neg (by simpa using hs)]
      exact congrArg _ (ih hpos.2 fun s hs => by linarith [hlater s hs])

theorem driven_eq (hsdk : sdk.Direct) {call : DriveCall} (hcall : call.InRange) {dt : ℝ}
    {timeSteps : List ℝ} (hdt : 0 ≤ dt) (hpos : ∀ dt ∈ timeSteps, 0 ≤ dt)
    (htime : ∀ timeout, call.timeout = some timeout → dt + timeSteps.sum < timeout) :
    driven sdk call (dt :: timeSteps) r =
      (Sim.DummyRobot.doStep dt (r.serve call.request)).roll timeSteps := by
  obtain ⟨later, hsent, hlater⟩ := hsdk.drive call hcall
  have hafter : ∀ s ∈ later, dt + timeSteps.sum < s.delay := by
    intro s hs
    obtain ⟨timeout, htimeout, hle⟩ := hlater s hs
    exact (htime timeout htimeout).trans_le hle
  have hidle : periods later 0 (dt :: timeSteps) = (dt :: timeSteps).map fun dt => ⟨[], dt⟩ :=
    periods_idle (List.forall_mem_cons.2 ⟨hdt, hpos⟩) fun s hs => by
      rw [zero_add, List.sum_cons]
      exact hafter s hs
  rw [periods, List.map_cons] at hidle
  obtain ⟨hnone, hrest⟩ := List.cons.inj hidle
  have hfirst : periods (⟨0, call.request⟩ :: later) 0 (dt :: timeSteps) =
      ⟨[call.request], dt⟩ :: timeSteps.map fun dt => ⟨[], dt⟩ := by
    rw [periods, List.takeWhile_cons_of_pos (by simp), List.dropWhile_cons_of_pos (by simp),
      List.map_cons, (Sim.Robot.Period.mk.inj hnone).1, hrest]
  rw [driven, hsent, hfirst, List.foldl_cons, List.foldl_map]
  rfl

theorem timeout_hasReceivedTwist (mode : Bool) (timeout : Option ℝ) (t : Sim.Twist2D ℝ) :
    (hasReceivedTwist mode timeout t).timeout = timeout := by
  cases mode <;> rfl

/-- A message on `cmd_vel` drives an idle robot along its twist until the timeout, from the second
step on; the first one still goes as the robot was told before. -/
theorem cmd_vel_drives (hsdk : sdk.Direct) (mode : Bool) (timeout : Option ℝ)
    (ht : (hasReceivedTwist mode timeout t).InRange) (hr : r.Rolls) (hidle : r.move = none) :
    ∃ u, Near (wheelError mode) t u ∧ ∀ (dt : ℝ) (timeSteps : List ℝ), 0 ≤ dt →
      (∀ dt ∈ timeSteps, 0 ≤ dt) → (∀ limit, timeout = some limit → dt + timeSteps.sum < limit) →
      let first := driven sdk (hasReceivedTwist mode timeout t) [dt] r
      let last := driven sdk (hasReceivedTwist mode timeout t) (dt :: timeSteps) r
      first.pose = r.pose.advance ((Sim.twistFromWheelSpeeds r.chassis.wheelSpeeds.target 0.2
          0.05).rotateAroundZ r.pose.theta) dt ∧
      last.Cruising u ∧ last.pose.theta = first.pose.theta + u.theta * timeSteps.sum ∧
      ‖last.pose.spot -
          (first.pose.spot + timeSteps.sum * (heading first.pose.theta * u.planar))‖ ≤
        ‖u.planar‖ * |u.theta| * timeSteps.sum ^ 2 / 2 := by
  obtain ⟨w, hserve, hnear⟩ := serve_twist mode timeout t r
  have hasked : Sim.Robot.Rolls { r with chassis := r.chassis.setWheelSpeeds w } :=
    ⟨hr.engaged, hr.level⟩
  refine ⟨_, hnear, fun dt timeSteps hdt hpos htime => ?_⟩
  have hsum := List.sum_nonneg hpos
  have hshort : ∀ limit, timeout = some limit → dt + ([] : List ℝ).sum < limit := by
    intro limit hlimit
    rw [List.sum_nil]
    linarith [htime limit hlimit]
  rw [← timeout_hasReceivedTwist mode timeout t] at htime hshort
  rw [driven_eq hsdk ht hdt (List.forall_mem_nil _) hshort, driven_eq hsdk ht hdt hpos htime,
    hserve]
  obtain ⟨hcruise, hpose⟩ := Sim.Robot.doStep_idle hasked hidle dt
  exact ⟨hpose, hcruise.roll hpos⟩

theorem abs_deg_le {value : ℝ} (h : |value| ≤ 10) : |deg value| ≤ 600 := by
  have hpi := Real.pi_gt_three
  have hsixty : 180.0 / Real.pi ≤ 60 := by
    rw [div_le_iff₀ Real.pi_pos]
    norm_num
    linarith
  have hpos : 0 ≤ 180.0 / Real.pi := div_nonneg (by norm_num) Real.pi_pos.le
  rw [deg, abs_mul, abs_of_nonneg hpos]
  calc 180.0 / Real.pi * |value| ≤ 60 * 10 := mul_le_mul hsixty h (abs_nonneg _) (by norm_num)
    _ = 600 := by norm_num

theorem cmd_vel_drives_spiral : ∃ u, Near (wheelError false) ⟨0.2, -0.1, 0.5⟩ u ∧
    let last := driven Sdk.clipping (hasReceivedTwist false (some 1) ⟨0.2, -0.1, 0.5⟩)
      [0.05, 0.05, 0.1] Sim.Robot.fresh
    last.Cruising u ∧ last.pose.theta = u.theta * 0.15 := by
  have ht : (hasReceivedTwist false (some 1) ⟨0.2, -0.1, 0.5⟩).InRange := by
    have hdeg : |(-deg 0.5 : ℝ)| ≤ 600 := by
      rw [abs_neg]
      exact abs_deg_le (by norm_num [abs_le])
    exact ⟨by norm_num [abs_le], by norm_num [abs_le], hdeg⟩
  obtain ⟨u, hnear, hlater⟩ :=
    cmd_vel_drives Sdk.clipping_direct false (some 1) ht (r := Sim.Robot.fresh) ⟨rfl, rfl⟩ rfl
  obtain ⟨hfirst, hcruise, htheta, -⟩ :=
    hlater 0.05 [0.05, 0.1] (by norm_num) (by norm_num) (by norm_num)
  refine ⟨u, hnear, hcruise, ?_⟩
  rw [htheta, hfirst]
  norm_num [Sim.Robot.fresh, Sim.Robot.pose, Sim.Pose2D.advance, Sim.Twist2D.rotateAroundZ,
    Sim.twistFromWheelSpeeds]

end Driver

/-- The robot of the simulator, as the explorer's part of the development has it. -/
noncomputable def Sim.Robot.stands (r : Sim.Robot) : EscapeRoom.Robot :=
  ⟨r.pose.x, r.pose.y, r.pose.theta⟩

/-- One tick of the explorer, simulated: where the robot gets to under a command of the node, of
which the first step knows nothing yet. -/
theorem follow_simulated {sdk : Driver.Sdk} {r : Sim.Robot} (hsdk : sdk.Direct) {t : Twist ℝ}
    {timeout : Option ℝ} {v w dt : ℝ} {timeSteps : List ℝ}
    (ht : (Driver.hasReceivedTwist false timeout ⟨t.linearX, 0, t.angularZ⟩).InRange)
    (hr : r.Rolls) (hidle : r.move = none)
    (hlast : Sim.twistFromWheelSpeeds r.chassis.wheelSpeeds.target 0.2 0.05 = ⟨v, 0, w⟩)
    (hdt : 0 ≤ dt) (hpos : ∀ dt ∈ timeSteps, 0 ≤ dt) (hsum : dt + timeSteps.sum = 0.25)
    (htime : ∀ limit, timeout = some limit → 0.25 < limit) :
    let r' := Driver.driven sdk (Driver.hasReceivedTwist false timeout ⟨t.linearX, 0, t.angularZ⟩)
      (dt :: timeSteps) r
    r'.stands.yaw = (r.stands.follow t).yaw + (w - t.angularZ) * dt ∧
      ‖toPlane (r'.stands.x, r'.stands.y) -
          toPlane ((r.stands.follow t).x, (r.stands.follow t).y)‖ ≤
        |v - t.linearX| * dt + |t.linearX| * |w| * dt * (0.25 - dt) +
          |t.linearX| * |t.angularZ| * (0.25 - dt) ^ 2 / 2 := by
  have hdriven := Driver.driven_eq (r := r) hsdk ht hdt hpos
  rw [Driver.timeout_hasReceivedTwist, hsum, Driver.serve_speed,
    Sim.Chassis.setTargetVelocity_eq] at hdriven
  obtain ⟨htheta, hspot⟩ := Sim.Robot.roll_late hr hidle
    (Sim.wheelSpeedsFromTwist ⟨t.linearX, 0, t.angularZ⟩ 0.2 0.05) hdt hpos
  have hrest : timeSteps.sum = 0.25 - dt := by linarith
  have hplanar : ∀ v w : ℝ, (⟨v, 0, w⟩ : Sim.Twist2D ℝ).planar = (v : ℂ) := fun _ _ => rfl
  rw [hlast, Sim.Chassis.twist_of_wheels] at htheta hspot
  rw [hplanar, hplanar, ← Complex.ofReal_sub, Complex.norm_real, Complex.norm_real, hsum] at hspot
  rw [hrest] at htheta hspot
  rw [hdriven htime]
  dsimp only
  constructor
  · refine htheta.trans ?_
    rw [Robot.follow]
    norm_num [Sim.Robot.stands]
    ring
  · have hquarter : ((0.25 : ℝ) : ℂ) * (heading r.pose.theta * (t.linearX : ℂ)) =
        (t.linearX / 4 : ℝ) * heading r.pose.theta := by
      push_cast
      ring
    rw [hquarter] at hspot
    rw [Robot.toPlane_follow]
    exact hspot

theorem follow_simulated_arc :
    let t : Twist ℝ := ⟨0.06, 0.3⟩
    let r' := Driver.driven Driver.Sdk.clipping
      (Driver.hasReceivedTwist false none ⟨t.linearX, 0, t.angularZ⟩) [0.05, 0.1, 0.1]
      Sim.Robot.fresh
    r'.stands.yaw = (Sim.Robot.fresh.stands.follow t).yaw + (0 - t.angularZ) * 0.05 ∧
      ‖toPlane (r'.stands.x, r'.stands.y) - toPlane ((Sim.Robot.fresh.stands.follow t).x,
          (Sim.Robot.fresh.stands.follow t).y)‖ ≤
        |0 - t.linearX| * 0.05 + |t.linearX| * |0| * 0.05 * (0.25 - 0.05) +
          |t.linearX| * |t.angularZ| * (0.25 - 0.05) ^ 2 / 2 := by
  have ht : (Driver.hasReceivedTwist false none ⟨0.06, 0, 0.3⟩).InRange := by
    have hdeg : |(-Driver.deg 0.3 : ℝ)| ≤ 600 := by
      rw [abs_neg]
      exact Driver.abs_deg_le (by norm_num [abs_le])
    exact ⟨by norm_num [abs_le], by norm_num, hdeg⟩
  have hlast : Sim.twistFromWheelSpeeds Sim.Robot.fresh.chassis.wheelSpeeds.target 0.2 0.05 =
      ⟨0, 0, 0⟩ := by
    norm_num [Sim.twistFromWheelSpeeds, Sim.Robot.fresh]
  exact follow_simulated Driver.Sdk.clipping_direct (t := ⟨0.06, 0.3⟩) ht ⟨rfl, rfl⟩ rfl hlast
    (by norm_num) (by norm_num) (by norm_num) fun _ h => absurd h (Option.some_ne_none _).symm

end EscapeRoom
