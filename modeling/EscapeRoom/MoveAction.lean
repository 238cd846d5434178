import Mathlib
import EscapeRoom.Chassis
import EscapeRoom.Library.Temporal

namespace EscapeRoom.Sim
set_option autoImplicit true

open Planar Temporal

/-- How fast a step closes a distance `d` at speed `v`, relative to `d`. -/
noncomputable def gain (v d : ℝ) : ℝ := min 1 (v / (d / 0.5)) / 0.5

section gain

variable {v d : ℝ}

theorem gain_nonneg (hv : 0 < v) (hd : 0 ≤ d) : 0 ≤ gain v d := by
  have hspeed : 0 ≤ v / (d / 0.5) := by positivity
  exact div_nonneg (le_min zero_le_one hspeed) (by norm_num)

theorem gain_le (v d : ℝ) : gain v d ≤ 2 := by
  rw [gain, div_le_iff₀ (by norm_num)]
  exact (min_le_left _ _).trans_eq (by norm_num)

theorem gain_mul (hv : 0 < v) (hd : 0 ≤ d) : gain v d * d = min (d / 0.5) v := by
  obtain rfl | hpos := hd.eq_or_lt
  · rw [mul_zero, zero_div, min_eq_left hv.le]
  · have hquot : 0 < d / 0.5 := div_pos hpos (by norm_num)
    calc gain v d * d = min 1 (v / (d / 0.5)) * (d / 0.5) := by
          rw [gain, div_mul_eq_mul_div, mul_div]
      _ = min (d / 0.5) v := by
          rw [min_mul_of_nonneg _ _ hquot.le, one_mul, div_mul_cancel₀ _ hquot.ne']

theorem clamp_eq_gain_mul (hv : 0 < v) (e : ℝ) : clamp (e / 0.5) (-v) v = gain v |e| * e := by
  have hgain := gain_mul hv (abs_nonneg e)
  have hhalf : (0 : ℝ) < 0.5 := by norm_num
  obtain hneg | hpos := lt_or_ge e 0
  · have hquot : e / 0.5 ≤ v := (div_neg_of_neg_of_pos hneg hhalf).le.trans hv.le
    rw [abs_of_neg hneg] at hgain ⊢
    calc clamp (e / 0.5) (-v) v = max (-v) (e / 0.5) := by rw [clamp, min_eq_right hquot]
      _ = -min (-e / 0.5) v := by rw [neg_div, ← max_neg_neg, neg_neg, max_comm]
      _ = gain v (-e) * e := by rw [← hgain, mul_neg, neg_neg]
  · have hquot : 0 ≤ e / 0.5 := div_nonneg hpos hhalf.le
    rw [abs_of_nonneg hpos] at hgain ⊢
    rw [hgain, clamp, min_comm, max_eq_right]
    exact (neg_nonpos.2 hv.le).trans (le_min hquot hv.le)

variable {E : Type} [NormedAddCommGroup E] [NormedSpace ℝ E]

theorem norm_gain (hv : 0 < v) {dt : ℝ} (hdt : dt ≤ 0.5) (e : E) :
    ‖e - (dt * gain v ‖e‖) • e‖ = ‖e‖ - dt * min (‖e‖ / 0.5) v := by
  have hgain := gain_nonneg hv (norm_nonneg e)
  have hle : dt * gain v ‖e‖ ≤ 1 := by
    calc dt * gain v ‖e‖ ≤ 0.5 * 2 := mul_le_mul hdt (gain_le _ _) hgain (by norm_num)
      _ = 1 := by norm_num
  have hcontract : e - (dt * gain v ‖e‖) • e = (1 - dt * gain v ‖e‖) • e := by
    rw [sub_smul, one_smul]
  rw [hcontract, norm_smul, Real.norm_of_nonneg (by linarith), sub_mul, one_mul, mul_assoc,
    gain_mul hv (norm_nonneg e)]

end gain

inductive Request where
  | chassisSpeedMode (xSpd ySpd zSpd : ℝ)
  | setWheelSpeed (w1 w2 w3 w4 : Int)
  | positionMove (pose : Pose2D) (linearSpeed angularSpeed : ℝ)
  | chassisSetWorkMode (mode : Nat)

noncomputable def deg2rad (value : ℝ) : ℝ := Real.pi * value / 180.0

noncomputable def angularSpeedFromRpm (rpm : Int) : ℝ := 2.0 * Real.pi * rpm / 60.0

namespace Robot

/-- What the messages that move the base do, after their fields are read. -/
noncomputable def serve (r : Robot) : Request → Robot
  | .chassisSpeedMode xSpd ySpd zSpd =>
    { r with chassis := r.chassis.setTargetVelocity ⟨xSpd, -ySpd, -deg2rad zSpd⟩ }
  | .setWheelSpeed w1 w2 w3 w4 =>
    let speeds := ⟨angularSpeedFromRpm w2, angularSpeedFromRpm w1, angularSpeedFromRpm w3,
      angularSpeedFromRpm w4⟩
    { r with chassis := r.chassis.setWheelSpeeds speeds }
  | .positionMove pose linearSpeed angularSpeed => (r.moveBase pose linearSpeed angularSpeed).2
  | .chassisSetWorkMode mode => r.engageWheelMotors (mode != 0)

/-- The requests between two steps, and the second step. -/
structure Period where
  requests : List Request
  timeStep : ℝ

noncomputable def period (r : Robot) (p : Period) : Robot :=
  DummyRobot.doStep p.timeStep (p.requests.foldl serve r)

noncomputable def after (r : Robot) (ins : Nat → Period) : Nat → Robot
  | 0 => r
  | n + 1 => (r.after ins n).period (ins n)

end Robot

/-- A request that does not let go of the wheels. -/
def Request.Engaged (q : Request) : Prop := q ≠ .chassisSetWorkMode 0

structure Robot.Period.Steady (δ : ℝ) (p : Robot.Period) : Prop where
  engaged : ∀ q ∈ p.requests, q.Engaged
  short : δ ≤ p.timeStep
  long : p.timeStep ≤ 0.5

/-- A pose on the straight way from one pose to another. -/
structure Pose2D.Between (p start goal : Pose2D) : Prop where
  spot : p.spot ∈ segment ℝ start.spot goal.spot
  theta : p.theta ∈ segment ℝ start.theta goal.theta

theorem Pose2D.Between.start (start goal : Pose2D) : start.Between start goal :=
  ⟨left_mem_segment ℝ _ _, left_mem_segment ℝ _ _⟩

namespace Robot

def pose (r : Robot) : Pose2D := r.chassis.odometry.pose

/-- The wheels are engaged, and the odometry and the attitude agree. -/
structure Rolls (r : Robot) : Prop where
  engaged : r.chassis.wheelMotorsEngaged = true
  level : r.chassis.attitude.yaw = r.pose.theta

/-- An action is under way. -/
structure Moving (start goal : Pose2D) (v ω : ℝ) (r : Robot) : Prop extends Rolls r where
  action : ∃ a, r.move = some a ∧ a.state = .running ∧ a.goalOdom = goal ∧ a.linearSpeed = v ∧
    a.angularSpeed = ω
  wheels : r.chassis.wheelSpeeds.target =
    wheelSpeedsFromTwist (MoveAction.steer (goal.relativeTo r.pose) v ω) 0.2 0.05
  far : 0.01 ≤ (goal.relativeTo r.pose).norm
  between : r.pose.Between start goal

/-- An action has ended at its goal. -/
structure Arrived (start goal : Pose2D) (r : Robot) : Prop extends Rolls r where
  idle : r.move = none
  outcome : r.previousMove = some .succeed
  wheels : r.chassis.wheelSpeeds.target = ⟨0, 0, 0, 0⟩
  near : (goal.relativeTo r.pose).norm < 0.01
  between : r.pose.Between start goal

variable {r : Robot} {a : MoveAction} {c : Chassis} {p : Period} {start goal : Pose2D} {v ω δ : ℝ}

theorem submitAction_busy (ha : r.move = some a) (action : MoveAction) :
    r.submitAction action = (.rejected, r) := by
  rw [submitAction, ha]

/-- While an action is under way requests change no more than the speed that is wanted. -/
theorem serve_busy (ha : r.move = some a) (he : r.chassis.wheelMotorsEngaged = true)
    {q : Request} (hq : q.Engaged) :
    ∃ speeds, r.serve q = { r with chassis := r.chassis.setWheelSpeeds speeds } := by
  cases q with
  | chassisSpeedMode => exact ⟨_, rfl⟩
  | setWheelSpeed => exact ⟨_, rfl⟩
  | positionMove =>
    refine ⟨r.chassis.wheelSpeeds.desired, ?_⟩
    rw [serve, moveBase, submitAction_busy ha]
    rfl
  | chassisSetWorkMode mode =>
    have hmode : (mode != 0) = true := by
      rw [bne_iff_ne]
      rintro rfl
      exact hq rfl
    refine ⟨r.chassis.wheelSpeeds.desired, ?_⟩
    rw [serve, hmode, engageWheelMotors, if_pos he.symm]
    rfl

theorem serve_all {qs : List Request} (ha : r.move = some a)
    (he : r.chassis.wheelMotorsEngaged = true) (hqs : ∀ q ∈ qs, q.Engaged) :
    ∃ speeds, qs.foldl serve r = { r with chassis := r.chassis.setWheelSpeeds speeds } := by
  induction qs generalizing r with
  | nil => exact ⟨r.chassis.wheelSpeeds.desired, rfl⟩
  | cons q qs ih =>
    rw [List.forall_mem_cons] at hqs
    obtain ⟨speeds, hserve⟩ := serve_busy ha he hqs.1
    rw [List.foldl_cons, hserve]
    obtain ⟨speeds', hall⟩ := ih (r := { r with chassis := r.chassis.setWheelSpeeds speeds })
      ha he hqs.2
    exact ⟨speeds', hall⟩

/-- The robot after its action has stepped on a chassis. -/
noncomputable def act (r : Robot) (a : MoveAction) (c : Chassis) : Robot :=
  if (a.doStep c).1.state.done then
    ⟨(a.doStep c).2.control, none, some (a.doStep c).1.state⟩
  else ⟨(a.doStep c).2.control, some (a.doStep c).1, r.previousMove⟩

/-- The chassis as the action finds it in a step: rolled as the wheels were told. -/
noncomputable def rolled (timeStep : ℝ) (r : Robot) : Chassis :=
  let wheelSpeeds := { r.chassis.wheelSpeeds with current := r.chassis.wheelSpeeds.target }
  Chassis.read DummyRobot.hardware timeStep { r.chassis with wheelSpeeds }

theorem doStep_busy (ha : r.move = some a) (timeStep : ℝ) :
    DummyRobot.doStep timeStep r = r.act a (r.rolled timeStep) := by
  rw [DummyRobot.doStep, doStep]
  dsimp only
  rw [ha]
  rfl

theorem rolled_pose (h : r.Rolls) {t : Twist2D ℝ}
    (ht : r.chassis.wheelSpeeds.target = wheelSpeedsFromTwist t 0.2 0.05) (timeStep : ℝ) :
    (r.rolled timeStep).odometry.pose =
      r.pose.advance (t.rotateAroundZ r.pose.theta) timeStep := by
  have hpose := Chassis.read_dummy { r.chassis with wheelSpeeds :=
    { r.chassis.wheelSpeeds with current := r.chassis.wheelSpeeds.target } } timeStep h.level
  dsimp only at hpose
  rw [ht, Chassis.twist_of_wheels] at hpose
  rw [rolled, ht]
  exact hpose

/-- A period of an action: the robot rolls as its wheels were told, then the action steps. -/
theorem period_busy (h : r.Rolls) (ha : r.move = some a) (hp : ∀ q ∈ p.requests, q.Engaged) :
    ∃ c : Chassis, r.period p = r.act a c ∧ c.wheelMotorsEngaged = true ∧
      c.attitude.yaw = c.odometry.pose.theta ∧
      ∀ t, r.chassis.wheelSpeeds.target = wheelSpeedsFromTwist t 0.2 0.05 →
        c.odometry.pose = r.pose.advance (t.rotateAroundZ r.pose.theta) p.timeStep := by
  obtain ⟨speeds, hserve⟩ := serve_all ha h.engaged hp
  let served : Robot := { r with chassis := r.chassis.setWheelSpeeds speeds }
  have hrolls : served.Rolls := ⟨h.engaged, h.level⟩
  refine ⟨served.rolled p.timeStep, ?_, h.engaged, rfl, fun t ht => rolled_pose hrolls ht _⟩
  rw [period, hserve]
  exact doStep_busy (r := served) ha _

theorem act_near (he : c.wheelMotorsEngaged = true) (hs : (a.start c).state = .running)
    (hnear : ((a.start c).goalOdom.relativeTo c.odometry.pose).norm < 0.01) :
    ∃ w, r.act a c = ⟨{ c with wheelSpeeds := w }, none, some .succeed⟩ ∧
      w.target = ⟨0, 0, 0, 0⟩ := by
  obtain ⟨a', hstep, hstate⟩ : ∃ a', a.doStep c = (a', c.setTargetVelocity ⟨0, 0, 0⟩) ∧
      a'.state = .succeed := by
    simp only [MoveAction.doStep]
    rw [if_pos hs, if_pos hnear]
    exact ⟨_, rfl, rfl⟩
  obtain ⟨w, hw, htarget⟩ := Chassis.control_setTargetVelocity ⟨0, 0, 0⟩ he
  have hdone : a'.state.done = true := by
    rw [hstate]
    rfl
  refine ⟨w, ?_, ?_⟩
  · rw [act, hstep, if_pos hdone, hw, hstate]
  · rw [htarget]
    norm_num [wheelSpeedsFromTwist]

theorem act_far (he : c.wheelMotorsEngaged = true) (hs : (a.start c).state = .running)
    (hfar : 0.01 ≤ ((a.start c).goalOdom.relativeTo c.odometry.pose).norm) :
    ∃ w a', r.act a c = ⟨{ c with wheelSpeeds := w }, some a', r.previousMove⟩ ∧
      w.target = wheelSpeedsFromTwist (MoveAction.steer
        ((a.start c).goalOdom.relativeTo c.odometry.pose) (a.start c).linearSpeed
        (a.start c).angularSpeed) 0.2 0.05 ∧
      a'.state = .running ∧ a'.goalOdom = (a.start c).goalOdom ∧
      a'.linearSpeed = (a.start c).linearSpeed ∧ a'.angularSpeed = (a.start c).angularSpeed := by
  obtain ⟨a', hstep, hstate, hrest⟩ : ∃ a', a.doStep c = (a', c.setTargetVelocity
      (MoveAction.steer ((a.start c).goalOdom.relativeTo c.odometry.pose) (a.start c).linearSpeed
        (a.start c).angularSpeed)) ∧ a'.state = .running ∧ a'.goalOdom = (a.start c).goalOdom ∧
      a'.linearSpeed = (a.start c).linearSpeed ∧ a'.angularSpeed = (a.start c).angularSpeed := by
    simp only [MoveAction.doStep]
    rw [if_pos hs, if_neg hfar.not_gt]
    exact ⟨_, rfl, hs, rfl, rfl, rfl⟩
  obtain ⟨w, hw, htarget⟩ := Chassis.control_setTargetVelocity (MoveAction.steer
    ((a.start c).goalOdom.relativeTo c.odometry.pose) (a.start c).linearSpeed
    (a.start c).angularSpeed) he
  have hgoing : ¬ a'.state.done = true := by
    rw [hstate]
    exact Bool.false_ne_true
  refine ⟨w, a', ?_, htarget, hstate, hrest⟩
  rw [act, hstep, if_neg hgoing, hw]

theorem act_cases (he : c.wheelMotorsEngaged = true)
    (hl : c.attitude.yaw = c.odometry.pose.theta) (hs : (a.start c).state = .running)
    (hg : (a.start c).goalOdom = goal) (hv : (a.start c).linearSpeed = v)
    (hω : (a.start c).angularSpeed = ω) (hb : c.odometry.pose.Between start goal) :
    (r.act a c).pose = c.odometry.pose ∧
      ((r.act a c).Moving start goal v ω ∨ (r.act a c).Arrived start goal) := by
  subst hg hv hω
  obtain hnear | hfar := lt_or_ge ((a.start c).goalOdom.relativeTo c.odometry.pose).norm 0.01
  · obtain ⟨w, hact, hw⟩ := act_near (r := r) he hs hnear
    rw [hact]
    exact ⟨rfl, .inr ⟨⟨he, hl⟩, rfl, rfl, hw, hnear, hb⟩⟩
  · obtain ⟨w, a', hact, hw, ha'⟩ := act_far (r := r) he hs hfar
    rw [hact]
    exact ⟨rfl, .inl ⟨⟨he, hl⟩, ⟨a', rfl, ha'⟩, hw, hfar, hb⟩⟩

/-- What is left of the way, and of the turn. -/
noncomputable def toGo (goal : Pose2D) (r : Robot) : ℝ :=
  ‖goal.spot - r.pose.spot‖ + ‖goal.theta - r.pose.theta‖

/-- Under the action's twist both errors shrink along the straight way. -/
theorem advance_steer (hω : 0 < ω) (dt : ℝ) (goal q : Pose2D) :
    (q.advance ((MoveAction.steer (goal.relativeTo q) v ω).rotateAroundZ q.theta) dt).spot =
        q.spot + (dt * gain v ‖goal.spot - q.spot‖) • (goal.spot - q.spot) ∧
      (q.advance ((MoveAction.steer (goal.relativeTo q) v ω).rotateAroundZ q.theta) dt).theta =
        q.theta + (dt * gain ω ‖goal.theta - q.theta‖) • (goal.theta - q.theta) := by
  have hplanar : (MoveAction.steer (goal.relativeTo q) v ω).planar =
      (gain v ‖goal.spot - q.spot‖ : ℝ) * (goal.relativeTo q).spot := by
    apply Complex.ext
    · simp only [Twist2D.planar, MoveAction.steer, Complex.re_ofReal_mul, Pose2D.spot,
        Pose2D.distance_relativeTo, gain]
      ring
    · simp only [Twist2D.planar, MoveAction.steer, Complex.im_ofReal_mul, Pose2D.spot,
        Pose2D.distance_relativeTo, gain]
      ring
  constructor
  · rw [Pose2D.spot_advance, Twist2D.planar_rotateAroundZ, hplanar, Pose2D.spot_relativeTo,
      Complex.real_smul, Complex.ofReal_mul]
    linear_combination (dt : ℂ) * gain v ‖goal.spot - q.spot‖ * (goal.spot - q.spot) *
      heading_mul_neg q.theta
  · simp only [Pose2D.advance, Twist2D.rotateAroundZ, MoveAction.steer, Pose2D.theta_relativeTo,
      clamp_eq_gain_mul hω, smul_eq_mul, Real.norm_eq_abs]
    ring

theorem advance_errors (hv : 0 < v) (hω : 0 < ω) {dt : ℝ} (hdt : dt ≤ 0.5) (goal q : Pose2D) :
    let q' := q.advance ((MoveAction.steer (goal.relativeTo q) v ω).rotateAroundZ q.theta) dt
    ‖goal.spot - q'.spot‖ = ‖goal.spot - q.spot‖ - dt * min (‖goal.spot - q.spot‖ / 0.5) v ∧
      ‖goal.theta - q'.theta‖ =
        ‖goal.theta - q.theta‖ - dt * min (‖goal.theta - q.theta‖ / 0.5) ω := by
  obtain ⟨hspot, htheta⟩ := advance_steer (v := v) hω dt goal q
  constructor
  · rw [hspot, ← sub_sub]
    exact norm_gain hv hdt _
  · rw [htheta, ← sub_sub]
    exact norm_gain hω hdt _

theorem between_step {E : Type} [NormedAddCommGroup E] [NormedSpace ℝ E] {x y z : E}
    (h : z ∈ segment ℝ x y) (hv : 0 < v) {dt : ℝ} (hdt : 0 ≤ dt) (hdt' : dt ≤ 0.5) :
    z + (dt * gain v ‖y - z‖) • (y - z) ∈ segment ℝ x y := by
  have hgain := gain_nonneg hv (norm_nonneg (y - z))
  apply (convex_segment x y).add_smul_sub_mem h (right_mem_segment ℝ x y)
  constructor
  · exact mul_nonneg hdt hgain
  · calc dt * gain v ‖y - z‖ ≤ 0.5 * 2 := mul_le_mul hdt' (gain_le _ _) hgain (by norm_num)
      _ = 1 := by norm_num

theorem between_advance {q : Pose2D} (h : q.Between start goal) (hv : 0 < v) (hω : 0 < ω) {dt : ℝ}
    (hdt : 0 ≤ dt) (hdt' : dt ≤ 0.5) :
    (q.advance ((MoveAction.steer (goal.relativeTo q) v ω).rotateAroundZ q.theta) dt).Between
      start goal := by
  obtain ⟨hspot, htheta⟩ := advance_steer (v := v) hω dt goal q
  constructor
  · rw [hspot]
    exact between_step h.spot hv hdt hdt'
  · rw [htheta]
    exact between_step h.theta hω hdt hdt'

/-- The least that a period takes off what is left. -/
noncomputable def pace (v ω δ : ℝ) : ℝ := δ * min 0.01 (min v ω)

theorem pace_pos (hv : 0 < v) (hω : 0 < ω) (hδ : 0 < δ) : 0 < pace v ω δ :=
  mul_pos hδ (lt_min (by norm_num) (lt_min hv hω))

theorem pace_le {x y : ℝ} (hv : 0 < v) (hω : 0 < ω) (hδ : 0 ≤ δ) {dt : ℝ} (hdt : δ ≤ dt)
    (hx : 0 ≤ x) (hy : 0 ≤ y) (h : 0.01 ≤ x + y) :
    pace v ω δ ≤ dt * min (x / 0.5) v + dt * min (y / 0.5) ω := by
  have hx' : 0 ≤ min (x / 0.5) v := le_min (by positivity) hv.le
  have hy' : 0 ≤ min (y / 0.5) ω := le_min (by positivity) hω.le
  have hlarge : min 0.01 (min v ω) ≤ min (x / 0.5) v + min (y / 0.5) ω := by
    obtain hxl | hyl : 0.005 ≤ x ∨ 0.005 ≤ y := by
      by_contra! hsmall
      linarith
    · refine le_add_of_le_of_nonneg (le_min ?_ ?_) hy'
      · exact (min_le_left _ _).trans ((le_div_iff₀ (by norm_num)).2 (by linarith))
      · exact (min_le_right _ _).trans (min_le_left _ _)
    · refine le_add_of_nonneg_of_le hx' (le_min ?_ ?_)
      · exact (min_le_left _ _).trans ((le_div_iff₀ (by norm_num)).2 (by linarith))
      · exact (min_le_right _ _).trans (min_le_right _ _)
  have hsum : 0 ≤ min (x / 0.5) v + min (y / 0.5) ω := add_nonneg hx' hy'
  calc pace v ω δ ≤ δ * (min (x / 0.5) v + min (y / 0.5) ω) :=
        mul_le_mul_of_nonneg_left hlarge hδ
    _ ≤ dt * (min (x / 0.5) v + min (y / 0.5) ω) := mul_le_mul_of_nonneg_right hdt hsum
    _ = dt * min (x / 0.5) v + dt * min (y / 0.5) ω := mul_add _ _ _

theorem Moving.toGo_ge (h : r.Moving start goal v ω) : 0.01 ≤ r.toGo goal := by
  have hfar := h.far
  have hturn := abs_normalize_le (goal.theta - r.pose.theta)
  rw [Pose2D.norm, Pose2D.distance_relativeTo, Pose2D.theta_relativeTo] at hfar
  rw [toGo, Real.norm_eq_abs]
  linarith

theorem moving_step (h : r.Moving start goal v ω) (hv : 0 < v) (hω : 0 < ω) (hδ : 0 < δ)
    (hp : p.Steady δ) :
    ((r.period p).Moving start goal v ω ∨ (r.period p).Arrived start goal) ∧
      (r.period p).toGo goal + pace v ω δ ≤ r.toGo goal := by
  obtain ⟨a, ha, hs, hg, hav, haω⟩ := h.action
  obtain ⟨c, hperiod, he, hl, hpose⟩ := period_busy h.toRolls ha hp.engaged
  have hc := hpose _ h.wheels
  have hdt : 0 ≤ p.timeStep := hδ.le.trans hp.short
  obtain ⟨hway, hturn⟩ := advance_errors hv hω hp.long goal r.pose
  have hb := between_advance h.between hv hω hdt hp.long
  rw [← hc] at hway hturn hb
  have hstart : a.start c = a := by
    rw [MoveAction.start, if_neg (by simp [hs])]
  rw [← hstart] at hs hg hav haω
  obtain ⟨hsame, hnext⟩ := act_cases (r := r) he hl hs hg hav haω hb
  rw [hperiod]
  refine ⟨hnext, ?_⟩
  have hpace := pace_le hv hω hδ.le hp.short (norm_nonneg (goal.spot - r.pose.spot))
    (norm_nonneg (goal.theta - r.pose.theta)) h.toGo_ge
  rw [toGo, hsame, hway, hturn, toGo]
  linarith

/-- The first period of an action takes the goal from where the robot has come to. -/
theorem started_step (h : r.Rolls) (ha : r.move = some a) (hs : a.state = .started)
    (hp : p.Steady δ) :
    let start := (r.period p).pose
    (r.period p).Moving start (start.compose a.goal) a.linearSpeed a.angularSpeed ∨
      (r.period p).Arrived start (start.compose a.goal) := by
  obtain ⟨c, hperiod, he, hl, -⟩ := period_busy h ha hp.engaged
  have hstart : a.start c =
      { a with goalOdom := c.odometry.pose.compose a.goal, state := .running } := by
    rw [MoveAction.start, if_pos hs]
  have hs' : (a.start c).state = .running := by rw [hstart]
  obtain ⟨hsame, hnext⟩ := act_cases (r := r) he hl hs' rfl rfl rfl (.start _ _)
  rw [hperiod, hsame]
  rw [hstart] at hnext
  exact hnext

section run

variable {ins : Nat → Period}

theorem moving_leads (hv : 0 < v) (hω : 0 < ω) (hδ : 0 < δ) (hins : ∀ n, (ins n).Steady δ) :
    LeadsTo (r.after ins) (Moving start goal v ω) (Arrived start goal) :=
  .of_rank (toGo goal) (pace_pos hv hω hδ) (fun _ h => le_trans (by norm_num) h.toGo_ge)
    fun n h => by
      obtain ⟨hnext, hless⟩ := moving_step h hv hω hδ (hins n)
      exact hnext.symm.imp_right fun hm => ⟨hm, hless⟩

theorem Rolls.serve (h : r.Rolls) {q : Request} (hq : q.Engaged) : (r.serve q).Rolls := by
  cases q with
  | chassisSpeedMode => exact ⟨h.engaged, h.level⟩
  | setWheelSpeed => exact ⟨h.engaged, h.level⟩
  | positionMove =>
    rw [Robot.serve, moveBase, submitAction]
    cases r.move with
    | none => exact ⟨h.engaged, h.level⟩
    | some a => exact h
  | chassisSetWorkMode mode =>
    have hmode : (mode != 0) = true := by
      rw [bne_iff_ne]
      rintro rfl
      exact hq rfl
    rw [Robot.serve, hmode, engageWheelMotors, if_pos h.engaged.symm]
    exact h

theorem Rolls.serve_all {qs : List Request} (h : r.Rolls) (hqs : ∀ q ∈ qs, q.Engaged) :
    (qs.foldl Robot.serve r).Rolls := by
  induction qs generalizing r with
  | nil => exact h
  | cons q qs ih =>
    rw [List.forall_mem_cons] at hqs
    exact ih (h.serve hqs.1) hqs.2

theorem control_rolls (he : c.wheelMotorsEngaged = true)
    (hl : c.attitude.yaw = c.odometry.pose.theta) (move : Option MoveAction)
    (previousMove : Option ActionState) : Rolls ⟨c.control, move, previousMove⟩ := by
  obtain ⟨w, hcontrol, -⟩ := Chassis.control_engaged he
  rw [hcontrol]
  exact ⟨he, hl⟩

theorem doStep_chassis (a : MoveAction) (c : Chassis) :
    ∃ speeds, (a.doStep c).2 = c.setWheelSpeeds speeds := by
  rw [MoveAction.doStep]
  dsimp only
  split
  · split
    · exact ⟨_, rfl⟩
    · exact ⟨_, rfl⟩
  · exact ⟨c.wheelSpeeds.desired, rfl⟩

theorem Rolls.period (h : r.Rolls) (hp : ∀ q ∈ p.requests, q.Engaged) : (r.period p).Rolls := by
  have hserved := h.serve_all hp
  rw [Robot.period, DummyRobot.doStep, doStep]
  dsimp only
  cases (p.requests.foldl Robot.serve r).move with
  | none =>
    apply control_rolls
    · exact hserved.engaged
    · rfl
  | some a =>
    dsimp only
    obtain ⟨speeds, hstep⟩ := doStep_chassis a _
    rw [hstep]
    split
    · apply control_rolls
      · exact hserved.engaged
      · rfl
    · apply control_rolls
      · exact hserved.engaged
      · rfl

theorem rolls_after (hins : ∀ n, (ins n).Steady δ) (n : Nat) : (fresh.after ins n).Rolls := by
  induction n with
  | zero => exact ⟨rfl, rfl⟩
  | succ n ih => exact ih.period (hins n).engaged

variable {before : Nat → Period} {qs : List Request} {target : Pose2D} {m : Nat}

/-- A move that is accepted goes straight to its goal and ends there, whatever else is asked of the
robot meanwhile. -/
theorem move_reaches (hδ : 0 < δ) (hbefore : ∀ n, (before n).Steady δ)
    (hqs : ∀ q ∈ qs, q.Engaged) (hfree : (qs.foldl serve (fresh.after before m)).move = none)
    (hv : 0 < v) (hω : 0 < ω) (hins : ∀ n, (ins n).Steady δ) :
    let r := ((qs.foldl serve (fresh.after before m)).moveBase target v ω).2
    let start := (r.after ins 1).pose
    let goal := start.compose target
    ∃ n, (r.after ins (n + 1)).Arrived start goal ∧
      ∀ k < n, (r.after ins (k + 1)).Moving start goal v ω := by
  intro r start goal
  have hrolls := (rolls_after hbefore m).serve_all hqs
  have hmove : r.move = some { MoveAction.new target v ω with state := .started } ∧
      r.chassis = (qs.foldl serve (fresh.after before m)).chassis := by
    simp only [r, moveBase, submitAction]
    rw [hfree]
    exact ⟨rfl, rfl⟩
  have hlead : LeadsTo (r.after ins) (Moving start goal v ω) (Arrived start goal) :=
    moving_leads hv hω hδ hins
  have hr : r.Rolls := by
    constructor
    · rw [hmove.2]
      exact hrolls.engaged
    · rw [pose, hmove.2]
      exact hrolls.level
  obtain hmoving | harrived := started_step hr hmove.1 rfl (hins 0)
  · obtain ⟨n, hn, harrived, hbefore⟩ := hlead.straight (n := 1) hmoving
      fun n hn => (moving_step hn hv hω hδ (hins n)).1
    obtain ⟨n, rfl⟩ := Nat.exists_eq_add_of_le' hn
    exact ⟨n, harrived, fun k hk => hbefore (k + 1) (by omega) (by omega)⟩
  · exact ⟨0, harrived, fun k hk => absurd hk k.not_lt_zero⟩

/-- Twenty steps a second. -/
noncomputable def steadily (requests : List Request) : Period := ⟨requests, 0.05⟩

theorem steady_steadily {qs : List Request} (h : ∀ q ∈ qs, q.Engaged) :
    (steadily qs).Steady 0.05 :=
  ⟨h, le_rfl, by norm_num [steadily]⟩

/-- The robot rolls when it is told where to go, and is told to spin all the while. -/
theorem move_reaches_rolling :
    let r := (((fresh.after (fun _ => steadily [])) 2).serve
      (.chassisSpeedMode 0.5 0 90)).moveBase ⟨1, 0.5, 7⟩ 0.5 1 |>.2
    let ins := fun _ => steadily [.setWheelSpeed 10 (-10) (-10) 10]
    let start := (r.after ins 1).pose
    let goal := start.compose ⟨1, 0.5, 7⟩
    ∃ n, (r.after ins (n + 1)).Arrived start goal ∧
      ∀ k < n, (r.after ins (k + 1)).Moving start goal 0.5 1 := by
  have hspeed : ∀ q ∈ [Request.chassisSpeedMode 0.5 0 90], q.Engaged := by
    simp [Request.Engaged]
  have hwheels : ∀ q ∈ [Request.setWheelSpeed 10 (-10) (-10) 10], q.Engaged := by
    simp [Request.Engaged]
  have hshort : (0 : ℝ) < 0.05 := by norm_num
  exact move_reaches hshort (fun _ => steady_steadily (by simp)) hspeed rfl (by norm_num)
    (by norm_num) fun _ => steady_steadily hwheels

end run

end Robot

end EscapeRoom.Sim
