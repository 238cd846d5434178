import Mathlib
import EscapeRoom.Driver
import EscapeRoom.MoveAction

namespace EscapeRoom.Sim
set_option autoImplicit true

open Temporal

/-- The fields of the message that asks for a move, as they are read. -/
structure PositionMove where
  actionId : BitVec 8
  actionCtrl : Nat
  freq : Nat
  posX : BitVec 16
  posY : BitVec 16
  posZ : BitVec 16
  velXyMax : BitVec 8
  aglOmgMax : BitVec 16

namespace PositionMove

noncomputable def pose (r : PositionMove) : Pose2D :=
  ⟨r.posX.toInt / 100.0, -r.posY.toInt / 100.0, deg2rad (r.posZ.toInt / 10.0)⟩

noncomputable def linearSpeed (r : PositionMove) : ℝ := (r.velXyMax.toNat + 70.0) / 160.0

noncomputable def angularSpeed (r : PositionMove) : ℝ := deg2rad (r.aglOmgMax.toInt / 10.0)

end PositionMove

noncomputable def pushFreq : Nat → ℝ
  | 0 => 1.0
  | 1 => 5.0
  | 2 => 10.0
  | _ => 1.0

def acceptCode : ActionState → Nat
  | .running => 0
  | .started => 0
  | .succeed => 2
  | _ => 1

/-- Rounding to the nearest integer, halves away from zero. -/
noncomputable def cRound (x : ℝ) : Int := if 0 ≤ x then ⌊x + 0.5⌋ else ⌈x - 0.5⌉

structure PositionPush where
  seqId : BitVec 16
  actionId : BitVec 8
  percent : Int
  actionState : ActionState
  posX : BitVec 16
  posY : BitVec 16
  posZ : BitVec 16

/-- What the server keeps of the client's side of a move. -/
structure ActionSDK where
  id : BitVec 8
  frequency : ℝ
  deadline : ℝ
  seqId : BitVec 16

noncomputable def MoveAction.percent (a : MoveAction) : Int :=
  if a.state = .succeed then 100
  else max 0 (100 - cRound (100.0 * a.remainingDuration / a.predictedDuration))

namespace ActionSDK

noncomputable def new (r : PositionMove) : ActionSDK := ⟨r.actionId, pushFreq r.freq, 0, 0⟩

/-- The push with the sequence number that is due. -/
noncomputable def updateMsg (action : MoveAction) (current : Pose2D) (s : ActionSDK) :
    PositionPush where
  seqId := s.seqId
  actionId := s.id
  percent := action.percent
  actionState := action.state
  posX := .ofInt 16 (cRound (100.0 * current.x))
  posY := -.ofInt 16 (cRound (100.0 * current.y))
  posZ := .ofInt 16 (cRound (10.0 * rad2deg current.theta))

/-- The callback of an action. -/
noncomputable def publish (timeStep : ℝ) (action : MoveAction) (current : Pose2D)
    (s : ActionSDK) : List PositionPush × ActionSDK :=
  let s := { s with deadline := s.deadline - timeStep }
  if action.state.done ∨ s.deadline ≤ 0 then
    let s := { s with deadline := s.deadline + 1.0 / s.frequency, seqId := s.seqId + 1 }
    ([s.updateMsg action current], s)
  else ([], s)

end ActionSDK

inductive Command where
  | request (q : Request)
  | positionMove (r : PositionMove)

/-- A robot with the client's side of its move, the moves that were accepted and the pushes. -/
structure MoveServer where
  robot : Robot
  sdk : Option ActionSDK
  accepted : List (BitVec 8)
  sent : List PositionPush

namespace MoveServer

def fresh : MoveServer := ⟨.fresh, none, [], []⟩

noncomputable def positionMove (r : PositionMove) (w : MoveServer) : MoveServer :=
  if r.actionCtrl = 0 then
    let (state, robot) := w.robot.moveBase r.pose r.linearSpeed r.angularSpeed
    if acceptCode state = 0 then
      { w with robot, sdk := some (.new r), accepted := w.accepted ++ [r.actionId] }
    else { w with robot }
  else w

noncomputable def answer (w : MoveServer) : Command → MoveServer
  | .request q => { w with robot := w.robot.serve q }
  | .positionMove r => w.positionMove r

/-- A step of the robot, with the callback of its move. -/
noncomputable def doStep (timeStep : ℝ) (w : MoveServer) : MoveServer :=
  let robot := DummyRobot.doStep timeStep w.robot
  match w.sdk, w.robot.move with
  | some s, some action =>
    let stepped := (action.doStep (w.robot.rolled timeStep)).1
    let (pushes, s) := s.publish timeStep stepped robot.pose
    { w with robot, sdk := if stepped.state.done then none else some s, sent := w.sent ++ pushes }
  | _, _ => { w with robot }

/-- The commands between two steps, and the second step. -/
structure Period where
  commands : List Command
  timeStep : ℝ

noncomputable def period (w : MoveServer) (p : Period) : MoveServer :=
  (p.commands.foldl answer w).doStep p.timeStep

noncomputable def after (w : MoveServer) (ins : Nat → Period) : Nat → MoveServer
  | 0 => w
  | n + 1 => (w.after ins n).period (ins n)

end MoveServer

/-- A command that keeps the wheels engaged, and turns no further than half a turn. -/
def Command.Sound : Command → Prop
  | .request q => q.Engaged
  | .positionMove r => 0 < r.aglOmgMax.toInt ∧ |r.posZ.toInt| ≤ 1800

structure MoveServer.Period.Steady (δ : ℝ) (p : MoveServer.Period) : Prop where
  sound : ∀ c ∈ p.commands, c.Sound
  short : δ ≤ p.timeStep
  long : p.timeStep ≤ 0.5

/-- Pushes of one move: numbered from one on, with a percentage that never falls. -/
structure Report (id : BitVec 8) (bound : Int) (pushes : List PositionPush) : Prop where
  ids : ∀ p ∈ pushes, p.actionId = id
  numbered : pushes.map PositionPush.seqId =
    (List.range pushes.length).map fun k => BitVec.ofNat 16 (k + 1)
  rising : pushes.Pairwise fun p p' => p.percent ≤ p'.percent
  percents : ∀ p ∈ pushes, 0 ≤ p.percent ∧ p.percent ≤ bound

/-- The pushes of a move that is under way. -/
structure Ongoing (id : BitVec 8) (pushes : List PositionPush) : Prop where
  report : Report id 100 pushes
  running : ∀ p ∈ pushes, p.actionState = .running

/-- The pushes of a move that has ended, the last of which says so. -/
def Finished (id : BitVec 8) (pushes : List PositionPush) : Prop :=
  ∃ running last, pushes = running ++ [last] ∧ Report id 100 pushes ∧
    (∀ p ∈ running, p.actionState = .running) ∧ last.actionState = .succeed ∧ last.percent = 100

/-- What a client is told: one report after the other, one for each accepted move. -/
def MoveServer.Told (w : MoveServer) : Prop :=
  ∃ (reports : List (BitVec 8 × List PositionPush)) (current : List PositionPush),
    (∀ x ∈ reports, Finished x.1 x.2) ∧
    w.accepted = reports.map Prod.fst ++ (w.sdk.map ActionSDK.id).toList ∧
    w.sent = (reports.map Prod.snd).flatten ++ current ∧
    (w.sdk = none → current = []) ∧ ∀ s, w.sdk = some s → Ongoing s.id current

section report

variable {id : BitVec 8} {bound : Int} {pushes : List PositionPush}

theorem Report.nil (id : BitVec 8) (bound : Int) : Report id bound [] :=
  ⟨by simp, rfl, .nil, by simp⟩

theorem Report.le (h : Report id bound pushes) {bound' : Int} (hle : bound ≤ bound') :
    Report id bound' pushes :=
  ⟨h.ids, h.numbered, h.rising, fun p hp => ⟨(h.percents p hp).1, (h.percents p hp).2.trans hle⟩⟩

theorem Report.concat (h : Report id bound pushes) {p : PositionPush} (hid : p.actionId = id)
    (hseq : p.seqId = BitVec.ofNat 16 (pushes.length + 1)) (hpos : 0 ≤ p.percent)
    (hle : bound ≤ p.percent) : Report id p.percent (pushes ++ [p]) := by
  constructor
  · intro p' hp'
    obtain hp' | hp' := List.mem_append.1 hp'
    · exact h.ids p' hp'
    · rw [List.mem_singleton.1 hp', hid]
  · rw [List.map_append, h.numbered, List.map_singleton, hseq, List.length_append,
      List.length_singleton, List.range_succ, List.map_append, List.map_singleton]
  · rw [List.pairwise_append]
    refine ⟨h.rising, List.pairwise_singleton _ _, fun p' hp' q hq => ?_⟩
    rw [List.mem_singleton.1 hq]
    exact (h.percents p' hp').2.trans hle
  · intro p' hp'
    obtain hp' | hp' := List.mem_append.1 hp'
    · exact ⟨(h.percents p' hp').1, (h.percents p' hp').2.trans hle⟩
    · rw [List.mem_singleton.1 hp']
      exact ⟨hpos, le_rfl⟩

end report

section percent

variable {a a' : MoveAction} {x y : ℝ}

theorem cRound_of_nonneg (h : 0 ≤ x) : cRound x = ⌊x + 0.5⌋ := if_pos h

theorem cRound_mono (hx : 0 ≤ x) (h : x ≤ y) : cRound x ≤ cRound y := by
  rw [cRound_of_nonneg hx, cRound_of_nonneg (hx.trans h)]
  exact Int.floor_mono (add_le_add_left h _)

theorem cRound_nonneg (h : 0 ≤ x) : 0 ≤ cRound x := by
  rw [cRound_of_nonneg h, Int.floor_nonneg]
  exact add_nonneg h (by norm_num)

theorem percent_succeed (h : a.state = .succeed) : a.percent = 100 := if_pos h

theorem percent_nonneg (a : MoveAction) : 0 ≤ a.percent := by
  rw [MoveAction.percent]
  split
  · norm_num
  · exact le_max_left _ _

theorem percent_le (h : 0 ≤ a.remainingDuration) (h' : 0 ≤ a.predictedDuration) :
    a.percent ≤ 100 := by
  rw [MoveAction.percent]
  split
  · exact le_rfl
  · have hround : 0 ≤ cRound (100.0 * a.remainingDuration / a.predictedDuration) :=
      cRound_nonneg (div_nonneg (mul_nonneg (by norm_num) h) h')
    exact max_le (by norm_num) (sub_le_self _ hround)

theorem percent_mono (hs : a.state ≠ .succeed) (hs' : a'.state ≠ .succeed)
    (hsame : a'.predictedDuration = a.predictedDuration) (hpos : 0 < a.predictedDuration)
    (hless : a'.remainingDuration ≤ a.remainingDuration) (hnonneg : 0 ≤ a'.remainingDuration) :
    a.percent ≤ a'.percent := by
  rw [MoveAction.percent, if_neg hs, MoveAction.percent, if_neg hs', hsame]
  have hhundred : (0 : ℝ) ≤ 100.0 := by norm_num
  apply max_le_max_left
  apply sub_le_sub_left
  apply cRound_mono (div_nonneg (mul_nonneg hhundred hnonneg) hpos.le)
  exact div_le_div_of_nonneg_right (mul_le_mul_of_nonneg_left hless hhundred) hpos.le

theorem abs_normalize_of_le {θ : ℝ} (h : |θ| ≤ Real.pi) : |normalize θ| = |θ| := by
  have hpi := Real.pi_pos
  have hturn : 2.0 * Real.pi = Real.pi + Real.pi := by
    norm_num
    ring
  have htwo : 0 < 2.0 * Real.pi := by linarith
  obtain ⟨hlow, hhigh⟩ := abs_le.1 h
  rw [normalize_eq]
  obtain rfl | hlt := hhigh.eq_or_lt
  · have hone : (Real.pi + Real.pi) / (2.0 * Real.pi) = 1 := by
      rw [hturn, div_self (by linarith)]
    rw [hone, Int.floor_one, Int.cast_one, mul_one, hturn, sub_add_cancel_left, abs_neg]
  · have hzero : ⌊(θ + Real.pi) / (2.0 * Real.pi)⌋ = 0 := by
      rw [Int.floor_eq_zero_iff]
      exact ⟨div_nonneg (by linarith) htwo.le, (div_lt_one htwo).2 (by linarith)⟩
    rw [hzero, Int.cast_zero, mul_zero, sub_zero]

variable {goal goal' : Pose2D} {v ω : ℝ}

theorem timeToGoal_nonneg (goal : Pose2D) (v : ℝ) (hω : 0 < ω) : 0 ≤ timeToGoal goal v ω :=
  le_max_of_le_left (div_nonneg (abs_nonneg _) hω.le)

theorem timeToGoal_pos (hv : 0 < v) (hω : 0 < ω) (hfar : 0.01 ≤ goal.norm) :
    0 < timeToGoal goal v ω := by
  rw [Pose2D.norm] at hfar
  obtain hturn | hturn := (abs_nonneg (normalize goal.theta)).eq_or_lt
  · rw [← hturn] at hfar
    exact lt_max_of_lt_right (div_pos (by linarith) hv)
  · exact lt_max_of_lt_left (div_pos hturn hω)

theorem timeToGoal_mono (hv : 0 < v) (hω : 0 < ω) (hway : goal'.distance ≤ goal.distance)
    (hturn : |goal'.theta| ≤ |goal.theta|) (hhalf : |goal.theta| ≤ Real.pi) :
    timeToGoal goal' v ω ≤ timeToGoal goal v ω := by
  rw [timeToGoal, timeToGoal, abs_normalize_of_le hhalf,
    abs_normalize_of_le (hturn.trans hhalf)]
  exact max_le_max (div_le_div_of_nonneg_right hturn hω.le)
    (div_le_div_of_nonneg_right hway hv.le)

end percent

namespace Robot

variable {r : Robot} {a : MoveAction} {c : Chassis} {dt : ℝ}

theorem doStep_near (hs : (a.start c).state = .running)
    (hnear : ((a.start c).goalOdom.relativeTo c.odometry.pose).norm < 0.01) :
    (a.doStep c).1.state = .succeed := by
  rw [MoveAction.doStep]
  dsimp only
  rw [if_pos hs, if_pos hnear]

theorem doStep_far (hs : (a.start c).state = .running)
    (hfar : 0.01 ≤ ((a.start c).goalOdom.relativeTo c.odometry.pose).norm) :
    (a.doStep c).1 = { a.start c with
      remainingDuration := timeToGoal ((a.start c).goalOdom.relativeTo c.odometry.pose)
        (a.start c).linearSpeed (a.start c).angularSpeed
      predictedDuration := if a.state = .started then
        timeToGoal ((a.start c).goalOdom.relativeTo c.odometry.pose) (a.start c).linearSpeed
          (a.start c).angularSpeed
        else (a.start c).predictedDuration } := by
  rw [MoveAction.doStep]
  dsimp only
  rw [if_pos hs, if_neg hfar.not_gt]
  simp only [decide_eq_true_eq]

/-- An action that moves the robot, with the time that it takes. -/
structure OnCourse (r : Robot) (a : MoveAction) : Prop where
  linear : 0 < a.linearSpeed
  angular : 0 < a.angularSpeed
  moving : ∃ start, r.Moving start a.goalOdom a.linearSpeed a.angularSpeed
  state : a.state = .running
  turn : |a.goalOdom.theta - r.pose.theta| ≤ Real.pi
  remaining : a.remainingDuration =
    timeToGoal (a.goalOdom.relativeTo r.pose) a.linearSpeed a.angularSpeed
  predicted : 0 < a.predictedDuration

/-- An action that has been accepted. -/
structure Accepted (a : MoveAction) : Prop where
  linear : 0 < a.linearSpeed
  angular : 0 < a.angularSpeed
  state : a.state = .started
  turn : |a.goal.theta| ≤ Real.pi

/-- What a step makes of an action that may have come as far as `percent`. -/
inductive Stepped (percent : Int) (r' : Robot) (a' : MoveAction) : Prop where
  | arrives (state : a'.state = .succeed) (idle : r'.move = none)
  | goes (move : r'.move = some a') (course : r'.OnCourse a') (rises : percent ≤ a'.percent)

theorem act_stepped {percent : Int} (start : Pose2D) (he : c.wheelMotorsEngaged = true)
    (hl : c.attitude.yaw = c.odometry.pose.theta) (hs : (a.start c).state = .running)
    (hv : 0 < (a.start c).linearSpeed) (hω : 0 < (a.start c).angularSpeed)
    (hb : c.odometry.pose.Between start (a.start c).goalOdom)
    (hturn : |(a.start c).goalOdom.theta - c.odometry.pose.theta| ≤ Real.pi)
    (hpred : a.state ≠ .started → 0 < (a.start c).predictedDuration)
    (hrises : 0.01 ≤ ((a.start c).goalOdom.relativeTo c.odometry.pose).norm →
      percent ≤ (a.doStep c).1.percent) :
    Stepped percent (r.act a c) (a.doStep c).1 := by
  obtain ⟨hsame, hnext⟩ := act_cases (r := r) he hl hs rfl rfl rfl hb
  obtain hnear | hfar := lt_or_ge ((a.start c).goalOdom.relativeTo c.odometry.pose).norm 0.01
  · obtain ⟨w, hact, -⟩ := act_near (r := r) he hs hnear
    rw [hact]
    exact .arrives (doStep_near hs hnear) rfl
  · have hstep := doStep_far hs hfar
    have hstate : (a.doStep c).1.state = .running := by rw [hstep, ← hs]
    have hmove : (r.act a c).move = some (a.doStep c).1 := by
      rw [act, if_neg (by simp [hstate, ActionState.done])]
    have hmoving := hnext.resolve_right fun harrived => by
      have hnear := harrived.near
      rw [hsame] at hnear
      exact hfar.not_gt hnear
    refine .goes hmove ?_ (hrises hfar)
    constructor
    · rw [hstep]
      exact hv
    · rw [hstep]
      exact hω
    · rw [hstep]
      exact ⟨start, hmoving⟩
    · exact hstate
    · rw [hstep, hsame]
      exact hturn
    · rw [hstep, hsame]
    · rw [hstep]
      dsimp only
      split
      · exact timeToGoal_pos hv hω hfar
      · exact hpred ‹_›

/-- The first step of an action. -/
theorem Accepted.step (h : Accepted a) (hr : r.Rolls) (ha : r.move = some a) (dt : ℝ) :
    Stepped 0 (DummyRobot.doStep dt r) (a.doStep (r.rolled dt)).1 := by
  have hstart : a.start (r.rolled dt) =
      { a with goalOdom := (r.rolled dt).odometry.pose.compose a.goal, state := .running } := by
    rw [MoveAction.start, if_pos h.state]
  rw [doStep_busy ha]
  apply act_stepped (r.rolled dt).odometry.pose
  · exact hr.engaged
  · rfl
  · rw [hstart]
  · rw [hstart]
    exact h.linear
  · rw [hstart]
    exact h.angular
  · exact .start _ _
  · rw [hstart, Pose2D.compose, add_sub_cancel_right]
    exact h.turn
  · exact fun hne => absurd h.state hne
  · exact fun _ => percent_nonneg _

/-- Every other step. -/
theorem OnCourse.step (h : r.OnCourse a) (ha : r.move = some a) (hdt : 0 ≤ dt) (hdt' : dt ≤ 0.5) :
    Stepped a.percent (DummyRobot.doStep dt r) (a.doStep (r.rolled dt)).1 := by
  obtain ⟨start, hm⟩ := h.moving
  have hne : a.state ≠ .started := by simp [h.state]
  have hstart : a.start (r.rolled dt) = a := by
    rw [MoveAction.start, if_neg hne]
  have hpose := rolled_pose hm.toRolls hm.wheels dt
  obtain ⟨hway, hturn⟩ := advance_errors h.linear h.angular hdt' a.goalOdom r.pose
  have hb := between_advance hm.between h.linear h.angular hdt hdt'
  rw [← hpose] at hway hturn hb
  have hspeed : 0 ≤ dt * min (‖a.goalOdom.spot - r.pose.spot‖ / 0.5) a.linearSpeed :=
    mul_nonneg hdt (le_min (div_nonneg (norm_nonneg _) (by norm_num)) h.linear.le)
  have hspin : 0 ≤ dt * min (‖a.goalOdom.theta - r.pose.theta‖ / 0.5) a.angularSpeed :=
    mul_nonneg hdt (le_min (div_nonneg (norm_nonneg _) (by norm_num)) h.angular.le)
  have hcloser : ‖a.goalOdom.spot - (r.rolled dt).odometry.pose.spot‖ ≤
      ‖a.goalOdom.spot - r.pose.spot‖ := by linarith
  have hturned : |a.goalOdom.theta - (r.rolled dt).odometry.pose.theta| ≤
      |a.goalOdom.theta - r.pose.theta| := by
    rw [← Real.norm_eq_abs, ← Real.norm_eq_abs]
    linarith
  rw [doStep_busy ha]
  apply act_stepped start
  · exact hm.engaged
  · rfl
  · rw [hstart]
    exact h.state
  · rw [hstart]
    exact h.linear
  · rw [hstart]
    exact h.angular
  · rw [hstart]
    exact hb
  · rw [hstart]
    exact hturned.trans h.turn
  · rw [hstart]
    exact fun _ => h.predicted
  · intro hfar
    have hs : (a.start (r.rolled dt)).state = .running := by
      rw [hstart]
      exact h.state
    rw [doStep_far hs hfar, hstart, if_neg hne]
    apply percent_mono
    · simp [h.state]
    · simp [h.state]
    · rfl
    · exact h.predicted
    · rw [h.remaining]
      apply timeToGoal_mono h.linear h.angular
      · rw [Pose2D.distance_relativeTo, Pose2D.distance_relativeTo]
        exact hcloser
      · rw [Pose2D.theta_relativeTo, Pose2D.theta_relativeTo]
        exact hturned
      · rw [Pose2D.theta_relativeTo]
        exact h.turn
    · exact timeToGoal_nonneg _ _ h.angular

/-- How far the pushes about an action have come, at most. -/
inductive Course (r : Robot) (a : MoveAction) : Int → Prop where
  | accepted (h : Accepted a) : Course r a 0
  | going (h : r.OnCourse a) : Course r a a.percent

theorem Course.step {percent : Int} (h : r.Course a percent) (hr : r.Rolls) (ha : r.move = some a)
    (hdt : 0 ≤ dt) (hdt' : dt ≤ 0.5) :
    Stepped percent (DummyRobot.doStep dt r) (a.doStep (r.rolled dt)).1 := by
  cases h with
  | accepted h => exact h.step hr ha dt
  | going h => exact h.step ha hdt hdt'

theorem Course.le {percent : Int} (h : r.Course a percent) : percent ≤ 100 := by
  cases h with
  | accepted => norm_num
  | going h =>
    apply percent_le _ h.predicted.le
    rw [h.remaining]
    exact timeToGoal_nonneg _ _ h.angular

/-- Requests leave the course as it is. -/
theorem Course.setWheelSpeeds {percent : Int} (h : r.Course a percent) (speeds : WheelSpeeds ℝ) :
    Course { r with chassis := r.chassis.setWheelSpeeds speeds } a percent := by
  cases h with
  | accepted h => exact .accepted h
  | going h =>
    obtain ⟨start, hm⟩ := h.moving
    exact .going ⟨h.linear, h.angular, ⟨start, ⟨hm.engaged, hm.level⟩, hm.action, hm.wheels, hm.far,
      hm.between⟩, h.state, h.turn, h.remaining, h.predicted⟩

end Robot

section publish

variable {s : ActionSDK} {a : MoveAction} {q : Pose2D} {dt : ℝ}

/-- What a callback sends. -/
inductive Published (s : ActionSDK) (a : MoveAction) : List PositionPush × ActionSDK → Prop where
  | push (p : PositionPush) (s' : ActionSDK) (seq : p.seqId = s.seqId + 1)
      (id : p.actionId = s.id) (percent : p.percent = a.percent) (state : p.actionState = a.state)
      (seq' : s'.seqId = s.seqId + 1) (id' : s'.id = s.id) : Published s a ([p], s')
  | silent (s' : ActionSDK) (going : a.state.done = false) (seq' : s'.seqId = s.seqId)
      (id' : s'.id = s.id) : Published s a ([], s')

theorem publish_published (s : ActionSDK) (a : MoveAction) (q : Pose2D) (dt : ℝ) :
    Published s a (s.publish dt a q) := by
  rw [ActionSDK.publish]
  dsimp only
  split
  · exact .push _ _ rfl rfl rfl rfl rfl rfl
  · rename_i hquiet
    rw [not_or, Bool.not_eq_true] at hquiet
    exact .silent _ hquiet.1 rfl rfl

end publish

namespace MoveServer

variable {w : MoveServer} {reports : List (BitVec 8 × List PositionPush)} {dt : ℝ}

/-- What has been sent, sorted into reports. -/
inductive Ledger (w : MoveServer) (reports : List (BitVec 8 × List PositionPush)) : Prop where
  | idle (sdk : w.sdk = none) (accepted : w.accepted = reports.map Prod.fst)
      (sent : w.sent = (reports.map Prod.snd).flatten)
  | busy (s : ActionSDK) (a : MoveAction) (percent : Int) (pushes : List PositionPush)
      (sdk : w.sdk = some s) (move : w.robot.move = some a) (course : w.robot.Course a percent)
      (seqId : s.seqId = BitVec.ofNat 16 pushes.length) (report : Report s.id percent pushes)
      (running : ∀ p ∈ pushes, p.actionState = .running)
      (accepted : w.accepted = reports.map Prod.fst ++ [s.id])
      (sent : w.sent = (reports.map Prod.snd).flatten ++ pushes)

structure Accounted (w : MoveServer) : Prop where
  rolls : w.robot.Rolls
  ledger : ∃ reports, (∀ x ∈ reports, Finished x.1 x.2) ∧ Ledger w reports

theorem Accounted.told (h : w.Accounted) : w.Told := by
  obtain ⟨reports, hfinished, hledger⟩ := h.ledger
  cases hledger with
  | idle sdk accepted sent =>
    refine ⟨reports, [], hfinished, ?_, ?_, fun _ => rfl, fun s hs => ?_⟩
    · rw [accepted, sdk]
      exact (List.append_nil _).symm
    · rw [sent, List.append_nil]
    · rw [sdk] at hs
      cases hs
  | busy s a percent pushes sdk move course seqId report running accepted sent =>
    refine ⟨reports, pushes, hfinished, ?_, sent, fun hnone => ?_, fun s' hs' => ?_⟩
    · rw [accepted, sdk]
      rfl
    · rw [sdk] at hnone
      cases hnone
    · rw [sdk] at hs'
      cases hs'
      exact ⟨report.le course.le, running⟩

theorem linearSpeed_pos (r : PositionMove) : 0 < r.linearSpeed := by
  have hvel : (0 : ℝ) ≤ r.velXyMax.toNat := Nat.cast_nonneg _
  exact div_pos (add_pos_of_nonneg_of_pos hvel (by norm_num)) (by norm_num)

theorem angularSpeed_pos {r : PositionMove} (h : 0 < r.aglOmgMax.toInt) : 0 < r.angularSpeed := by
  have hagl : (0 : ℝ) < r.aglOmgMax.toInt := Int.cast_pos.2 h
  exact div_pos (mul_pos Real.pi_pos (div_pos hagl (by norm_num))) (by norm_num)

theorem abs_turn_le {r : PositionMove} (h : |r.posZ.toInt| ≤ 1800) : |r.pose.theta| ≤ Real.pi := by
  have hpos : |(r.posZ.toInt : ℝ)| ≤ 1800 := by exact_mod_cast h
  have htheta : r.pose.theta = Real.pi * (r.posZ.toInt / 1800) := by
    rw [PositionMove.pose, deg2rad]
    norm_num
    ring
  rw [htheta, abs_mul, abs_of_pos Real.pi_pos, abs_div, abs_of_pos (by norm_num : (0 : ℝ) < 1800)]
  exact mul_le_of_le_one_right Real.pi_pos.le ((div_le_one (by norm_num)).2 hpos)

theorem Accounted.answer (h : w.Accounted) {c : Command} (hc : c.Sound) :
    (w.answer c).Accounted := by
  obtain ⟨reports, hfinished, hledger⟩ := h.ledger
  cases c with
  | request q =>
    refine ⟨h.rolls.serve hc, reports, hfinished, ?_⟩
    cases hledger with
    | idle sdk accepted sent => exact .idle sdk accepted sent
    | busy s a percent pushes sdk move course seqId report running accepted sent =>
      obtain ⟨speeds, hserve⟩ := Robot.serve_busy move h.rolls.engaged hc
      refine .busy s a percent pushes sdk ?_ ?_ seqId report running accepted sent
      · rw [MoveServer.answer, hserve]
        exact move
      · rw [MoveServer.answer, hserve]
        exact course.setWheelSpeeds speeds
  | positionMove r =>
    rw [MoveServer.answer, positionMove]
    split
    · rw [Robot.moveBase]
      cases hmove : w.robot.move with
      | some a =>
        rw [Robot.submitAction_busy hmove]
        exact h
      | none =>
        let a := { MoveAction.new r.pose r.linearSpeed r.angularSpeed with state := .started }
        have haccept : w.robot.submitAction (.new r.pose r.linearSpeed r.angularSpeed) =
            (.started, { w.robot with move := some a }) := by
          rw [Robot.submitAction, hmove]
        rw [haccept]
        refine ⟨⟨h.rolls.engaged, h.rolls.level⟩, reports, hfinished, ?_⟩
        cases hledger with
        | idle sdk accepted sent =>
          refine .busy (.new r) _ 0 [] rfl rfl (.accepted ?_) rfl (.nil _ _) (by simp) ?_ ?_
          · exact ⟨linearSpeed_pos r, angularSpeed_pos hc.1, rfl, abs_turn_le hc.2⟩
          · exact congrArg (· ++ [r.actionId]) accepted
          · exact sent.trans (List.append_nil _).symm
        | busy s a percent pushes sdk move =>
          rw [hmove] at move
          cases move
    · exact h

theorem doStep_idle (h : w.sdk = none) (dt : ℝ) :
    w.doStep dt = { w with robot := DummyRobot.doStep dt w.robot } := by
  rw [MoveServer.doStep]
  split
  · rename_i s _ hs _
    rw [h] at hs
    cases hs
  · rfl

theorem Accounted.doStep (h : w.Accounted) (hdt : 0 ≤ dt) (hdt' : dt ≤ 0.5) :
    (w.doStep dt).Accounted := by
  obtain ⟨reports, hfinished, hledger⟩ := h.ledger
  have hrolls : (DummyRobot.doStep dt w.robot).Rolls :=
    h.rolls.period (p := ⟨[], dt⟩) (by simp)
  cases hledger with
  | idle sdk accepted sent =>
    rw [doStep_idle sdk]
    exact ⟨hrolls, reports, hfinished, .idle sdk accepted sent⟩
  | busy s a percent pushes sdk move course seqId report running accepted sent =>
    rw [MoveServer.doStep, sdk, move]
    dsimp only
    have hstepped := course.step h.rolls move hdt hdt'
    have hpublished := publish_published s (a.doStep (w.robot.rolled dt)).1
      (DummyRobot.doStep dt w.robot).pose dt
    generalize (a.doStep (w.robot.rolled dt)).1 = a' at hstepped hpublished ⊢
    generalize s.publish dt a' _ = out at hpublished ⊢
    have hnext : s.seqId + 1 = BitVec.ofNat 16 (pushes.length + 1) := by
      rw [seqId, BitVec.ofNat_add]
      rfl
    cases hpublished with
    | push p s' seq id percent' state seq' id' =>
      have hp : 0 ≤ p.percent := percent' ▸ percent_nonneg a'
      cases hstepped with
      | arrives hstate hidle =>
        have hdone : a'.state.done = true := by rw [hstate]; rfl
        have hlast : p.percent = 100 := percent'.trans (percent_succeed hstate)
        have hreport := report.concat id (seq.trans hnext) hp (hlast ▸ course.le)
        rw [hlast] at hreport
        refine ⟨hrolls, reports ++ [(s.id, pushes ++ [p])], ?_, .idle (if_pos hdone) ?_ ?_⟩
        · intro x hx
          obtain hx | hx := List.mem_append.1 hx
          · exact hfinished x hx
          · rw [List.mem_singleton.1 hx]
            exact ⟨pushes, p, rfl, hreport, running, state.trans hstate, hlast⟩
        · rw [List.map_append]
          exact accepted
        · rw [List.map_append, List.flatten_append]
          dsimp only
          rw [sent, List.append_assoc]
          simp
      | goes hmove hcourse hrises =>
        have hdone : ¬ a'.state.done = true := by
          simp [hcourse.state, ActionState.done]
        have hreport := report.concat id (seq.trans hnext) hp (percent' ▸ hrises)
        refine ⟨hrolls, reports, hfinished, .busy s' a' a'.percent (pushes ++ [p]) (if_neg hdone)
          hmove (.going hcourse) ?_ ?_ ?_ ?_ ?_⟩
        · rw [seq', hnext, List.length_append, List.length_singleton]
        · rw [id', ← percent']
          exact hreport
        · intro p' hp'
          obtain hp' | hp' := List.mem_append.1 hp'
          · exact running p' hp'
          · rw [List.mem_singleton.1 hp', state, hcourse.state]
        · rw [id']
          exact accepted
        · dsimp only
          rw [sent, List.append_assoc]
    | silent s' going seq' id' =>
      cases hstepped with
      | arrives hstate hidle =>
        rw [hstate] at going
        cases going
      | goes hmove hcourse hrises =>
        refine ⟨hrolls, reports, hfinished, .busy s' a' a'.percent pushes
          (if_neg (by simp [going])) hmove (.going hcourse) ?_ ?_ running ?_ ?_⟩
        · rw [seq', seqId]
        · rw [id']
          exact report.le hrises
        · rw [id']
          exact accepted
        · dsimp only
          rw [sent, List.append_nil]

section run

variable {ins : Nat → Period} {δ : ℝ}

theorem Accounted.answer_all {cs : List Command} (h : w.Accounted) (hcs : ∀ c ∈ cs, c.Sound) :
    (cs.foldl MoveServer.answer w).Accounted := by
  induction cs generalizing w with
  | nil => exact h
  | cons c cs ih =>
    rw [List.forall_mem_cons] at hcs
    exact ih (h.answer hcs.1) hcs.2

theorem accounted_after (hδ : 0 < δ) (hins : ∀ n, (ins n).Steady δ) (n : Nat) :
    (fresh.after ins n).Accounted := by
  induction n with
  | zero => exact ⟨⟨rfl, rfl⟩, [], by simp, .idle rfl rfl rfl⟩
  | succ n ih =>
    exact (ih.answer_all (hins n).sound).doStep (hδ.le.trans (hins n).short) (hins n).long

end run

end MoveServer

/-- What a command asks of the robot. -/
noncomputable def Command.request? : Command → Option Request
  | .request q => some q
  | .positionMove r =>
    if r.actionCtrl = 0 then some (.positionMove r.pose r.linearSpeed r.angularSpeed) else none

theorem Command.Sound.engaged {c : Command} (h : c.Sound) {q : Request} (hq : c.request? = some q) :
    q.Engaged := by
  cases c with
  | request q' =>
    cases hq
    exact h
  | positionMove r =>
    rw [Command.request?] at hq
    split at hq
    · cases hq
      exact nofun
    · cases hq

namespace MoveServer

noncomputable def Period.robot (p : Period) : Robot.Period :=
  ⟨p.commands.filterMap Command.request?, p.timeStep⟩

theorem Period.Steady.robot {p : Period} {δ : ℝ} (h : p.Steady δ) : p.robot.Steady δ := by
  refine ⟨fun q hq => ?_, h.short, h.long⟩
  obtain ⟨c, hc, hq⟩ := List.mem_filterMap.1 hq
  exact (h.sound c hc).engaged hq

variable {w : MoveServer} {ins : Nat → Period} {δ : ℝ}

theorem answer_robot (w : MoveServer) (c : Command) :
    (w.answer c).robot = c.request?.elim w.robot w.robot.serve := by
  cases c with
  | request q => rfl
  | positionMove r =>
    rw [answer, positionMove, Command.request?]
    split
    · dsimp only
      split
      · rfl
      · rfl
    · rfl

theorem doStep_robot (w : MoveServer) (dt : ℝ) :
    (w.doStep dt).robot = DummyRobot.doStep dt w.robot := by
  rw [doStep]
  dsimp only
  split
  · rfl
  · rfl

theorem answer_all_robot (w : MoveServer) (cs : List Command) :
    (cs.foldl answer w).robot = (cs.filterMap Command.request?).foldl Robot.serve w.robot := by
  induction cs generalizing w with
  | nil => rfl
  | cons c cs ih =>
    rw [List.foldl_cons, ih, answer_robot, List.filterMap_cons]
    cases c.request? with
    | none => rfl
    | some q => rfl

/-- The robot goes its way whatever the client is told. -/
theorem after_robot (w : MoveServer) (ins : Nat → Period) (n : Nat) :
    (w.after ins n).robot = w.robot.after (fun n => (ins n).robot) n := by
  induction n with
  | zero => rfl
  | succ n ih => rw [after, period, doStep_robot, answer_all_robot, ih]; rfl

theorem Accounted.sdk_none (h : w.Accounted) (hidle : w.robot.move = none) : w.sdk = none := by
  obtain ⟨reports, -, hledger⟩ := h.ledger
  cases hledger with
  | idle sdk => exact sdk
  | busy s a percent pushes sdk move => exact absurd (hidle.symm.trans move) nofun

theorem completed (hδ : 0 < δ) (hins : ∀ n, (ins n).Steady δ) (n : Nat) :
    ∃ m, n ≤ m ∧ (fresh.after ins m).sdk = none := by
  have hrobot := after_robot fresh ins
  have hsteady : ∀ n, (ins n).robot.Steady δ := fun n => (hins n).robot
  have hend {m : Nat} {start goal : Pose2D}
      (harrived : (fresh.robot.after (fun n => (ins n).robot) m).Arrived start goal) :
      (fresh.after ins m).sdk = none := by
    apply (accounted_after hδ hins m).sdk_none
    rw [hrobot]
    exact harrived.idle
  have hlead {m : Nat} {start goal : Pose2D} {v ω : ℝ} (hv : 0 < v) (hω : 0 < ω)
      (hmoving : (fresh.robot.after (fun n => (ins n).robot) m).Moving start goal v ω) :
      ∃ k, m ≤ k ∧ (fresh.after ins k).sdk = none := by
    obtain ⟨k, hk, harrived⟩ := Robot.moving_leads hv hω hδ hsteady m hmoving
    exact ⟨k, hk, hend harrived⟩
  have haccounted := accounted_after hδ hins n
  obtain ⟨reports, -, hledger⟩ := haccounted.ledger
  cases hledger with
  | idle sdk => exact ⟨n, le_rfl, sdk⟩
  | busy s a percent pushes sdk move course =>
    have hrolls := haccounted.rolls
    rw [hrobot] at move course hrolls
    cases course with
    | accepted h =>
      obtain hmoving | harrived := Robot.started_step hrolls move h.state (hsteady n)
      · obtain ⟨k, hk, hnone⟩ := hlead (m := n + 1) h.linear h.angular hmoving
        exact ⟨k, (Nat.le_succ n).trans hk, hnone⟩
      · exact ⟨n + 1, Nat.le_succ n, hend (m := n + 1) harrived⟩
    | going h =>
      obtain ⟨start, hmoving⟩ := h.moving
      exact hlead h.linear h.angular hmoving

/-- In every run the client is told of each accepted move in turn, with one report that ends when
the move does, and every move that is under way does end. -/
theorem moves_reported (hδ : 0 < δ) (hins : ∀ n, (ins n).Steady δ) :
    (∀ n, (fresh.after ins n).Told) ∧ ∀ n, ∃ m, n ≤ m ∧ (fresh.after ins m).sdk = none :=
  ⟨fun n => (accounted_after hδ hins n).told, completed hδ hins⟩

/-- Half a metre ahead, again and again, while the wheels are told to spin. -/
noncomputable def insisting : Period where
  commands := [.positionMove ⟨7, 0, 2, 50, 0, 900, 10, 300⟩, .request (.setWheelSpeed 10 9 8 7)]
  timeStep := 0.05

theorem moves_reported_insisting :
    (∀ n, (fresh.after (fun _ => insisting) n).Told) ∧
      ∀ n, ∃ m, n ≤ m ∧ (fresh.after (fun _ => insisting) m).sdk = none := by
  have hsound : ∀ c ∈ insisting.commands, c.Sound := by
    simp [insisting, Command.Sound, Request.Engaged]
  exact moves_reported (by norm_num : (0 : ℝ) < 0.05) fun _ =>
    ⟨hsound, le_rfl, by norm_num [insisting]⟩

end MoveServer

end EscapeRoom.Sim
