import EscapeRoom.Equipped
import EscapeRoom.Velocity

namespace EscapeRoom
set_option autoImplicit true
set_option linter.unusedSectionVars false

variable {R : Type} [Field R] [LinearOrder R] [PyMath R]

/-- Facing the cube and near enough to freeze the rest of the way. -/
def cubeAhead (p : Params R) (bx by_ : R) : Bool :=
  decide (|PyMath.atan2 by_ bx| ≤ p.alignYawTol) &&
    decide (PyMath.hypot bx by_ ≤ p.pickupLungeStart)

/-- Facing the plate at the distance of the drop. -/
def plateAhead (p : Params R) (b : R × R) : Bool :=
  decide (|PyMath.atan2 b.2 b.1| ≤ p.alignYawTol) &&
    decide (|PyMath.hypot b.1 b.2 - (p.pickupEngageDist + p.pickupLungeMargin)| ≤ 0.03)

namespace Node

/-- The measurement that the handler of a driving mode needs is missing. -/
def blind (p : Params R) (i : TickIn R) (s : Node R) : Bool :=
  match s.mode with
  | .pickupAlign =>
    if s.lungeActive then (getOdomPose i.odomTf).isNone
    else if s.cubeFresh p i then
      s.cubeLive.any (fun c => cubeAhead p c.1 c.2.1) && (getOdomPose i.odomTf).isNone
    else true
  | .dropAlign => (getRobotPose i.mapTf).isNone
  | .dropBackup => (getOdomPose i.odomTf).isNone
  | _ => false

/-- Not yet `dist` away from `start`. -/
def short (pose start : R × R) (dist : R) : Bool :=
  decide (PyMath.hypot (pose.1 - start.1) (pose.2 - start.2) < dist)

/-- With its measurements at hand, the handler has some way to go. -/
def drives (p : Params R) (i : TickIn R) (s : Node R) : Bool :=
  match s.mode with
  | .pickupAlign =>
    if s.lungeActive then
      (getOdomPose i.odomTf).any fun pose => s.lungeStart.any fun start =>
        short pose start s.lungeDist
    else s.cubeFresh p i && s.cubeLive.any fun c => !cubeAhead p c.1 c.2.1
  | .dropAlign =>
    (getRobotPose i.mapTf).any fun pose => (s.targets .plate).any fun plate =>
      !plateAhead p (plateInBase pose.1 pose.2.1 pose.2.2 plate.1 plate.2)
  | .dropBackup =>
    (getOdomPose i.odomTf).any fun pose => s.backupStart.any fun start =>
      short pose start p.dropBackupDist
  | _ => false

end Node

/-- A tick with its measurements decides anew whether the robot is under way. -/
def coastStep (p : Params R) (c : Outcome R × Bool) (e : Event R) : Outcome R × Bool :=
  (step p c.1 e, match e with
    | .tick i => if c.1.node.blind p i then c.2 else c.1.node.drives p i
    | _ => c.2)

/-- The last tick that had its measurements at hand set the robot going. -/
def coasting (p : Params R) (es : List (Event R)) : Bool :=
  (Runs.run (coastStep p) (.ok .init, false) es).2

/-- After a tick without its measurement the last Twist is zero. -/
def DeadMan (p : Params R) (es : List (Event R)) : Prop :=
  ∀ pre i, pre ++ [.tick i] <+: es → (missionRun p pre).raised = none →
    (missionRun p pre).node.blind p i = true →
      lastTwist (missionRun p (pre ++ [.tick i])).node.out = some .zero

/-- A measurement is lost only while the robot is not under way. -/
def LostAtRest (p : Params R) (es : List (Event R)) : Prop :=
  ∀ pre i, pre ++ [.tick i] <+: es → (missionRun p pre).raised = none →
    (missionRun p pre).node.blind p i = true → coasting p pre = false

/-- Gains and limits with which every correction moves the wheels. -/
structure Params.Geared (p : Params R) : Prop where
  speed : 0 < p.parkMaxSpeed
  omega : 0 < p.alignMaxOmega
  gain : 0 < p.alignKp
  tol : 0 ≤ p.alignYawTol
  near : p.pickupEngageDist ≤ p.pickupLungeStart

/-- A tick of a started node keeps the last Twist when blind, sets the wheels in motion when it
drives, and otherwise leaves no driving mode without a stop. -/
inductive Coast (p : Params R) (i : TickIn R) (s : Node R) : Outcome R → Prop where
  | blind (hb : s.blind p i = true) : Coast p i s (.ok s)
  | driven (hb : s.blind p i = false) (hd : s.drives p i = true) (t : Twist R)
      (ht : p.Geared → t ≠ .zero) : Coast p i s (.ok (s.emit (.twist t)))
  | halted (hb : s.blind p i = false) (hd : s.drives p i = false)
      (hh : o.raised = none → o.node.mode.drives = true → lastTwist o.node.out = some .zero) :
      Coast p i s o

section gears

variable [IsStrictOrderedRing R]

theorem clamp_ne_zero {x m : R} (hm : 0 < m) (hx : x ≠ 0) : clamp x (-m) m ≠ 0 := by
  rcases lt_or_gt_of_ne hx with h | h
  · apply ne_of_lt
    apply max_lt (neg_lt_zero.2 hm)
    exact lt_of_le_of_lt (min_le_right _ _) h
  · apply ne_of_gt
    apply lt_max_of_lt_right
    exact lt_min hm h

variable {p : Params R}

theorem turn_ne_zero (hp : p.Geared) {bearing : R} (hb : p.alignYawTol < |bearing|) :
    driveTwist p 0 (p.alignKp * bearing) true ≠ .zero := by
  intro h
  have hne : bearing ≠ 0 := abs_pos.1 (hp.tol.trans_lt hb)
  exact clamp_ne_zero hp.omega (mul_ne_zero hp.gain.ne' hne) (congrArg Twist.angularZ h)

theorem move_ne_zero (hp : p.Geared) {err : R} (he : err ≠ 0) (angular : R) :
    driveTwist p (0.5 * err) angular true ≠ .zero := by
  intro h
  have hhalf : (0.5 : R) * err ≠ 0 := mul_ne_zero (by norm_num) he
  exact clamp_ne_zero hp.speed hhalf (congrArg Twist.linearX h)

theorem uncapped_ne_zero {linear : R} (hl : linear ≠ 0) (angular : R) :
    driveTwist p linear angular false ≠ .zero := by
  intro h
  exact hl (congrArg Twist.linearX h)

theorem lastTwist_emit_twist (s : Node R) (t : Twist R) :
    lastTwist (s.emit (.twist t)).out = some t := lastTwist_append rfl

@[simp] theorem lastTwist_stop (s : Node R) : lastTwist s.stop.out = some .zero :=
  lastTwist_emit_twist s .zero

theorem quiet_of_parked (p : Params R) (i : TickIn R) {s : Node R} (hd : s.mode.drives = false) :
    s.blind p i = false ∧ s.drives p i = false := by
  cases hm : s.mode <;> simp_all [Node.blind, Node.drives, State.drives]

theorem TickStep.coast_parked {i : TickIn R} {s : Node R} (h : TickStep p i s o)
    (hd : s.mode.drives = false) : Coast p i s o := by
  apply Coast.halted
  · exact (quiet_of_parked p i hd).1
  · exact (quiet_of_parked p i hd).2
  · intro _ hd'
    obtain ⟨cs, ho, hstep⟩ := h.mission
    rw [ho]
    rcases hstep.twists_eq with ⟨_, hm | ⟨_, hm⟩⟩ | hc | ⟨_, _, _, hm, _⟩
    · rw [hm, hd] at hd'
      cases hd'
    · rw [hm] at hd'
      cases hd'
    · exact lastTwist_append hc
    · rw [hd] at hm
      cases hm

theorem TickStep.coast {i : TickIn R} {s : Node R} (h : TickStep p i s o)
    (hs : Equipped s) : Coast p i s o := by
  cases hd : s.mode.drives with
  | false => exact h.coast_parked hd
  | true =>
    have hstart : s.started = true := by
      apply hs.started
      intro hm
      rw [hm] at hd
      cases hd
    cases h with
    | dropBlind hm hp => exact .blind (by simp [Node.blind, hm, hp])
    | dropNoPlate hm ht =>
      have htarget := hs.targets (by simp [hm]) .plate
      rw [ht] at htarget
      cases htarget
    | dropTurn hm rx ry ryaw px py hp ht hb =>
      apply Coast.driven
      · simp [Node.blind, hm, hp]
      · simp [Node.drives, hm, hp, ht, plateAhead, hb]
      · intro hp
        exact turn_ne_zero hp hb
    | dropRelease hm rx ry ryaw px py hp ht hb he =>
      apply Coast.halted
      · simp [Node.blind, hm, hp]
      · simp [Node.drives, hm, hp, ht, plateAhead, hb, he]
      · intro _ hd
        cases hd
    | dropMove hm rx ry ryaw px py hp ht hb he =>
      apply Coast.driven
      · simp [Node.blind, hm, hp]
      · simp [Node.drives, hm, hp, ht, plateAhead, he]
      · intro hp
        apply move_ne_zero hp
        rintro he'
        rw [he', abs_zero] at he
        norm_num at he
    | backupBlind hm hp => exact .blind (by simp [Node.blind, hm, hp])
    | backupNoStart hm hb =>
      obtain ⟨start, hstart⟩ := hs.backup hm
      rw [hb] at hstart
      cases hstart
    | backupDone hm pose start hp hb hd =>
      apply Coast.halted
      · simp [Node.blind, hm, hp]
      · simp [Node.drives, hm, hp, hb, Node.short, hd]
      · intro _ hd
        cases hd
    | backupMove hm pose start hp hb hd =>
      apply Coast.driven
      · simp [Node.blind, hm, hp]
      · simp [Node.drives, hm, hp, hb, Node.short, hd]
      · intro hp
        exact uncapped_ne_zero (neg_ne_zero.2 hp.speed.ne') _
    | lungeBlind hm hl hp => exact .blind (by simp [Node.blind, hm, hl, hp])
    | lungeNoStart hm hl hb =>
      obtain ⟨start, hstart⟩ := hs.lunge hl
      rw [hb] at hstart
      cases hstart
    | lungeEnd hm hl pose start hp hb hd =>
      apply Coast.halted
      · simp [Node.blind, hm, hl, hp]
      · simp [Node.drives, hm, hl, hp, hb, Node.short, hd]
      · intro _ hd
        cases hd
    | lungeMove hm hl pose start hp hb hd =>
      apply Coast.driven
      · simp [Node.blind, hm, hl, hp]
      · simp [Node.drives, hm, hl, hp, hb, Node.short, hd]
      · intro hp
        exact uncapped_ne_zero hp.speed.ne' _
    | alignStale hm hl hf => exact .blind (by simp [Node.blind, hm, hl, hf])
    | alignTurn hm hl hf bx by_ t hc hb =>
      apply Coast.driven
      · simp [Node.blind, hm, hl, hf, hc, cubeAhead, hb]
      · simp [Node.drives, hm, hl, hf, hc, cubeAhead, hb]
      · intro hp
        exact turn_ne_zero hp hb
    | alignNoOdom hm hl hf bx by_ t hc hb hr hp =>
      exact .blind (by simp [Node.blind, hm, hl, hf, hc, cubeAhead, hb, hr, hp])
    | alignFreeze hm hl hf bx by_ t hc hb hr start hp =>
      apply Coast.halted
      · simp [Node.blind, hm, hl, hf, hc, hp]
      · simp [Node.drives, hm, hl, hc, cubeAhead, hb, hr]
      · intro _ _
        exact lastTwist_stop _
    | alignMove hm hl hf bx by_ t hc hb hr =>
      apply Coast.driven
      · simp [Node.blind, hm, hl, hf, hc, cubeAhead, hr]
      · simp [Node.drives, hm, hl, hf, hc, cubeAhead, hr]
      · intro hp
        apply move_ne_zero hp
        exact (sub_pos.2 (hp.near.trans_lt hr)).ne'
    | _ => simp_all [State.drives]

/-- In a driving mode the last Twist is zero unless the robot is under way, and with gains that
move the wheels it is not zero when it is. -/
structure Coasts (p : Params R) (out : List (Cmd R)) (under : Bool) : Prop where
  rest : under = false → lastTwist out = some .zero
  going : p.Geared → under = true → lastTwist out ≠ some .zero

theorem Coast.coasts {i : TickIn R} {s : Node R} (h : Coast p i s o) (ho : o.raised = none)
    (hs : s.mode.drives = true → Coasts p s.out under) (hd : o.node.mode.drives = true) :
    Coasts p o.node.out (if s.blind p i then under else s.drives p i) := by
  cases h with
  | blind hb =>
    rw [if_pos hb]
    exact hs hd
  | driven hb hd' t ht =>
    rw [if_neg (by simp [hb]), hd']
    constructor
    · intro hu
      cases hu
    · intro hp _
      rw [Outcome.ok, lastTwist_emit_twist]
      exact fun he => ht hp (Option.some.inj he)
  | halted hb hd' hh =>
    rw [if_neg (by simp [hb]), hd']
    constructor
    · intro _
      exact hh ho hd
    · intro _ hu
      cases hu

/-- The link between the history of a run and its last Twist. -/
structure Tracked (p : Params R) (c : Outcome R × Bool) : Prop where
  equipped : Equipped c.1.node
  coasts : c.1.raised = none → c.1.node.mode.drives = true → Coasts p c.1.node.out c.2

theorem EventStep.tracked {c : Outcome R × Bool} (h : EventStep p c.1 e o) (hc : Tracked p c)
    (hr : c.1.raised = none) :
    o.raised = none → o.node.mode.drives = true → Coasts p o.node.out (coastStep p c e).2 := by
  cases h with
  | ended he =>
    rw [hr] at he
    cases he
  | tick i h =>
    intro ho hd
    exact (h.coast hc.equipped).coasts ho (hc.coasts hr) hd
  | _ => exact fun _ hd => hc.coasts hr hd

theorem coastStep_tracked (c : Outcome R × Bool) (e : Event R) (hc : Tracked p c) :
    Tracked p (coastStep p c e) := by
  have hstep := eventStep_step p c.1 e
  refine ⟨hstep.equipped hc.equipped, fun hr hd => ?_⟩
  exact hstep.tracked hc (raised_of_step hr) hr hd

theorem coastRun_fst (es : List (Event R)) (c : Outcome R × Bool) :
    (Runs.run (coastStep p) c es).1 = Runs.run (step p) c.1 es := by
  induction es generalizing c with
  | nil => rfl
  | cons e es ih => exact ih (coastStep p c e)

theorem coasting_tick (p : Params R) (es : List (Event R)) (i : TickIn R) :
    coasting p (es ++ [.tick i]) = if (missionRun p es).node.blind p i then coasting p es
      else (missionRun p es).node.drives p i := by
  have hfst := coastRun_fst (p := p) es (.ok .init, false)
  rw [coasting, Runs.run_concat, coastStep, hfst]
  rfl

theorem missionRun_coasts (p : Params R) (es : List (Event R))
    (hr : (missionRun p es).raised = none) (hd : (missionRun p es).node.mode.drives = true) :
    Coasts p (missionRun p es).node.out (coasting p es) := by
  have hinit : Tracked p ((.ok .init, false) : Outcome R × Bool) := by
    refine ⟨missionRun_equipped p [], fun _ hd => ?_⟩
    cases hd
  have h := Runs.invariant hinit coastStep_tracked es
  have hfst := coastRun_fst (p := p) es (.ok .init, false)
  have hcoasts := h.coasts
  rw [hfst] at hcoasts
  exact hcoasts hr hd

theorem blind_drives {i : TickIn R} {s : Node R} (h : s.blind p i = true) :
    s.mode.drives = true := by
  cases hd : s.mode.drives with
  | true => rfl
  | false =>
    rw [(quiet_of_parked p i hd).1] at h
    cases h

theorem Coast.silent {i : TickIn R} {s : Node R} (h : Coast p i s o) (hb : s.blind p i = true) :
    o.node.out = s.out := by
  cases h with
  | blind => rfl
  | driven hb' => rw [hb] at hb'; cases hb'
  | halted hb' => rw [hb] at hb'; cases hb'

/-- Every run in which measurements are lost only at rest keeps the dead-man law; with gains
that move the wheels no other run does. -/
theorem dead_man_iff (p : Params R) (es : List (Event R)) :
    (LostAtRest p es → DeadMan p es) ∧ (p.Geared → DeadMan p es → LostAtRest p es) := by
  have hlast : ∀ pre i, (missionRun p pre).raised = none →
      (missionRun p pre).node.blind p i = true →
        (missionRun p (pre ++ [.tick i])).node.out = (missionRun p pre).node.out := by
    intro pre i hr hb
    rw [missionRun_concat, step, hr]
    exact ((tickStep_tick p i _).coast (missionRun_equipped p pre)).silent hb
  constructor
  · intro h pre i hp hr hb
    rw [hlast pre i hr hb]
    exact (missionRun_coasts p pre hr (blind_drives hb)).rest (h pre i hp hr hb)
  · intro hg h pre i hp hr hb
    have hzero := h pre i hp hr hb
    rw [hlast pre i hr hb] at hzero
    cases hc : coasting p pre with
    | false => rfl
    | true => exact absurd hzero ((missionRun_coasts p pre hr (blind_drives hb)).going hg hc)

end gears

noncomputable def tenSecondsLater : TickIn ℝ := { tickAtOrigin with clock := 10 }

theorem promptArrival_parked (pre : List (Event ℝ)) (h : pre <+: promptArrival) :
    (missionRun .default pre).node.mode.drives = false := by
  have hall : ∀ n < 12,
      (missionRun Params.default (promptArrival.take n)).node.mode.drives = false := by
    decide +kernel
  rw [List.prefix_iff_eq_take.1 h]
  exact hall _ (Nat.lt_succ_of_le h.length_le)

/-- The jaws are open, and the cube has not been seen from near. -/
noncomputable def unseenCube : List (Event ℝ) :=
  promptArrival ++ [.tick openReply] ++ [.tick tenSecondsLater]

theorem lostAtRest_unseenCube : LostAtRest .default unseenCube := by
  intro pre i hp _ hb
  rcases List.prefix_concat_iff.1 hp with heq | hp
  · obtain ⟨rfl, _⟩ := List.append_singleton_inj.1 heq
    have hparked := promptArrival_parked promptArrival List.prefix_rfl
    obtain ⟨hblind, hdrives⟩ := quiet_of_parked .default openReply hparked
    rw [coasting_tick, hblind]
    exact hdrives
  · have hpre : pre <+: promptArrival := by
      rcases List.prefix_concat_iff.1 hp with heq | hp
      · obtain ⟨rfl, _⟩ := List.append_singleton_inj.1 heq
        exact List.prefix_rfl
      · exact (List.prefix_append _ _).trans hp
    rw [(quiet_of_parked _ _ (promptArrival_parked pre hpre)).1] at hb
    cases hb

/-- Without a detection the node stands still in front of the cube. -/
theorem dead_man_unseenCube :
    (missionRun .default (promptArrival ++ [.tick openReply])).node.blind .default
      tenSecondsLater = true ∧ DeadMan Params.default unseenCube := by
  refine ⟨?_, (dead_man_iff Params.default unseenCube).1 lostAtRest_unseenCube⟩
  obtain ⟨s, hrun, hs⟩ := missionRun_promptArrival .default
  rw [missionRun_concat, hrun, step_ok_tick,
    tick_opened default_usual.timeout hs.started hs.mode hs.actionT]
  have hlunge : (s.stop.transition .pickupAlign).lungeActive = false := hs.lunge
  have hlive : (s.stop.transition .pickupAlign).cubeLive = none := hs.cubeLive
  have hmode : (s.stop.transition .pickupAlign).mode = .pickupAlign := rfl
  simp [Outcome.ok, Node.blind, Node.cubeFresh, hmode, hlunge, hlive]

theorem Coast.moves {p : Params R} {i : TickIn R} {s : Node R} (h : Coast p i s o)
    (hb : s.blind p i = false) (hd : s.drives p i = true) (hp : p.Geared) :
    ∃ t, t ≠ .zero ∧ o = .ok (s.emit (.twist t)) := by
  cases h with
  | blind hb' => rw [hb] at hb'; cases hb'
  | driven _ _ t ht => exact ⟨t, ht hp, rfl⟩
  | halted _ hd' => rw [hd] at hd'; cases hd'

/-- The jaws are open and the cube is in view, one metre ahead. -/
noncomputable def cubeInView : List (Event ℝ) :=
  promptArrival ++ [.tick openReply, .cubeLive 1 0 0]

/-- The cube in view is driven at for one tick, and not seen again for ten seconds. -/
noncomputable def lostCube : List (Event ℝ) :=
  cubeInView ++ [.tick tickAtOrigin] ++ [.tick tenSecondsLater]

theorem default_geared : (Params.default : Params ℝ).Geared := by
  constructor <;> norm_num [Params.default]

section lost

variable {s : Node ℝ}

theorem cubeAhead_far : cubeAhead (.default : Params ℝ) 1 0 = false := by
  have hfar : ¬ PyMath.hypot (1 : ℝ) 0 ≤ (Params.default : Params ℝ).pickupLungeStart := by
    rw [hypot_zero_right (by norm_num)]
    norm_num [Params.default]
  rw [cubeAhead, decide_eq_false hfar, Bool.and_false]

theorem drives_cubeInView (hm : s.mode = .pickupAlign) (hl : s.lungeActive = false)
    (hc : s.cubeLive = some (1, 0, 0)) :
    s.blind .default tickAtOrigin = false ∧ s.drives .default tickAtOrigin = true := by
  have hfresh : s.cubeFresh .default tickAtOrigin = true := by
    norm_num [Node.cubeFresh, hc, tickAtOrigin, Params.default]
  constructor
  · simp [Node.blind, hm, hl, hfresh, hc, cubeAhead_far]
  · simp [Node.drives, hm, hl, hfresh, hc, cubeAhead_far]

theorem blind_tenSecondsLater (hm : s.mode = .pickupAlign) (hl : s.lungeActive = false)
    (hc : s.cubeLive = some (1, 0, 0)) : s.blind .default tenSecondsLater = true := by
  have hfresh : s.cubeFresh .default tenSecondsLater = false := by
    norm_num [Node.cubeFresh, hc, tenSecondsLater, Params.default]
  simp [Node.blind, hm, hl, hfresh]

end lost

theorem missionRun_cubeInView : ∃ s : Node ℝ, missionRun .default cubeInView = .ok s ∧
    s.mode = .pickupAlign ∧ s.lungeActive = false ∧ s.cubeLive = some (1, 0, 0) := by
  obtain ⟨s, hrun, hs⟩ := missionRun_promptArrival .default
  rw [missionRun] at hrun
  refine ⟨(s.stop.transition .pickupAlign).onCubeLive 1 0 0, ?_, rfl, hs.lunge, rfl⟩
  rw [cubeInView, missionRun, Runs.run_append, hrun, Runs.run_cons, step_ok_tick,
    tick_opened default_usual.timeout hs.started hs.mode hs.actionT]
  rfl

theorem not_dead_man : ¬ DeadMan Params.default lostCube := by
  intro h
  obtain ⟨s, hrun, hm, hl, hc⟩ := missionRun_cubeInView
  have hs : Equipped s := by
    have hequipped := missionRun_equipped .default cubeInView
    rw [hrun] at hequipped
    exact hequipped
  obtain ⟨hb, hd⟩ := drives_cubeInView hm hl hc
  obtain ⟨t, ht, htick⟩ :=
    ((tickStep_tick .default tickAtOrigin s).coast hs).moves hb hd default_geared
  have hdriven : missionRun .default (cubeInView ++ [.tick tickAtOrigin]) =
      .ok (s.emit (.twist t)) := by
    rw [missionRun_concat, hrun, step_ok_tick]
    exact htick
  have hblind : (s.emit (.twist t)).blind .default tenSecondsLater = true :=
    blind_tenSecondsLater hm hl hc
  have hsilent := ((tickStep_tick .default tenSecondsLater _).coast
    (hs.keep s.actionT s.nav (s.out ++ [.twist t]))).silent hblind
  have hzero := h (cubeInView ++ [.tick tickAtOrigin]) tenSecondsLater List.prefix_rfl
    (by rw [hdriven]; rfl) (by rw [hdriven]; exact hblind)
  rw [missionRun_concat, hdriven, step_ok_tick] at hzero
  have hlast : lastTwist ((s.emit (.twist t)).tick .default tenSecondsLater).node.out = some t :=
    (congrArg lastTwist hsilent).trans (lastTwist_emit_twist s t)
  exact ht (Option.some.inj (hlast.symm.trans hzero))

end EscapeRoom
