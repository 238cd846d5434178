import EscapeRoom.TickStep
import EscapeRoom.RealMath

namespace EscapeRoom
set_option autoImplicit true
set_option linter.unusedSectionVars false

variable {R : Type}

/-- The modes in which Nav2 may drive the robot. -/
def State.navigates (m : State) : Bool :=
  decide (m = .explore) || decide (m = .goToKey) || decide (m = .goToPlate)

/-- The method that sends the goals of a mode. -/
def State.sender : State → Sender
  | .goToKey => .navGoToKey
  | .goToPlate => .navGoToPlate
  | _ => .explore

/-- How a tick comes to start a new leg. -/
inductive Enters (s : Node R) : State → Prop where
  | key (hm : s.mode = .explore) (ht : s.targetCount = 3) : Enters s .goToKey
  | plate (hm : s.mode = .pickupClose) : Enters s .goToPlate

/-- What a tick does with the navigation goals. -/
inductive NavStep (i : TickIn R) (s : Node R) : State → NavLink (NavRequest R) → Prop where
  | keep : NavStep i s s.mode s.nav
  | send (hm : s.mode.navigates = true) (ha : s.nav.client.active = false)
      (hs : s.mode ≠ .explore → s.nav.client.succeeded = false) (r : NavRequest R)
      (hr : r.sender = s.mode.sender) : NavStep i s s.mode (s.nav.send i.serverReady r)
  | leave (hm : m.navigates = false) (hx : s.mode ≠ .explore)
      (ha : s.mode.navigates = true →
        s.nav.client.active = false ∧ s.nav.client.succeeded = true) :
      NavStep i s m s.nav.cancel
  | enter (hm : Enters s m) : NavStep i s m s.nav.cancel
  | enterSend (hm : Enters s m) (r : NavRequest R) (hr : r.sender = m.sender) :
      NavStep i s m (s.nav.cancel.send i.serverReady r)

theorem Enters.navigates {s : Node R} (h : Enters s m) : m.navigates = true := by
  cases h with
  | key => rfl
  | plate => rfl

theorem Enters.ne_explore {s : Node R} (h : Enters s m) : m ≠ .explore := by
  cases h with
  | key => intro he; cases he
  | plate => intro he; cases he

variable [Field R] [PyMath R]

theorem NavGo.nav {i : TickIn R} {s : Node R} (h : NavGo i sender name s o) :
    o.node.mode = s.mode ∧ (o.node.nav = s.nav ∨
      ∃ r : NavRequest R, r.sender = sender ∧ o.node.nav = s.nav.send i.serverReady r) := by
  cases h with
  | noPose => exact ⟨rfl, .inl rfl⟩
  | noTarget => exact ⟨rfl, .inl rfl⟩
  | sent => exact ⟨rfl, .inr ⟨_, rfl, rfl⟩⟩

theorem NavGo.resend {i : TickIn R} {s : Node R} (h : NavGo i s.mode.sender name s o)
    (hm : s.mode.navigates = true) (ha : s.nav.client.active = false)
    (hs : s.nav.client.succeeded = false) : NavStep i s o.node.mode o.node.nav := by
  obtain ⟨he, hn | ⟨r, hr, hn⟩⟩ := h.nav
  · rw [he, hn]
    exact .keep
  · rw [he, hn]
    exact .send hm ha (fun _ => hs) r hr

theorem NavGo.enter {i : TickIn R} {s s' : Node R} (h : NavGo i m.sender name (s'.transition m) o)
    (hnav : s'.nav = s.nav) (hm : Enters s m) : NavStep i s o.node.mode o.node.nav := by
  have hcancel : (s'.transition m).nav = s.nav.cancel := congrArg NavLink.cancel hnav
  obtain ⟨he, hn | ⟨r, hr, hn⟩⟩ := h.nav
  · rw [he, hn, hcancel]
    exact .enter hm
  · rw [he, hn, hcancel]
    exact .enterSend hm r hr

variable [LinearOrder R]

theorem TickStep.nav {p : Params R} {i : TickIn R} {s : Node R} (h : TickStep p i s o) :
    NavStep i s o.node.mode o.node.nav := by
  cases h with
  | exploreDone hs hm ht hg => exact hg.enter (m := .goToKey) rfl (.key hm ht)
  | exploreSend hm ha x y yaw =>
    exact .send (by rw [hm]; rfl) ha (absurd hm) _ (by rw [hm]; rfl)
  | keyRetry hm ha hs hg =>
    have hsender : s.mode.sender = .navGoToKey := by rw [hm]; rfl
    exact NavGo.resend (hsender ▸ hg) (by rw [hm]; rfl) ha hs
  | plateRetry hm ha hs hg =>
    have hsender : s.mode.sender = .navGoToPlate := by rw [hm]; rfl
    exact NavGo.resend (hsender ▸ hg) (by rw [hm]; rfl) ha hs
  | closed hm _ hg => exact hg.enter (m := .goToPlate) rfl (.plate hm)
  | keyReached hm ha hs => exact .leave rfl (by simp [hm]) fun _ => ⟨ha, hs⟩
  | plateReached hm ha hs => exact .leave rfl (by simp [hm]) fun _ => ⟨ha, hs⟩
  | opened hm => exact .leave rfl (by simp [hm]) (by simp [hm, State.navigates])
  | dropRelease hm => exact .leave rfl (by simp [hm]) (by simp [hm, State.navigates])
  | released hm => exact .leave rfl (by simp [hm]) (by simp [hm, State.navigates])
  | backupDone hm => exact .leave rfl (by simp [hm]) (by simp [hm, State.navigates])
  | lungeEnd hm => exact .leave rfl (by simp [hm]) (by simp [hm, State.navigates])
  | _ => exact .keep

/-- A goal of this sender has itself been reported `STATUS_SUCCEEDED`. -/
def Arrived (sender : Sender) (nav : NavLink (NavRequest R)) : Prop :=
  ∃ g ∈ nav.goals, g.request.sender = sender ∧ g.progress = .ended .succeeded .result

instance decidableArrived (sender : Sender) (nav : NavLink (NavRequest R)) :
    Decidable (Arrived sender nav) :=
  inferInstanceAs (Decidable (∃ g ∈ nav.goals, _))

/-- A success reported while the node drives to the key or to the plate is that of a goal sent on
that leg, or comes after such a goal was reported to have succeeded. -/
def OwnSuccess (o : Outcome R) : Event R → Prop
  | .nav (.result id) => ∀ g ∈ o.node.nav.goals[id]?, g.progress = .ended .succeeded .response →
        o.node.mode = .goToKey ∨ o.node.mode = .goToPlate →
          g.request.sender = o.node.mode.sender ∨ Arrived o.node.mode.sender o.node.nav
  | _ => True

instance decidableOwnSuccess (o : Outcome R) : ∀ e, Decidable (OwnSuccess o e)
  | .nav (.result id) =>
    inferInstanceAs (Decidable (∀ g ∈ o.node.nav.goals[id]?, _ → _ → _))
  | .nav (.accept _) | .nav (.reject _) | .nav (.finish _ _) | .nav (.response _)
  | .tick _ | .map _ | .target _ _ _ | .cubeLive _ _ _ => inferInstanceAs (Decidable True)

/-- The tick that takes the robot to have arrived comes after a goal of that leg succeeded. -/
structure ArrivalSound (p : Params R) (es : List (Event R)) : Prop where
  key : ∀ pre e, pre ++ [e] <+: es → (missionRun p pre).node.mode = .goToKey →
    (missionRun p (pre ++ [e])).node.mode = .pickupOpen →
      Arrived .navGoToKey (missionRun p pre).node.nav
  plate : ∀ pre e, pre ++ [e] <+: es → (missionRun p pre).node.mode = .goToPlate →
    (missionRun p (pre ++ [e])).node.mode = .dropAlign →
      Arrived .navGoToPlate (missionRun p pre).node.nav

/-- On the two legs the success flag stands only for a goal of that leg. -/
def FlagEarned (m : State) (nav : NavLink (NavRequest R)) : Prop :=
  m = .goToKey ∨ m = .goToPlate → nav.client.succeeded = true → Arrived m.sender nav

section links

variable {nav : NavLink (NavRequest R)}

theorem Arrived.advance (h : Arrived sender nav) (id : Nat) (f : Progress → Progress)
    (hf : f (.ended .succeeded .result) = .ended .succeeded .result) (c : NavClient) :
    Arrived sender { client := c, goals := nav.goals.modify id (Goal.advance f) } := by
  obtain ⟨g, hg, hs, hp⟩ := h
  obtain ⟨j, hj⟩ := List.getElem?_of_mem hg
  refine ⟨if id = j then g.advance f else g, ?_, ?_⟩
  · apply List.mem_of_getElem?
    rw [List.getElem?_modify, hj]
    rfl
  · split
    · exact ⟨hs, (congrArg f hp).trans hf⟩
    · exact ⟨hs, hp⟩

theorem Arrived.step (h : Arrived sender nav) (e : NavEvent) : Arrived sender (nav.step e) := by
  cases e with
  | accept id => exact h.advance id _ rfl _
  | reject id => exact h.advance id _ rfl _
  | finish id status => exact h.advance id _ rfl _
  | response id =>
    simp only [NavLink.step, NavLink.deliverResponse]
    split
    · exact h.advance id _ rfl _
    · exact h
  | result id =>
    simp only [NavLink.step, NavLink.deliverResult]
    split
    · exact h.advance id _ rfl _
    · exact h

theorem FlagEarned.fresh (h : nav.client.succeeded = false) : FlagEarned m nav := by
  intro _ hs
  rw [h] at hs
  cases hs

theorem FlagEarned.send (h : FlagEarned m nav) (ready : Bool) (r : NavRequest R) :
    FlagEarned m (nav.send ready r) := by
  cases ready with
  | false => exact h
  | true => exact .fresh rfl

theorem NavStep.flagEarned {i : TickIn R} {s : Node R} (h : NavStep i s m nav)
    (hs : FlagEarned s.mode s.nav) : FlagEarned m nav := by
  cases h with
  | keep => exact hs
  | send => exact hs.send _ _
  | leave => exact .fresh rfl
  | enter => exact .fresh rfl
  | enterSend => exact FlagEarned.send (.fresh rfl) _ _

/-- Only a result can raise the success flag, and the condition says whose result it may be. -/
theorem flagEarned_step (h : FlagEarned m nav) (e : NavEvent)
    (hok : ∀ id, e = .result id → ∀ g, nav.goals[id]? = some g →
      g.progress = .ended .succeeded .response → m = .goToKey ∨ m = .goToPlate →
        g.request.sender = m.sender ∨ Arrived m.sender nav) :
    FlagEarned m (nav.step e) := by
  intro hm hs
  cases e with
  | accept id => exact (h hm hs).step (.accept id)
  | reject id => exact (h hm hs).step (.reject id)
  | finish id status => exact (h hm hs).step (.finish id status)
  | response id =>
    refine (h hm ?_).step (.response id)
    simp only [NavLink.step, NavLink.deliverResponse] at hs
    split at hs
    · rename_i accepted _
      cases accepted <;> exact hs
    · exact hs
  | result id =>
    cases hdue : nav.goals[id]?.bind (·.progress.resultDue) with
    | none =>
      simp only [NavLink.step, NavLink.deliverResult, hdue] at hs ⊢
      exact h hm hs
    | some status =>
      obtain ⟨g, hg, hgd⟩ := Option.bind_eq_some_iff.1 hdue
      have hp := Progress.eq_of_result hgd
      simp only [NavLink.step, NavLink.deliverResult, hdue, NavClient.onNavResult,
        decide_eq_true_eq] at hs
      subst hs
      rcases hok id rfl g hg hp hm with hsender | harrived
      · simp only [NavLink.step, NavLink.deliverResult, hdue]
        refine ⟨g.advance .hearResult, ?_, hsender, ?_⟩
        · apply List.mem_of_getElem? (i := id)
          rw [List.getElem?_modify, hg]
          simp
        · rw [Goal.advance, hp]
          rfl
      · exact harrived.step (.result id)

end links

theorem EventStep.flagEarned {p : Params R} {o o' : Outcome R} {e : Event R}
    (h : EventStep p o e o') (hs : FlagEarned o.node.mode o.node.nav) (hok : OwnSuccess o e) :
    FlagEarned o'.node.mode o'.node.nav := by
  cases h with
  | tick i h => exact h.nav.flagEarned hs
  | nav e =>
    apply flagEarned_step hs
    rintro id rfl
    exact hok
  | _ => exact hs

theorem NavStep.leaves_arrived {i : TickIn R} {s : Node R} (h : NavStep i s m nav)
    (hs : s.mode = .goToKey ∨ s.mode = .goToPlate) (hm : m.navigates = false) :
    s.nav.client.succeeded = true := by
  cases h with
  | keep => rcases hs with hs | hs <;> simp [hs, State.navigates] at hm
  | send hn => rw [hn] at hm; cases hm
  | leave _ _ ha => exact (ha (by rcases hs with hs | hs <;> simp [hs, State.navigates])).2
  | enter h' => rw [h'.navigates] at hm; cases hm
  | enterSend h' => rw [h'.navigates] at hm; cases hm

theorem EventStep.leaves_arrived {p : Params R} {o o' : Outcome R} {e : Event R}
    (h : EventStep p o e o') (hs : o.node.mode = .goToKey ∨ o.node.mode = .goToPlate)
    (hm : o'.node.mode.navigates = false) : o.node.nav.client.succeeded = true := by
  have hstay : ¬ o.node.mode.navigates = false := by
    rcases hs with hs | hs <;> simp [hs, State.navigates]
  cases h with
  | tick i h => exact h.nav.leaves_arrived hs hm
  | _ => exact absurd hm hstay

/-- Where no other goal's success is reported on a leg, the robot has arrived when it thinks so. -/
theorem arrival_sound (p : Params R) (es : List (Event R))
    (h : Runs.StepsMeet (step p) OwnSuccess (.ok .init) es) : ArrivalSound p es := by
  have hearned : ∀ pre, pre <+: es →
      FlagEarned (missionRun p pre).node.mode (missionRun p pre).node.nav := by
    rintro pre ⟨post, rfl⟩
    have hpre := (Runs.stepsMeet_append.1 h).1
    exact Runs.invariant_of_stepsMeet (I := fun o => FlagEarned o.node.mode o.node.nav)
      (.fresh rfl) (fun o e => (eventStep_step p o e).flagEarned) hpre
  have hleg : ∀ pre e, pre ++ [e] <+: es →
      (missionRun p pre).node.mode = .goToKey ∨ (missionRun p pre).node.mode = .goToPlate →
        (missionRun p (pre ++ [e])).node.mode.navigates = false →
          Arrived (missionRun p pre).node.mode.sender (missionRun p pre).node.nav := by
    intro pre e hp hs hm
    apply hearned pre ((List.prefix_append _ _).trans hp) hs
    rw [missionRun_concat] at hm
    exact (eventStep_step p _ e).leaves_arrived hs hm
  constructor
  · intro pre e hp hs hm
    have harrived := hleg pre e hp (.inl hs) (by rw [hm]; rfl)
    rw [hs] at harrived
    exact harrived
  · intro pre e hp hs hm
    have harrived := hleg pre e hp (.inr hs) (by rw [hm]; rfl)
    rw [hs] at harrived
    exact harrived

/-- A free row of twenty cells along unknown space. -/
noncomputable def frontierStrip : OccupancyGrid ℝ where
  width := 22
  height := 3
  resolution := 0.05
  originX := 0
  originY := 0
  data := List.replicate 22 (-1) ++ List.replicate 44 0

/-- A tick at time zero with everything answered: the robot stands at the origin. -/
noncomputable def tickAtOrigin : TickIn ℝ where
  serverReady := true
  mapTf := some ⟨0, 0, 0, 0, 0, 1⟩
  odomTf := some ⟨0, 0, 0, 0, 0, 1⟩
  clock := 0
  gripperState := none

noncomputable def seeCube : Event ℝ := .target .cube 3 0

noncomputable def seePlate : Event ℝ := .target .plate 0 1

noncomputable def seeDoor : Event ℝ := .target .door 5 5

/-- All three landmarks are known before the mission starts, and the key goal succeeds. -/
noncomputable def promptArrival : List (Event ℝ) :=
  [.map frontierStrip, seeCube, seePlate, seeDoor, .tick tickAtOrigin, .tick tickAtOrigin,
    .nav (.accept 0), .nav (.response 0), .nav (.finish 0 .succeeded), .nav (.result 0),
    .tick tickAtOrigin]

/-- What later runs use of the node that has arrived at the key. -/
structure AtKey (s : Node ℝ) : Prop where
  started : s.started = true
  mode : s.mode = .pickupOpen
  actionT : s.actionT = 0
  lunge : s.lungeActive = false
  cubeLive : s.cubeLive = none
  plate : s.targets .plate = some (0, 1)
  nav : ∃ r, s.nav = ⟨{}, [⟨r, .ended .succeeded .result, false, true⟩]⟩

/-- A goal that the server accepts and ends well, and the tick after its result. -/
theorem run_succeeds (p : Params ℝ) (s : Node ℝ) (id : Nat) (i : TickIn ℝ) :
    Runs.run (step p) (.ok s) [.nav (.accept id), .nav (.response id),
      .nav (.finish id .succeeded), .nav (.result id), .tick i] =
        Node.tick p i { s with nav := (((s.nav.step (.accept id)).step (.response id)).step
          (.finish id .succeeded)).step (.result id) } := by
  simp only [Runs.run_cons, Runs.run_nil, step_ok_nav, step_ok_tick]

theorem missionRun_promptArrival (p : Params ℝ) :
    ∃ s, missionRun p promptArrival = .ok s ∧ AtKey s := by
  obtain ⟨s, hrun, hs, hm, hcount, hcube, hplate, hlive, hl, hn⟩ : ∃ s : Node ℝ,
      Runs.run (step p) (.ok .init) [.map frontierStrip, seeCube, seePlate, seeDoor,
        .tick tickAtOrigin] = .ok s ∧ s.started = true ∧ s.mode = .explore ∧ s.targetCount = 3 ∧
          s.targets .cube = some (3, 0) ∧ s.targets .plate = some (0, 1) ∧ s.cubeLive = none ∧
            s.lungeActive = false ∧ s.nav = {} :=
    ⟨_, rfl, rfl, rfl, rfl, rfl, rfl, rfl, rfl, rfl⟩
  have htick : step p (.ok s) (.tick tickAtOrigin) =
      (s.transition .goToKey).navGoToKey p tickAtOrigin := by
    simp only [step_ok_tick, Node.tick, hs, Node.handle, hm, Node.explore, hcount]
    rfl
  obtain ⟨s', r, hstep, hs', hm', hplate', hlive', hl', hn'⟩ : ∃ (s' : Node ℝ) (r : NavRequest ℝ),
      step p (.ok s) (.tick tickAtOrigin) = .ok s' ∧ s'.started = true ∧ s'.mode = .goToKey ∧
        s'.targets .plate = some (0, 1) ∧ s'.cubeLive = none ∧ s'.lungeActive = false ∧
          s'.nav = NavLink.send true r (NavLink.cancel {}) := by
    have hgo := navGo_navGoToKey p tickAtOrigin (s.transition .goToKey)
    rw [← htick] at hgo
    generalize step p (.ok s) (.tick tickAtOrigin) = o at hgo
    cases hgo with
    | noPose hp => cases hp
    | noTarget ht => cases hcube.symm.trans ht
    | sent x y yaw ht =>
      rw [← hn]
      exact ⟨_, ⟨.navGoToKey, .ofYaw x y yaw⟩, rfl, hs, rfl, hplate, hlive, hl, rfl⟩
  obtain ⟨nav, hnav⟩ : ∃ nav, nav = (((s'.nav.step (.accept 0)).step (.response 0)).step
      (.finish 0 .succeeded)).step (.result 0) := ⟨_, rfl⟩
  have hactive : nav.client.active = false := by
    rw [hnav, hn']
    rfl
  have hsucceeded : nav.client.succeeded = true := by
    rw [hnav, hn']
    rfl
  have hcancel : nav.cancel = ⟨{}, [⟨r, .ended .succeeded .result, false, true⟩]⟩ := by
    rw [hnav, hn']
    rfl
  have harrive : Node.tick p tickAtOrigin { s' with nav := nav } =
      .ok { { { s' with nav := nav }.stop with lungeActive := false, lungeStart := none }.transition
        .pickupOpen with actionT := 0 }.gripperOpen := by
    simp only [Node.tick, hs', Node.handle, hm', Node.goToKey, hactive, hsucceeded]
    rfl
  have hrun' : missionRun p promptArrival = Node.tick p tickAtOrigin { s' with nav := nav } := by
    have hsplit : promptArrival = [.map frontierStrip, seeCube, seePlate, seeDoor,
        .tick tickAtOrigin] ++ .tick tickAtOrigin :: [.nav (.accept 0), .nav (.response 0),
          .nav (.finish 0 .succeeded), .nav (.result 0), .tick tickAtOrigin] := rfl
    rw [missionRun, hsplit, Runs.run_append, hrun, Runs.run_cons, hstep, run_succeeds, hnav]
  exact ⟨_, hrun'.trans harrive, hs', rfl, rfl, rfl, hlive', hplate', r, hcancel⟩

theorem arrival_sound_promptArrival :
    (missionRun Params.default promptArrival).node.mode = .pickupOpen ∧
      ArrivalSound Params.default promptArrival :=
  ⟨by decide +kernel, arrival_sound Params.default promptArrival (by decide +kernel)⟩

/-- The last landmark is seen while a frontier goal is about to succeed: its result is delivered
after the goal for the key was sent. -/
noncomputable def lateFrontierSuccess : List (Event ℝ) :=
  [.map frontierStrip, seeCube, seePlate, .tick tickAtOrigin, .tick tickAtOrigin,
    .nav (.accept 0), .nav (.response 0), seeDoor,
    .nav (.finish 0 .succeeded), .tick tickAtOrigin, .nav (.result 0), .tick tickAtOrigin]

theorem not_arrival_sound : ¬ ArrivalSound Params.default lateFrontierSuccess := by
  intro h
  have harrived := h.key (lateFrontierSuccess.take 11) (.tick tickAtOrigin) List.prefix_rfl
    (by decide +kernel) (by decide +kernel)
  exact absurd harrived (by decide +kernel)

end EscapeRoom
