import EscapeRoom.Library.Stages
import EscapeRoom.TickStep

namespace EscapeRoom
set_option autoImplicit true
set_option linter.unusedSectionVars false

variable {R : Type}

def State.next : State → Option State
  | .explore => some .goToKey
  | .goToKey => some .pickupOpen
  | .pickupOpen => some .pickupAlign
  | .pickupAlign => some .pickupClose
  | .pickupClose => some .goToPlate
  | .goToPlate => some .dropAlign
  | .dropAlign => some .dropOpen
  | .dropOpen => some .dropBackup
  | .dropBackup => some .done
  | .done => none

def missionOrder : List State :=
  [.explore, .goToKey, .pickupOpen, .pickupAlign, .pickupClose, .goToPlate, .dropAlign,
    .dropOpen, .dropBackup, .done]

/-- The modes in which the node drives the wheels itself. -/
def State.drives (m : State) : Bool :=
  decide (m = .pickupAlign) || decide (m = .dropAlign) || decide (m = .dropBackup)

def Cmd.isNav : Cmd R → Bool
  | .markGoal _ | .sendGoal _ | .cancelGoal _ => true
  | _ => false

/-- Gripper and visibility commands. -/
def Cmd.isHand : Cmd R → Bool
  | .gripper _ | .cubeVisible _ => true
  | _ => false

def Cmd.twist? : Cmd R → Option (Twist R)
  | .twist t => some t
  | _ => none

def NavOnly (cs : List (Cmd R)) : Prop := ∀ c ∈ cs, c.isNav = true

def hands (out : List (Cmd R)) : List (Cmd R) := out.filter Cmd.isHand

def twists (out : List (Cmd R)) : List (Twist R) := out.filterMap Cmd.twist?

def Cmd.visibility? : Cmd R → Option Bool
  | .cubeVisible visible => some visible
  | _ => none

/-- The last visibility command hid the cube. -/
def cubeHidden (out : List (Cmd R)) : Bool :=
  decide ((out.filterMap Cmd.visibility?).getLast? = some false)

/-- The gripper or visibility command that comes with entering a mode. -/
def entryCmds : State → List (Cmd R)
  | .pickupOpen => [.gripper .open]
  | .pickupClose => [.gripper .close]
  | .goToPlate => [.cubeVisible false]
  | .dropOpen => [.gripper .open]
  | .dropBackup => [.cubeVisible true]
  | _ => []

theorem NavOnly.append {cs cs' : List (Cmd R)} (h : NavOnly cs) (h' : NavOnly cs') :
    NavOnly (cs ++ cs') := by
  intro c hc
  rcases List.mem_append.1 hc with hc | hc
  · exact h c hc
  · exact h' c hc

theorem NavOnly.hands_eq {cs : List (Cmd R)} (h : NavOnly cs) : hands cs = [] := by
  apply List.filter_eq_nil_iff.2
  intro c hc
  have hn := h c hc
  cases c <;> simp_all [Cmd.isNav, Cmd.isHand]

theorem NavOnly.twists_eq {cs : List (Cmd R)} (h : NavOnly cs) : twists cs = [] := by
  apply List.filterMap_eq_nil_iff.2
  intro c hc
  have hn := h c hc
  cases c <;> simp_all [Cmd.isNav, Cmd.twist?]

theorem navOnly_cancels (nav : NavLink γ) :
    NavOnly (nav.client.handle.toList.map (Cmd.cancelGoal (R := R))) := by
  intro c hc
  obtain ⟨handle, _, rfl⟩ := List.mem_map.1 hc
  rfl

/-- Leaving a mode only touches the navigation goals. -/
theorem transition_eq (m : State) (s : Node R) :
    ∃ cs, NavOnly cs ∧
      s.transition m = { s with nav := s.nav.cancel, out := s.out ++ cs, mode := m } :=
  ⟨_, navOnly_cancels s.nav, rfl⟩

variable [Field R] [PyMath R]

theorem sendTo_eq (i : TickIn R) (sender : Sender) (x y yaw : R) (s : Node R) :
    ∃ nav cs, NavOnly cs ∧
      s.sendTo i sender x y yaw = { s with nav := nav, out := s.out ++ cs } := by
  refine ⟨s.nav.send i.serverReady ⟨sender, .ofYaw x y yaw⟩, [.markGoal (.ofYaw x y yaw)] ++
    if i.serverReady then [.sendGoal ⟨sender, .ofYaw x y yaw⟩] else [], ?_, ?_⟩
  · intro c hc
    cases hr : i.serverReady <;> simp [hr] at hc
    · rw [hc]; rfl
    · rcases hc with rfl | rfl <;> rfl
  · simp only [Node.sendTo, Node.navSend, Node.emit, List.append_assoc]

theorem NavGo.frame {i : TickIn R} {s : Node R} (h : NavGo i sender name s o) :
    ∃ nav cs, NavOnly cs ∧ o.node = { s with nav := nav, out := s.out ++ cs } := by
  cases h with
  | noPose => exact ⟨s.nav, [], by simp [NavOnly], by simp [Outcome.ok]⟩
  | noTarget => exact ⟨s.nav, [], by simp [NavOnly], by simp [Outcome.raise]⟩
  | sent x y yaw => exact sendTo_eq i sender x y yaw s

variable [LinearOrder R]

def Twist.Within (p : Params R) (t : Twist R) : Prop :=
  |t.linearX| ≤ p.parkMaxSpeed ∧ |t.angularZ| ≤ p.alignMaxOmega

def halt : Cmd R := .twist .zero

/-- The mission seen from outside: a mode, the commands of one callback, and the mode after it. -/
inductive MissionStep (p : Params R) : State → List (Cmd R) → State → Prop where
  | wait : MissionStep p m [] m
  | steer (hm : m = .explore ∨ m = .goToKey ∨ m = .goToPlate) (hn : NavOnly cs) :
      MissionStep p m cs m
  | hold (hm : m = .pickupOpen ∨ m = .pickupAlign ∨ m = .pickupClose ∨ m = .dropOpen) :
      MissionStep p m [halt] m
  | servo (hm : m = .pickupAlign ∨ m = .dropAlign) (t : Twist R)
      (ht : 0 ≤ p.parkMaxSpeed → 0 ≤ p.alignMaxOmega → t.Within p) :
      MissionStep p m [.twist t] m
  | reverse :
      MissionStep p .dropBackup [.twist (driveTwist p (-p.parkMaxSpeed) 0 false)] .dropBackup
  | found (hn : NavOnly cs) : MissionStep p .explore cs .goToKey
  | arrived (hn : NavOnly cs) :
      MissionStep p .goToKey (halt :: cs ++ [.gripper .open]) .pickupOpen
  | opened (hn : NavOnly cs) : MissionStep p .pickupOpen (halt :: cs) .pickupAlign
  | engaged (hn : NavOnly cs) :
      MissionStep p .pickupAlign (halt :: cs ++ [.gripper .close]) .pickupClose
  | lifted (hn : NavOnly cs) :
      MissionStep p .pickupClose (halt :: .cubeVisible false :: cs) .goToPlate
  | delivered (hn : NavOnly cs) : MissionStep p .goToPlate (halt :: cs) .dropAlign
  | released (hn : NavOnly cs) :
      MissionStep p .dropAlign (halt :: cs ++ [.gripper .open]) .dropOpen
  | shown (hn : NavOnly cs) :
      MissionStep p .dropOpen (halt :: .cubeVisible true :: cs) .dropBackup
  | finished (hn : NavOnly cs) : MissionStep p .dropBackup (halt :: cs) .done

/-- From `s` to `s'` the node emitted the commands of one step of the mission. -/
def Observed (p : Params R) (s s' : Node R) : Prop :=
  ∃ cs, s'.out = s.out ++ cs ∧ MissionStep p s.mode cs s'.mode

theorem Observed.of {p : Params R} {s s' : Node R} (ho : s'.out = s.out ++ cs) (hm : s.mode = m)
    (hm' : s'.mode = m') (h : MissionStep p m cs m') : Observed p s s' :=
  ⟨cs, ho, hm ▸ hm' ▸ h⟩

theorem Observed.silent {p : Params R} {s s' : Node R} (hm : s'.mode = s.mode)
    (ho : s'.out = s.out) : Observed p s s' :=
  .of (ho.trans (List.append_nil _).symm) rfl hm .wait

theorem NavGo.steer {p : Params R} {i : TickIn R} {s : Node R} (h : NavGo i sender name s o)
    (hm : s.mode = .explore ∨ s.mode = .goToKey ∨ s.mode = .goToPlate) :
    Observed p s o.node := by
  obtain ⟨nav, cs, hn, he⟩ := h.frame
  rw [he]
  exact .of rfl rfl rfl (.steer hm hn)

section ordered

variable [IsStrictOrderedRing R] {p : Params R}

theorem driveTwist_within (linear angular : R) (hv : 0 ≤ p.parkMaxSpeed)
    (hw : 0 ≤ p.alignMaxOmega) : (driveTwist p linear angular true).Within p :=
  ⟨abs_clamp_le _ hv, abs_clamp_le _ hw⟩

/-- The two call sites that bypass the linear clamp ask for the maximal speed itself. -/
theorem driveTwist_within_uncapped {linear : R} (hl : |linear| = p.parkMaxSpeed) (angular : R)
    (hw : 0 ≤ p.alignMaxOmega) : (driveTwist p linear angular false).Within p :=
  ⟨hl.le, abs_clamp_le _ hw⟩

theorem TickStep.mission {i : TickIn R} {s : Node R} (h : TickStep p i s o) :
    Observed p s o.node := by
  cases h with
  | notReady => exact .silent rfl rfl
  | start => exact .silent rfl rfl
  | exploreDone hs hm ht hg =>
    obtain ⟨cs, hn, he⟩ := transition_eq .goToKey s
    obtain ⟨nav, cs', hn', he'⟩ := hg.frame
    rw [he', he]
    exact .of (List.append_assoc _ _ _) hm rfl (.found (hn.append hn'))
  | exploreBusy => exact .silent rfl rfl
  | exploreNoMap => exact .silent rfl rfl
  | exploreBadMap => exact .silent rfl rfl
  | exploreFull => exact .silent rfl rfl
  | exploreNoPose => exact .silent rfl rfl
  | exploreSend hm ha x y yaw =>
    obtain ⟨nav, cs, hn, he⟩ := sendTo_eq i .explore x y yaw s
    rw [he]
    exact .of rfl rfl rfl (.steer (.inl hm) hn)
  | keyBusy => exact .silent rfl rfl
  | keyRetry hm ha hs hg => exact hg.steer (.inr (.inl hm))
  | keyReached hm =>
    obtain ⟨cs, hn, he⟩ :=
      transition_eq .pickupOpen { s.stop with lungeActive := false, lungeStart := none }
    rw [he]
    exact .of (by simp [Outcome.ok, Node.gripperOpen, Node.emit, Node.stop, halt]) hm rfl
      (.arrived hn)
  | plateBusy => exact .silent rfl rfl
  | plateRetry hm ha hs hg => exact hg.steer (.inr (.inr hm))
  | plateReached hm =>
    obtain ⟨cs, hn, he⟩ := transition_eq .dropAlign s.stop
    rw [he]
    exact .of (by simp [Outcome.ok, Node.emit, Node.stop, halt]) hm rfl (.delivered hn)
  | openWait hm => exact .of rfl rfl rfl (.hold (.inl hm))
  | opened hm =>
    obtain ⟨cs, hn, he⟩ := transition_eq .pickupAlign s.stop
    rw [he]
    exact .of (by simp [Outcome.ok, Node.emit, Node.stop, halt]) hm rfl (.opened hn)
  | closeWait hm => exact .of rfl rfl rfl (.hold (.inr (.inr (.inl hm))))
  | closed hm hr hg =>
    obtain ⟨cs, hn, he⟩ := transition_eq .goToPlate (s.stop.setCubeVisible false)
    obtain ⟨nav, cs', hn', he'⟩ := hg.frame
    rw [he', he]
    exact .of (by simp [Node.setCubeVisible, Node.emit, Node.stop, halt]) hm rfl
      (.lifted (hn.append hn'))
  | dropBlind => exact .silent rfl rfl
  | dropNoPlate => exact .silent rfl rfl
  | dropTurn hm => exact .of rfl rfl rfl (.servo (.inr hm) _ (driveTwist_within _ _))
  | dropRelease hm =>
    obtain ⟨cs, hn, he⟩ := transition_eq .dropOpen s.stop
    rw [he]
    exact .of (by simp [Outcome.ok, Node.gripperOpen, Node.emit, Node.stop, halt]) hm rfl
      (.released hn)
  | dropMove hm => exact .of rfl rfl rfl (.servo (.inr hm) _ (driveTwist_within _ _))
  | releaseWait hm => exact .of rfl rfl rfl (.hold (.inr (.inr (.inr hm))))
  | released hm start =>
    obtain ⟨cs, hn, he⟩ := transition_eq .dropBackup
      { s.stop.setCubeVisible true with backupStart := some start }
    rw [he]
    exact .of (by simp [Outcome.ok, Node.setCubeVisible, Node.emit, Node.stop, halt]) hm rfl
      (.shown hn)
  | backupBlind => exact .silent rfl rfl
  | backupNoStart => exact .silent rfl rfl
  | backupDone hm =>
    obtain ⟨cs, hn, he⟩ := transition_eq .done s.stop
    rw [he]
    exact .of (by simp [Outcome.ok, Node.emit, Node.stop, halt]) hm rfl (.finished hn)
  | backupMove hm => exact .of rfl hm hm .reverse
  | lungeBlind => exact .silent rfl rfl
  | lungeNoStart => exact .silent rfl rfl
  | lungeEnd hm =>
    obtain ⟨cs, hn, he⟩ := transition_eq .pickupClose { s.stop with lungeActive := false }
    rw [Node.engageCube, he]
    exact .of (by simp [Outcome.ok, Node.gripperClose, Node.emit, Node.stop, halt]) hm rfl
      (.engaged hn)
  | lungeMove hm =>
    exact .of rfl rfl rfl
      (.servo (.inl hm) _ fun hv => driveTwist_within_uncapped (abs_of_nonneg hv) _)
  | alignStale => exact .silent rfl rfl
  | alignTurn hm => exact .of rfl rfl rfl (.servo (.inl hm) _ (driveTwist_within _ _))
  | alignNoOdom => exact .silent rfl rfl
  | alignFreeze hm => exact .of rfl rfl rfl (.hold (.inr (.inl hm)))
  | alignMove hm => exact .of rfl rfl rfl (.servo (.inl hm) _ (driveTwist_within _ _))
  | done => exact .silent rfl rfl

/-- Callbacks other than ticks are not seen from outside. -/
theorem EventStep.mission (h : EventStep p o e o') : Observed p o.node o'.node := by
  cases h with
  | tick i h => exact h.mission
  | _ => exact .silent rfl rfl

theorem step_mission (p : Params R) (o : Outcome R) (e : Event R) :
    Observed p o.node (step p o e).node := (eventStep_step p o e).mission

end ordered

end EscapeRoom
