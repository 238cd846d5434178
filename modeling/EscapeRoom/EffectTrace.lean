import EscapeRoom.Mission
import EscapeRoom.NavMission

namespace EscapeRoom
set_option autoImplicit true
set_option linter.unusedSectionVars false

variable {R : Type}

@[simp] theorem hands_append (out out' : List (Cmd R)) :
    hands (out ++ out') = hands out ++ hands out' := List.filter_append _ _

theorem NavOnly.hands_after {cs : List (Cmd R)} (h : NavOnly cs) (before : List (Cmd R)) :
    hands (before ++ cs) = hands before := by
  rw [hands_append, h.hands_eq, List.append_nil]

theorem NavOnly.hands_between {cs : List (Cmd R)} (h : NavOnly cs) (before after : List (Cmd R)) :
    hands (before ++ cs ++ after) = hands before ++ hands after := by
  rw [hands_append, h.hands_after]

theorem visibilities_hands (out : List (Cmd R)) :
    (hands out).filterMap Cmd.visibility? = out.filterMap Cmd.visibility? := by
  rw [hands, List.filterMap_filter]
  apply List.filterMap_congr
  intro c _
  cases c <;> rfl

/-- The modes in which the cube is in the gripper or not yet let go. -/
def State.hidesCube (m : State) : Bool :=
  decide (m = .goToPlate) || decide (m = .dropAlign) || decide (m = .dropOpen)

theorem cubeHidden_enter {out cs : List (Cmd R)} {m : State} (h : cubeHidden out = m.hidesCube)
    (hn : m.next = some m') (hc : hands cs = entryCmds m') :
    cubeHidden (out ++ cs) = m'.hidesCube := by
  have hv : cs.filterMap Cmd.visibility? = (entryCmds (R := R) m').filterMap Cmd.visibility? := by
    rw [← visibilities_hands, hc]
  rw [cubeHidden, List.filterMap_append, hv]
  rw [cubeHidden] at h
  cases m <;> cases hn <;>
    simp_all [entryCmds, Cmd.visibility?, State.hidesCube]

theorem cubeHidden_stay {out cs : List (Cmd R)} (hc : hands cs = []) :
    cubeHidden (out ++ cs) = cubeHidden out := by
  have hv : cs.filterMap Cmd.visibility? = [] := by
    rw [← visibilities_hands, hc]
    rfl
  rw [cubeHidden, List.filterMap_append, hv, List.append_nil]
  rfl

variable [Field R] [LinearOrder R] [PyMath R]

/-- A step of the mission stays in its mode without a gripper or visibility command, or enters
the next mode with exactly the command of that entry. -/
theorem MissionStep.hands_eq {p : Params R} (h : MissionStep p m cs m') :
    (m' = m ∧ hands cs = []) ∨ (m.next = some m' ∧ hands cs = entryCmds m') := by
  cases h with
  | wait => exact .inl ⟨rfl, rfl⟩
  | steer hm hn => exact .inl ⟨rfl, hn.hands_eq⟩
  | hold => exact .inl ⟨rfl, rfl⟩
  | servo => exact .inl ⟨rfl, rfl⟩
  | reverse => exact .inl ⟨rfl, rfl⟩
  | found hn => exact .inr ⟨rfl, hn.hands_eq⟩
  | arrived hn => exact .inr ⟨rfl, hn.hands_between [halt] [.gripper .open]⟩
  | opened hn => exact .inr ⟨rfl, hn.hands_after [halt]⟩
  | engaged hn => exact .inr ⟨rfl, hn.hands_between [halt] [.gripper .close]⟩
  | lifted hn => exact .inr ⟨rfl, hn.hands_after [halt, .cubeVisible false]⟩
  | delivered hn => exact .inr ⟨rfl, hn.hands_after [halt]⟩
  | released hn => exact .inr ⟨rfl, hn.hands_between [halt] [.gripper .open]⟩
  | shown hn => exact .inr ⟨rfl, hn.hands_after [halt, .cubeVisible true]⟩
  | finished hn => exact .inr ⟨rfl, hn.hands_after [halt]⟩

def visitedModes (p : Params R) (es : List (Event R)) : List State :=
  Stages.visited (·.node.mode) (Runs.states (step p) (.ok .init) es)

/-- The effect trace of a run: which modes it visits, which gripper and visibility commands it
issues and when, and when the cube is hidden. -/
structure EffectTrace (p : Params R) (es : List (Event R)) : Prop where
  modes : visitedModes p es <+: missionOrder
  commands : hands (missionRun p es).node.out = (visitedModes p es).flatMap entryCmds
  script : hands (missionRun p es).node.out <+:
    [.gripper .open, .gripper .close, .cubeVisible false, .gripper .open, .cubeVisible true]
  entries : ∀ pre e, pre ++ [e] <+: es →
    ((missionRun p (pre ++ [e])).node.mode = (missionRun p pre).node.mode ∧
      hands (missionRun p (pre ++ [e])).node.out = hands (missionRun p pre).node.out) ∨
    ((∃ i, e = .tick i) ∧
      (missionRun p pre).node.mode.next = some (missionRun p (pre ++ [e])).node.mode ∧
      hands (missionRun p (pre ++ [e])).node.out = hands (missionRun p pre).node.out ++
        entryCmds (missionRun p (pre ++ [e])).node.mode)
  hidden : cubeHidden (missionRun p es).node.out = true ↔
    (missionRun p es).node.mode = .goToPlate ∨ (missionRun p es).node.mode = .dropAlign ∨
      (missionRun p es).node.mode = .dropOpen

variable [IsStrictOrderedRing R]

theorem step_hands (p : Params R) (o : Outcome R) (e : Event R) :
    ((step p o e).node.mode = o.node.mode ∧ hands (step p o e).node.out = hands o.node.out) ∨
    (o.node.mode.next = some (step p o e).node.mode ∧
      hands (step p o e).node.out = hands o.node.out ++ entryCmds (step p o e).node.mode) := by
  obtain ⟨cs, ho, h⟩ := step_mission p o e
  rw [ho, hands_append]
  rcases h.hands_eq with ⟨hm, hc⟩ | ⟨hm, hc⟩
  · exact .inl ⟨hm, by rw [hc, List.append_nil]⟩
  · exact .inr ⟨hm, by rw [hc]⟩

theorem step_advance (p : Params R) (o : Outcome R) (e : Event R) :
    Stages.Advance State.next entryCmds o.node.mode (hands o.node.out)
      (step p o e).node.mode (hands (step p o e).node.out) := by
  rcases step_hands p o e with ⟨hm, hh⟩ | ⟨hm, hh⟩
  · rw [hm, hh]
    exact .stay
  · rw [hh]
    exact .enter hm

theorem step_hidden (p : Params R) (o : Outcome R) (e : Event R)
    (h : cubeHidden o.node.out = o.node.mode.hidesCube) :
    cubeHidden (step p o e).node.out = (step p o e).node.mode.hidesCube := by
  obtain ⟨cs, ho, hstep⟩ := step_mission p o e
  rw [ho]
  rcases hstep.hands_eq with ⟨hm, hc⟩ | ⟨hm, hc⟩
  · rw [hm, cubeHidden_stay hc, h]
  · exact cubeHidden_enter h hm hc

theorem missionRun_hidden (p : Params R) (es : List (Event R)) :
    cubeHidden (missionRun p es).node.out = (missionRun p es).node.mode.hidesCube := by
  exact missionRun_invariant (fun o : Outcome R => cubeHidden o.node.out = o.node.mode.hidesCube)
    rfl (step_hidden p) es

theorem isPath_missionOrder : Stages.IsPath State.next missionOrder := by
  simp [missionOrder, Stages.IsPath, State.next]

theorem State.next_ne {m m' : State} (h : m.next = some m') : m ≠ m' := by
  cases m <;> cases h <;> decide

theorem step_mode_tick (p : Params R) (o : Outcome R) (e : Event R)
    (h : (step p o e).node.mode ≠ o.node.mode) : ∃ i, e = .tick i := by
  cases e with
  | tick i => exact ⟨i, rfl⟩
  | target name x y =>
    refine absurd ?_ h
    simp only [step, Node.onTarget, Node.setTarget]
    split
    · rfl
    · dsimp only [Outcome.ok]
      split
      · split <;> rfl
      · rfl
  | _ =>
    refine absurd ?_ h
    simp only [step]
    split <;> rfl

theorem emits_entry (p : Params R) (es : List (Event R)) (e : Event R)
    (hm : (missionRun p es).node.mode.next = some (missionRun p (es ++ [e])).node.mode) :
    ∃ cs, (missionRun p (es ++ [e])).node.out = (missionRun p es).node.out ++ cs ∧
      ∀ c ∈ entryCmds (missionRun p (es ++ [e])).node.mode, c ∈ cs := by
  rw [missionRun_concat] at hm ⊢
  obtain ⟨cs, ho, hstep⟩ := step_mission p (missionRun p es) e
  refine ⟨cs, ho, fun c hc => ?_⟩
  obtain ⟨hsame, _⟩ | ⟨_, hhands⟩ := hstep.hands_eq
  · exact absurd hsame.symm (State.next_ne hm)
  · rw [← hhands] at hc
    exact List.mem_of_mem_filter hc

theorem next_mode {p : Params R} {es : List (Event R)} {e : Event R}
    (hm : (missionRun p (es ++ [e])).node.mode ≠ (missionRun p es).node.mode) :
    (missionRun p es).node.mode.next = some (missionRun p (es ++ [e])).node.mode := by
  rw [missionRun_concat] at hm ⊢
  obtain ⟨hsame, _⟩ | ⟨hnext, _⟩ := step_hands p (missionRun p es) e
  · exact absurd hsame hm
  · exact hnext

theorem raised_of_mode {p : Params R} {es : List (Event R)} {e : Event R}
    (hm : (missionRun p (es ++ [e])).node.mode ≠ (missionRun p es).node.mode) :
    (missionRun p es).raised = none := by
  cases hr : (missionRun p es).raised with
  | none => rfl
  | some err =>
    have hended : step p (missionRun p es) e = missionRun p es := by
      unfold step
      exact if_pos (by rw [hr]; rfl)
    rw [missionRun_concat, hended] at hm
    exact absurd rfl hm

theorem tickStep_of_mode {p : Params R} {es : List (Event R)} {e : Event R}
    (hm : (missionRun p (es ++ [e])).node.mode ≠ (missionRun p es).node.mode) :
    ∃ i, e = .tick i ∧ TickStep p i (missionRun p es).node (missionRun p (es ++ [e])) := by
  obtain ⟨i, rfl⟩ : ∃ i, e = .tick i := by
    rw [missionRun_concat] at hm
    exact step_mode_tick p _ e hm
  refine ⟨i, rfl, ?_⟩
  rw [missionRun_concat, step_tick (raised_of_mode hm)]
  exact tickStep_tick p i _

theorem State.next_inj {m m' n : State} (h : m.next = some n) (h' : m'.next = some n) : m = m' := by
  cases m <;> cases h <;> cases m' <;> cases h' <;> rfl

/-- A mode is entered by a tick, from the one before it. -/
theorem entered {p : Params R} {es : List (Event R)} {e : Event R} {m m' : State}
    (hnext : m.next = some m') (hm : (missionRun p es).node.mode ≠ m')
    (hm' : (missionRun p (es ++ [e])).node.mode = m') :
    ∃ i, e = .tick i ∧ TickStep p i (missionRun p es).node (missionRun p (es ++ [e])) ∧
      (missionRun p es).node.mode = m := by
  have hne : (missionRun p (es ++ [e])).node.mode ≠ (missionRun p es).node.mode := by
    rw [hm']
    exact hm.symm
  obtain ⟨i, he, h⟩ := tickStep_of_mode hne
  have hfrom := next_mode hne
  rw [hm'] at hfrom
  exact ⟨i, he, h, State.next_inj hfrom hnext⟩

theorem missionRun_modes (p : Params R) (es : List (Event R)) :
    visitedModes p es <+: missionOrder :=
  Stages.visited_prefix (step_advance p) es isPath_missionOrder

theorem missionRun_hands (p : Params R) (es : List (Event R)) :
    hands (missionRun p es).node.out = (visitedModes p es).flatMap entryCmds := by
  have hrun := Stages.hist_run (step_advance p) (fun _ _ => State.next_ne) (.ok .init) es
  obtain ⟨ss, hss⟩ := Stages.states_head (step p) (.ok .init) es
  obtain ⟨ms, hms⟩ := Stages.visited_cons (fun o : Outcome R => o.node.mode) (.ok .init) ss
  rw [← hss] at hms
  rw [hms] at hrun
  rw [visitedModes, hms]
  exact hrun

theorem missionRun_script (p : Params R) (es : List (Event R)) :
    hands (missionRun p es).node.out <+:
      [.gripper .open, .gripper .close, .cubeVisible false, .gripper .open, .cubeVisible true] := by
  obtain ⟨rest, hrest⟩ := missionRun_modes p es
  refine ⟨rest.flatMap entryCmds, ?_⟩
  rw [missionRun_hands, ← List.flatMap_append, hrest]
  rfl

theorem visitedModes_dropBackup {es : List (Event R)}
    (h : (missionRun p es).node.mode = .dropBackup) :
    visitedModes p es = missionOrder.take 9 := by
  have hlast : (visitedModes p es).getLast? = some .dropBackup :=
    h ▸ Stages.visited_getLast? (step p) (fun o => o.node.mode) (.ok .init) es
  have htake := List.prefix_iff_eq_take.1 (missionRun_modes p es)
  have hall : ∀ n ≤ 10, (missionOrder.take n).getLast? = some .dropBackup →
      missionOrder.take n = missionOrder.take 9 := by
    decide
  rw [htake] at hlast ⊢
  exact hall _ (missionRun_modes p es).length_le hlast

noncomputable def openReply : TickIn ℝ := { tickAtOrigin with gripperState := some 1 }

noncomputable def closeReply : TickIn ℝ := { tickAtOrigin with gripperState := some 2 }

noncomputable def oneMetreOn : TickIn ℝ := { tickAtOrigin with odomTf := some ⟨1, 0, 0, 0, 0, 1⟩ }

/-- The robot faces the plate at (0, 1) from the distance at which it carries the key. -/
noncomputable def atPlate : TickIn ℝ := { tickAtOrigin with mapTf := some ⟨-0.207, 1, 0, 0, 0, 1⟩ }

/-- From the open jaws to the tick before the drop. -/
noncomputable def carrying : List (Event ℝ) :=
  [.tick openReply, .cubeLive 0.5 0 0, .tick tickAtOrigin, .tick oneMetreOn, .tick closeReply,
    .nav (.accept 1), .nav (.response 1), .nav (.finish 1 .succeeded), .nav (.result 1),
    .tick tickAtOrigin]

/-- The drop, and the first tick of backing away from it. -/
noncomputable def backingAway : List (Event ℝ) :=
  [.tick atPlate, .tick openReply, .tick tickAtOrigin]

/-- What the runs below need of the parameters. -/
structure Params.Usual (p : Params ℝ) : Prop where
  timeout : 0 < p.gripperTimeout
  fresh : 0 ≤ p.cubeLiveTimeout
  tol : 0 ≤ p.alignYawTol
  near : 0.5 ≤ p.pickupLungeStart
  carried : p.pickupEngageDist + p.pickupLungeMargin = 0.207

theorem default_usual : (Params.default : Params ℝ).Usual := by
  constructor <;> norm_num [Params.default]

theorem default_dropBackupDist : 0 < (Params.default : Params ℝ).dropBackupDist := by
  norm_num [Params.default]

section run

variable {p : Params ℝ} {s : Node ℝ}

theorem gripperReached_now (target : GripperTarget) {timeout : ℝ} (h : 0 < timeout) :
    gripperReached target (0 - 0) timeout (some target.code) = true := by
  rw [gripperReached, if_neg (by linarith)]
  exact decide_eq_true rfl

theorem tick_opened (hp : 0 < p.gripperTimeout) (hs : s.started = true)
    (hm : s.mode = .pickupOpen) (ha : s.actionT = 0) :
    s.tick p openReply = .ok (s.stop.transition .pickupAlign) := by
  have ha' : s.stop.actionT = 0 := ha
  have hreply : gripperReached .open ((0 : ℝ) - 0) p.gripperTimeout (some 1) = true :=
    gripperReached_now .open hp
  simp only [Node.tick, hs, Node.handle, hm, Node.pickupOpen, openReply, tickAtOrigin, ha', hreply]
  rfl

theorem tick_frozen (hp : p.Usual) (hs : s.started = true) (hm : s.mode = .pickupAlign)
    (hl : s.lungeActive = false) (hc : s.cubeLive = some (0.5, 0, 0)) :
    s.tick p tickAtOrigin = .ok { s with
      lungeActive := true
      lungeStart := some (0, 0)
      lungeDist := max 0 (0.5 - p.pickupEngageDist - p.pickupLungeMargin) }.stop := by
  have hfresh : s.cubeFresh p tickAtOrigin = true := by
    simpa [Node.cubeFresh, hc, tickAtOrigin] using hp.fresh
  have hb : ¬ |(PyMath.atan2 0 0.5 : ℝ)| > p.alignYawTol := by
    rw [atan2_zero_left (by norm_num), abs_zero]
    exact hp.tol.not_gt
  have hr : (PyMath.hypot 0.5 0 : ℝ) = 0.5 := hypot_zero_right (by norm_num)
  rw [Node.tick, if_neg (by simp [hs]), Node.handle, hm]
  dsimp only
  rw [Node.pickupAlign, if_neg (by simp [hl]), if_neg (by simp [hfresh]), hc]
  dsimp only
  rw [if_neg hb, hr, if_pos hp.near, ← hm, ← hc]
  rfl

theorem tick_engaged (hs : s.started = true) (hm : s.mode = .pickupAlign)
    (hl : s.lungeActive = true) (hstart : s.lungeStart = some (0, 0)) (hd : s.lungeDist ≤ 1) :
    s.tick p oneMetreOn =
      .ok ({ s.stop with lungeActive := false }.engageCube oneMetreOn) := by
  have hr : (PyMath.hypot (1 - 0) (0 - 0) : ℝ) = 1 := by
    rw [sub_zero, sub_zero]
    exact hypot_zero_right (by norm_num)
  rw [Node.tick, if_neg (by simp [hs]), Node.handle, hm]
  dsimp only
  rw [Node.pickupAlign, if_pos hl, Node.pickupLunge, oneMetreOn]
  simp only [getOdomPose, Option.map_some, hstart, hr]
  rw [if_pos hd]

theorem tick_lifted (hp : p.Usual) (hs : s.started = true) (hm : s.mode = .pickupClose)
    (ha : s.actionT = 0) : s.tick p closeReply =
      ((s.stop.setCubeVisible false).transition .goToPlate).navGoToPlate closeReply := by
  have ha' : s.stop.actionT = 0 := ha
  have hreply : gripperReached .close ((0 : ℝ) - 0) p.gripperTimeout (some 2) = true :=
    gripperReached_now .close hp.timeout
  simp only [Node.tick, hs, Node.handle, hm, Node.pickupClose, closeReply, tickAtOrigin, ha',
    hreply]
  rfl

theorem pose_atPlate : getRobotPose atPlate.mapTf = some (-0.207, 1, 0) := by
  have hyaw : (PyMath.atan2 (2.0 * (1 * 0 + 0 * 0)) (1.0 - 2.0 * (0 ^ 2 + 0 ^ 2)) : ℝ) = 0 := by
    norm_num
    exact atan2_zero_left (by norm_num)
  simp only [atPlate, getRobotPose, Option.map_some, hyaw]

theorem tick_released (hp : p.Usual) (hs : s.started = true) (hm : s.mode = .dropAlign)
    (ht : s.targets .plate = some (0, 1)) :
    s.tick p atPlate = .ok { s.stop.transition .dropOpen with actionT := 0 }.gripperOpen := by
  have hbase : Node.plateInBase (-0.207 : ℝ) 1 0 0 1 = (0.207, 0) := by
    norm_num [Node.plateInBase, PyMath.cos, PyMath.sin]
  have hb : ¬ |(PyMath.atan2 0 0.207 : ℝ)| > p.alignYawTol := by
    rw [atan2_zero_left (by norm_num), abs_zero]
    exact hp.tol.not_gt
  have hr : (PyMath.hypot 0.207 0 : ℝ) = 0.207 := hypot_zero_right (by norm_num)
  have he : |(0.207 : ℝ) - 0.207| ≤ 0.03 := by norm_num
  rw [Node.tick, if_neg (by simp [hs]), Node.handle, hm]
  dsimp only
  rw [Node.dropAlign, pose_atPlate, ht]
  dsimp only
  rw [hbase]
  dsimp only
  rw [if_neg hb, hr, hp.carried, if_pos he]
  rfl

theorem tick_delivered (hs : s.started = true) (hm : s.mode = .goToPlate)
    (ha : s.nav.client.active = false) (hsucc : s.nav.client.succeeded = true) :
    s.tick p tickAtOrigin = .ok (s.stop.transition .dropAlign) := by
  simp only [Node.tick, hs, Node.handle, hm, Node.goToPlate, ha, hsucc]
  rfl

theorem step_lifted (hp : p.Usual) (hs : s.started = true) (hm : s.mode = .pickupClose)
    (ha : s.actionT = 0) (ht : s.targets .plate = some (0, 1)) :
    ∃ (s' : Node ℝ) (r : NavRequest ℝ),
      step p (.ok s) (.tick closeReply) = .ok s' ∧ s'.started = true ∧
        s'.mode = .goToPlate ∧ s'.targets .plate = some (0, 1) ∧
          s'.nav = s.nav.cancel.send true r := by
  have hstep : step p (.ok s) (.tick closeReply) =
      ((s.stop.setCubeVisible false).transition .goToPlate).navGoToPlate closeReply :=
    tick_lifted hp hs hm ha
  have hgo := navGo_navGoToPlate closeReply ((s.stop.setCubeVisible false).transition .goToPlate)
  rw [← hstep] at hgo
  generalize step p (.ok s) (.tick closeReply) = o at hgo
  cases hgo with
  | noPose hp => cases hp
  | noTarget ht' => cases ht.symm.trans ht'
  | sent => exact ⟨_, _, rfl, hs, rfl, ht, rfl⟩

/-- The goal for the plate is accepted, ends well, and the node hears of it. -/
theorem run_delivered {r r' : NavRequest ℝ} (hs : s.started = true) (hm : s.mode = .goToPlate)
    (ht : s.targets .plate = some (0, 1))
    (hn : s.nav = NavLink.send true r'
      (NavLink.cancel ⟨{}, [⟨r, .ended .succeeded .result, false, true⟩]⟩)) :
    ∃ s' : Node ℝ, Runs.run (step p) (.ok s) [.nav (.accept 1), .nav (.response 1),
        .nav (.finish 1 .succeeded), .nav (.result 1), .tick tickAtOrigin] = .ok s' ∧
      s'.started = true ∧ s'.mode = .dropAlign ∧ s'.targets .plate = some (0, 1) := by
  obtain ⟨nav, hnav⟩ : ∃ nav, nav = (((s.nav.step (.accept 1)).step (.response 1)).step
      (.finish 1 .succeeded)).step (.result 1) := ⟨_, rfl⟩
  have hactive : nav.client.active = false := by
    rw [hnav, hn]
    rfl
  have hsucceeded : nav.client.succeeded = true := by
    rw [hnav, hn]
    rfl
  rw [run_succeeds, ← hnav]
  exact ⟨_, tick_delivered hs hm hactive hsucceeded, hs, rfl, ht⟩

/-- The jaws open, the cube is approached, taken and carried to the plate. -/
theorem run_carrying (hp : p.Usual) (h : AtKey s) :
    ∃ s' : Node ℝ, Runs.run (step p) (.ok s) carrying = .ok s' ∧
      s'.started = true ∧ s'.mode = .dropAlign ∧ s'.targets .plate = some (0, 1) := by
  obtain ⟨hs, hm, ha, hl, _, ht, r, hn⟩ := h
  obtain ⟨s₁, h₁, hs₁, hm₁, hl₁, ht₁, hn₁⟩ : ∃ s₁ : Node ℝ,
      step p (.ok s) (.tick openReply) = .ok s₁ ∧ s₁.started = true ∧
        s₁.mode = .pickupAlign ∧ s₁.lungeActive = false ∧ s₁.targets .plate = some (0, 1) ∧
          s₁.nav = s.nav.cancel :=
    ⟨_, tick_opened hp.timeout hs hm ha, hs, rfl, hl, ht, rfl⟩
  obtain ⟨s₂, h₂, hs₂, hm₂, hl₂, hc₂, ht₂, hn₂⟩ : ∃ s₂ : Node ℝ,
      step p (.ok s₁) (.cubeLive 0.5 0 0) = .ok s₂ ∧ s₂.started = true ∧
        s₂.mode = .pickupAlign ∧ s₂.lungeActive = false ∧ s₂.cubeLive = some (0.5, 0, 0) ∧
          s₂.targets .plate = some (0, 1) ∧ s₂.nav = s₁.nav :=
    ⟨_, rfl, hs₁, hm₁, hl₁, rfl, ht₁, rfl⟩
  obtain ⟨s₃, h₃, hs₃, hm₃, hl₃, hstart₃, hd₃, ht₃, hn₃⟩ : ∃ s₃ : Node ℝ,
      step p (.ok s₂) (.tick tickAtOrigin) = .ok s₃ ∧ s₃.started = true ∧
        s₃.mode = .pickupAlign ∧ s₃.lungeActive = true ∧ s₃.lungeStart = some (0, 0) ∧
          s₃.lungeDist = max 0 (0.5 - p.pickupEngageDist - p.pickupLungeMargin) ∧
            s₃.targets .plate = some (0, 1) ∧ s₃.nav = s₂.nav :=
    ⟨_, tick_frozen hp hs₂ hm₂ hl₂ hc₂, hs₂, hm₂, rfl, rfl, rfl, ht₂, rfl⟩
  have hshort : s₃.lungeDist ≤ 1 := by
    rw [hd₃]
    exact max_le zero_le_one (by linarith [hp.carried])
  obtain ⟨s₄, h₄, hs₄, hm₄, ha₄, ht₄, hn₄⟩ : ∃ s₄ : Node ℝ,
      step p (.ok s₃) (.tick oneMetreOn) = .ok s₄ ∧ s₄.started = true ∧
        s₄.mode = .pickupClose ∧ s₄.actionT = 0 ∧ s₄.targets .plate = some (0, 1) ∧
          s₄.nav = s₃.nav.cancel :=
    ⟨_, tick_engaged hs₃ hm₃ hl₃ hstart₃ hshort, hs₃, rfl, rfl, ht₃, rfl⟩
  obtain ⟨s₅, r', h₅, hs₅, hm₅, ht₅, hn₅⟩ := step_lifted hp hs₄ hm₄ ha₄ ht₄
  rw [hn₄, hn₃, hn₂, hn₁, hn] at hn₅
  rw [carrying, Runs.run_cons, h₁, Runs.run_cons, h₂, Runs.run_cons, h₃, Runs.run_cons, h₄,
    Runs.run_cons, h₅]
  exact run_delivered hs₅ hm₅ ht₅ hn₅

theorem tick_shown (hp : p.Usual) (hs : s.started = true) (hm : s.mode = .dropOpen)
    (ha : s.actionT = 0) : s.tick p openReply =
      .ok ({ s.stop.setCubeVisible true with backupStart := some (0, 0) }.transition
        .dropBackup) := by
  have ha' : s.stop.actionT = 0 := ha
  have hreply : gripperReached .open ((0 : ℝ) - 0) p.gripperTimeout (some 1) = true :=
    gripperReached_now .open hp.timeout
  simp only [Node.tick, hs, Node.handle, hm, Node.dropOpen, openReply, tickAtOrigin, ha', hreply]
  rfl

theorem tick_reversed (hs : s.started = true) (hm : s.mode = .dropBackup)
    (hb : s.backupStart = some (0, 0)) (hd : 0 < p.dropBackupDist) :
    s.tick p tickAtOrigin = .ok (s.drive p (-p.parkMaxSpeed) 0 false) := by
  have hr : (PyMath.hypot (0 - 0) (0 - 0) : ℝ) = 0 := hypot_self 0 0
  rw [Node.tick, if_neg (by simp [hs]), Node.handle, hm]
  dsimp only
  rw [Node.dropBackup, hb, tickAtOrigin]
  simp only [getOdomPose, Option.map_some, hr]
  rw [if_neg hd.not_ge]

/-- The key is let go of, the jaws open, the cube is shown again, and the robot backs away. -/
theorem run_backingAway (hp : p.Usual) (hd : 0 < p.dropBackupDist) (hs : s.started = true)
    (hm : s.mode = .dropAlign) (ht : s.targets .plate = some (0, 1)) :
    ∃ s₁ s₂ : Node ℝ, step p (.ok s) (.tick atPlate) = .ok s₁ ∧ s₁.mode = .dropOpen ∧
      s₂.mode = .dropBackup ∧ s.out <+: s₂.out ∧
        Runs.run (step p) (.ok s) backingAway = .ok (s₂.drive p (-p.parkMaxSpeed) 0 false) := by
  obtain ⟨s₁, h₁, hs₁, hm₁, ha₁, hout₁⟩ : ∃ s₁ : Node ℝ,
      step p (.ok s) (.tick atPlate) = .ok s₁ ∧ s₁.started = true ∧
        s₁.mode = .dropOpen ∧ s₁.actionT = 0 ∧
          s₁.out = s.stop.out ++ s.nav.client.handle.toList.map .cancelGoal ++ [.gripper .open] :=
    ⟨_, tick_released hp hs hm ht, hs, rfl, rfl, rfl⟩
  obtain ⟨s₂, h₂, hs₂, hm₂, hb₂, hout₂⟩ : ∃ s₂ : Node ℝ,
      step p (.ok s₁) (.tick openReply) = .ok s₂ ∧ s₂.started = true ∧
        s₂.mode = .dropBackup ∧ s₂.backupStart = some (0, 0) ∧
          s₂.out = s₁.out ++ [halt] ++ [.cubeVisible true] ++
            s₁.nav.client.handle.toList.map .cancelGoal :=
    ⟨_, tick_shown hp hs₁ hm₁ ha₁, hs₁, rfl, rfl, rfl⟩
  have h₃ : step p (.ok s₂) (.tick tickAtOrigin) = .ok (s₂.drive p (-p.parkMaxSpeed) 0 false) :=
    tick_reversed hs₂ hm₂ hb₂ hd
  have hprefix : s.out <+: s₂.out := by
    rw [hout₂, hout₁, Node.stop, Node.emit]
    simp only [List.append_assoc, List.prefix_append]
  refine ⟨s₁, s₂, h₁, hm₁, hm₂, hprefix, ?_⟩
  rw [backingAway, Runs.run_cons, h₁, Runs.run_cons, h₂, Runs.run_cons, h₃, Runs.run_nil]

end run

theorem missionRun_keyCarried {p : Params ℝ} (hp : p.Usual) : ∃ s : Node ℝ,
    missionRun p (promptArrival ++ carrying) = .ok s ∧ s.started = true ∧
      s.mode = .dropAlign ∧ s.targets .plate = some (0, 1) := by
  obtain ⟨s, hrun, hs⟩ := missionRun_promptArrival p
  rw [missionRun] at hrun
  rw [missionRun, Runs.run_append, hrun]
  exact run_carrying hp hs

/-- The modes of every run follow the mission, and its gripper and visibility commands are the
matching part of open, close, hide, open, show. -/
theorem effect_trace (p : Params R) (es : List (Event R)) : EffectTrace p es := by
  refine ⟨missionRun_modes p es, missionRun_hands p es, missionRun_script p es, ?_, ?_⟩
  · intro pre e _
    simp only [missionRun, Runs.run_concat]
    rcases step_hands p (missionRun p pre) e with h | ⟨hm, hh⟩
    · exact .inl h
    · exact .inr ⟨step_mode_tick p _ e (State.next_ne hm).symm, hm, hh⟩
  · rw [missionRun_hidden]
    simp [State.hidesCube, or_assoc]

theorem effect_trace_backingAway :
    visitedModes Params.default (promptArrival ++ carrying ++ backingAway) =
      [.explore, .goToKey, .pickupOpen, .pickupAlign, .pickupClose, .goToPlate, .dropAlign,
        .dropOpen, .dropBackup] ∧
      EffectTrace Params.default (promptArrival ++ carrying ++ backingAway) := by
  refine ⟨?_, effect_trace Params.default _⟩
  obtain ⟨s, hrun, hs, hm, ht⟩ := missionRun_keyCarried default_usual
  obtain ⟨_, s₂, _, _, hm₂, _, hend⟩ :=
    run_backingAway default_usual default_dropBackupDist hs hm ht
  apply visitedModes_dropBackup
  rw [missionRun, Runs.run_append, ← missionRun, hrun, hend]
  exact hm₂

end EscapeRoom
