import EscapeRoom.Release

namespace EscapeRoom
set_option autoImplicit true
set_option linter.unusedSectionVars false

/-- The modes from the opening of the gripper over the plate on. -/
def State.afterRelease (m : State) : Bool :=
  decide (m = .dropOpen) || decide (m = .dropBackup) || decide (m = .done)

variable {R : Type} [Field R] [LinearOrder R] [PyMath R]

/-- What a tick of these modes can do. -/
inductive FinalStep (p : Params R) (i : TickIn R) (s : Node R) : Outcome R → Prop where
  | wait : FinalStep p i s (.ok s)
  | hold (hm : s.mode = .dropOpen) : FinalStep p i s (.ok s.stop)
  | shown (hm : s.mode = .dropOpen) (start : R × R) (hp : getOdomPose i.odomTf = some start)
      (hg : gripperReached .open (i.clock - s.actionT) p.gripperTimeout i.gripperState = true) :
      FinalStep p i s
        (.ok ({ s.stop.setCubeVisible true with backupStart := some start }.transition .dropBackup))
  | reverse (hm : s.mode = .dropBackup) :
      FinalStep p i s (.ok (s.drive p (-p.parkMaxSpeed) 0 false))
  | away (hm : s.mode = .dropBackup) (pose start : R × R) (hp : getOdomPose i.odomTf = some pose)
      (hb : s.backupStart = some start)
      (hd : p.dropBackupDist ≤ PyMath.hypot (pose.1 - start.1) (pose.2 - start.2)) :
      FinalStep p i s (.ok (s.stop.transition .done))

theorem TickStep.final {p : Params R} {i : TickIn R} {s : Node R} (h : TickStep p i s o)
    (hs : Equipped s) (hm : s.mode.afterRelease = true) : FinalStep p i s o := by
  cases h with
  | notReady => exact .wait
  | start hn =>
    have hstart := hs.started (by intro he; simp [he, State.afterRelease] at hm)
    rw [hn] at hstart
    cases hstart
  | releaseWait hm' => exact .hold hm'
  | released hm' start hp hg => exact .shown hm' start hp hg
  | backupBlind => exact .wait
  | backupNoStart hm' hb =>
    obtain ⟨start, hstart⟩ := hs.backup hm'
    rw [hb] at hstart
    cases hstart
  | backupDone hm' pose start hp hb hd => exact .away hm' pose start hp hb hd
  | backupMove hm' => exact .reverse hm'
  | done => exact .wait
  | _ =>
    rw [‹s.mode = _›] at hm
    cases hm

/-- What the robot may do while the key lies between its open jaws. -/
def Cmd.Clear (p : Params R) : Cmd R → Prop
  | .twist t => (t.linearX = 0 ∨ t.linearX = -p.parkMaxSpeed) ∧
      (0 ≤ p.alignMaxOmega → t.angularZ = 0)
  | .cancelGoal _ | .cubeVisible _ => True
  | .markGoal _ | .sendGoal _ | .gripper _ => False

theorem clear_halt (p : Params R) : (halt : Cmd R).Clear p := ⟨.inl rfl, fun _ => rfl⟩

theorem clear_cancels (p : Params R) (nav : NavLink (NavRequest R)) :
    ∀ c ∈ nav.client.handle.toList.map Cmd.cancelGoal, c.Clear p := by
  intro c hc
  obtain ⟨handle, _, rfl⟩ := List.mem_map.1 hc
  trivial

/-- The commands added between two nodes leave the key alone. -/
def AddsClear (p : Params R) (out out' : List (Cmd R)) : Prop :=
  ∃ cs, out' = out ++ cs ∧ ∀ c ∈ cs, c.Clear p

theorem AddsClear.refl (p : Params R) (out : List (Cmd R)) : AddsClear p out out :=
  ⟨[], (List.append_nil _).symm, by simp⟩

theorem AddsClear.trans {p : Params R} {out out' out'' : List (Cmd R)} (h : AddsClear p out out')
    (h' : AddsClear p out' out'') : AddsClear p out out'' := by
  obtain ⟨cs, rfl, hcs⟩ := h
  obtain ⟨cs', rfl, hcs'⟩ := h'
  refine ⟨cs ++ cs', List.append_assoc _ _ _, fun c hc => ?_⟩
  obtain hc | hc := List.mem_append.1 hc
  · exact hcs c hc
  · exact hcs' c hc

theorem AddsClear.one {p : Params R} {c : Cmd R} (h : c.Clear p) (out : List (Cmd R)) :
    AddsClear p out (out ++ [c]) := ⟨[c], rfl, by simpa using h⟩

theorem AddsClear.transition (p : Params R) (m : State) (s : Node R) :
    AddsClear p s.out (s.transition m).out := ⟨_, rfl, clear_cancels p s.nav⟩

variable [IsStrictOrderedRing R]

/-- The reversing command turns the robot only where the rate limit is negative. -/
theorem clear_reverse (p : Params R) :
    (Cmd.twist (driveTwist p (-p.parkMaxSpeed) 0 false)).Clear p := by
  refine ⟨.inr rfl, fun hw => ?_⟩
  have hclamp : clamp 0 (-p.alignMaxOmega) p.alignMaxOmega = 0 := by
    rw [clamp, min_eq_right hw, max_eq_right (neg_nonpos.2 hw)]
  exact hclamp

theorem FinalStep.clear {p : Params R} {i : TickIn R} {s : Node R} (h : FinalStep p i s o)
    (hm : s.mode.afterRelease = true) :
    o.node.mode.afterRelease = true ∧ AddsClear p s.out o.node.out := by
  have hstop : AddsClear p s.out s.stop.out := .one (clear_halt p) _
  cases h with
  | wait => exact ⟨hm, .refl p _⟩
  | hold => exact ⟨hm, hstop⟩
  | shown hm' start =>
    refine ⟨rfl, (hstop.trans (.one (c := .cubeVisible true) trivial _)).trans ?_⟩
    exact .transition p .dropBackup { s.stop.setCubeVisible true with backupStart := some start }
  | reverse => exact ⟨hm, .one (clear_reverse p) _⟩
  | away => exact ⟨rfl, hstop.trans (.transition p .done s.stop)⟩

/-- From a node that has opened the gripper over the plate on. -/
structure Released (p : Params R) (out : List (Cmd R)) (s : Node R) : Prop where
  mode : s.mode.afterRelease = true
  equipped : Equipped s
  clear : AddsClear p out s.out

theorem EventStep.released {p : Params R} {out : List (Cmd R)} (h : EventStep p o e o')
    (hr : Released p out o.node) : Released p out o'.node := by
  have hs := h.equipped hr.equipped
  cases h with
  | tick i h =>
    obtain ⟨hm, hclear⟩ := (h.final hr.equipped hr.mode).clear hr.mode
    exact ⟨hm, hs, hr.clear.trans hclear⟩
  | _ => exact ⟨hr.mode, hs, hr.clear⟩

/-- The tick of `DROP_ALIGN` that opens the gripper. -/
def Releases (p : Params R) (pre : List (Event R)) (i : TickIn R) : Prop :=
  (missionRun p pre).node.mode = .dropAlign ∧
    ∃ cs, (missionRun p (pre ++ [.tick i])).node.out = (missionRun p pre).node.out ++ cs ∧
      .gripper .open ∈ cs

/-- At time `t` a tick of the run opened the gripper over the plate. -/
def OpenedAt (p : Params R) (es : List (Event R)) (t : R) : Prop :=
  ∃ pre i, pre ++ [.tick i] <+: es ∧ Releases p pre i ∧ t = i.clock

/-- A tick of the run that took the gripper as open recorded the odom pose `start` and showed the
key again. -/
structure ShowsAt (p : Params R) (pre : List (Event R)) (i : TickIn R) (start : R × R) : Prop where
  mode : (missionRun p pre).node.mode = .dropOpen
  opened : OpenedAt p pre (missionRun p pre).node.actionT
  accepted : gripperReached .open (i.clock - (missionRun p pre).node.actionT) p.gripperTimeout
    i.gripperState = true
  odom : getOdomPose i.odomTf = some start
  visible : ∃ cs, (missionRun p (pre ++ [.tick i])).node.out =
    (missionRun p pre).node.out ++ cs ∧ .cubeVisible true ∈ cs

/-- What the history of a run says about the attributes that the last modes read. -/
structure ReleaseHistory (p : Params R) (es : List (Event R)) : Prop where
  opened : (missionRun p es).node.mode = .dropOpen →
    OpenedAt p es (missionRun p es).node.actionT
  shown : (missionRun p es).node.mode = .dropBackup →
    ∃ start, (missionRun p es).node.backupStart = some start ∧
      ∃ pre i, pre ++ [.tick i] <+: es ∧ ShowsAt p pre i start

theorem OpenedAt.mono {p : Params R} {es es' : List (Event R)} {t : R} (h : OpenedAt p es t)
    (hp : es <+: es') : OpenedAt p es' t := by
  obtain ⟨pre, i, hpre, hr⟩ := h
  exact ⟨pre, i, hpre.trans hp, hr⟩

theorem releases_of_mode {p : Params R} {es : List (Event R)} {i : TickIn R}
    (hm : (missionRun p es).node.mode = .dropAlign)
    (hm' : (missionRun p (es ++ [.tick i])).node.mode = .dropOpen) : Releases p es i := by
  obtain ⟨cs, hout, hcs⟩ := emits_entry p es (.tick i) (by rw [hm, hm']; rfl)
  rw [hm'] at hcs
  exact ⟨hm, cs, hout, hcs _ (.head _)⟩

theorem openedAt_of_mode {p : Params R} {es : List (Event R)} {e : Event R}
    (hm : (missionRun p es).node.mode ≠ .dropOpen)
    (hm' : (missionRun p (es ++ [e])).node.mode = .dropOpen) :
    OpenedAt p (es ++ [e]) (missionRun p (es ++ [e])).node.actionT := by
  obtain ⟨i, rfl, h, hfrom⟩ := entered (m := .dropAlign) rfl hm hm'
  refine ⟨es, i, List.prefix_rfl, releases_of_mode hfrom hm', ?_⟩
  rw [(h.release hfrom hm').1]
  rfl

/-- Entering `DROP_BACKUP` is taking the gripper as open and showing the key. -/
theorem showsAt_of_mode {p : Params R} {es : List (Event R)} {e : Event R}
    (ih : ReleaseHistory p es) (hm : (missionRun p es).node.mode ≠ .dropBackup)
    (hm' : (missionRun p (es ++ [e])).node.mode = .dropBackup) :
    ∃ i start, e = .tick i ∧ (missionRun p (es ++ [e])).node.backupStart = some start ∧
      ShowsAt p es i start := by
  obtain ⟨i, rfl, h, hfrom⟩ := entered (m := .dropOpen) rfl hm hm'
  obtain ⟨cs, hout, hcs⟩ := emits_entry p es (.tick i) (by rw [hfrom, hm']; rfl)
  rw [hm'] at hcs
  have hfinal := h.final (missionRun_equipped p es) (by rw [hfrom]; rfl)
  generalize hg : missionRun p (es ++ [.tick i]) = o at hfinal hm' hout
  cases hfinal with
  | shown _ start hp hreached =>
    have hvisible : ∃ cs, (missionRun p (es ++ [.tick i])).node.out =
        (missionRun p es).node.out ++ cs ∧ .cubeVisible true ∈ cs := by
      rw [hg]
      exact ⟨cs, hout, hcs _ (.head _)⟩
    exact ⟨i, start, rfl, rfl, hfrom, ih.opened hfrom, hreached, hp, hvisible⟩
  | wait => exact absurd hm' hm
  | hold => exact absurd hm' hm
  | reverse => exact absurd hm' hm
  | away => cases hm'

theorem EventStep.keeps {p : Params R} (h : EventStep p o e o') (hs : Equipped o.node)
    (hm : o.node.mode.afterRelease = true) (hm' : o'.node.mode = o.node.mode) :
    o'.node.actionT = o.node.actionT ∧ o'.node.backupStart = o.node.backupStart := by
  cases h with
  | tick i h =>
    have hfinal := h.final hs hm
    cases hfinal with
    | shown hopen => cases hm'.trans hopen
    | away hback => cases hm'.trans hback
    | _ => exact ⟨rfl, rfl⟩
  | _ => exact ⟨rfl, rfl⟩

theorem releaseHistory (p : Params R) (es : List (Event R)) : ReleaseHistory p es := by
  induction es using List.reverseRecOn with
  | nil =>
    constructor
    · intro hm
      cases hm
    · intro hm
      cases hm
  | append_singleton es e ih =>
    have hkeeps := (eventStep_step p (missionRun p es) e).keeps (missionRun_equipped p es)
    rw [← missionRun_concat] at hkeeps
    constructor
    · intro hm'
      by_cases hm : (missionRun p es).node.mode = .dropOpen
      · rw [(hkeeps (by rw [hm]; rfl) (hm'.trans hm.symm)).1]
        exact (ih.opened hm).mono (List.prefix_append _ _)
      · exact openedAt_of_mode hm hm'
    · intro hm'
      by_cases hm : (missionRun p es).node.mode = .dropBackup
      · obtain ⟨start, hstart, pre, i, hpre, hs⟩ := ih.shown hm
        rw [(hkeeps (by rw [hm]; rfl) (hm'.trans hm.symm)).2]
        exact ⟨start, hstart, pre, i, hpre.trans (List.prefix_append _ _), hs⟩
      · obtain ⟨i, start, rfl, hstart, hs⟩ := showsAt_of_mode ih hm hm'
        exact ⟨start, hstart, es, i, List.prefix_rfl, hs⟩

/-- From the opening of the gripper over the plate on, a run leaves the key alone, backs away from
where it showed the key, and then rests. -/
structure ReleaseSafe (p : Params R) (es : List (Event R)) : Prop where
  clear : ∀ pre i post, es = pre ++ .tick i :: post → Releases p pre i →
    ∃ cs, (missionRun p es).node.out = (missionRun p pre).node.out ++ cs ∧
      (∀ t, .twist t ∈ cs → (t.linearX = 0 ∨ t.linearX = -p.parkMaxSpeed) ∧
        (0 ≤ p.alignMaxOmega → t.angularZ = 0)) ∧
      (∀ r, .sendGoal r ∉ cs) ∧ ∀ g, .markGoal g ∉ cs
  away : ∀ pre e, pre ++ [e] <+: es → (missionRun p pre).node.mode ≠ .done →
    (missionRun p (pre ++ [e])).node.mode = .done →
      ∃ i pose start, e = .tick i ∧ getOdomPose i.odomTf = some pose ∧
        (∃ before j, before ++ [.tick j] <+: pre ∧ ShowsAt p before j start) ∧
          p.dropBackupDist ≤ PyMath.hypot (pose.1 - start.1) (pose.2 - start.2)
  silent : ∀ pre post, es = pre ++ post → (missionRun p pre).node.mode = .done →
    (missionRun p es).node.out = (missionRun p pre).node.out

theorem Releases.mode {p : Params R} {pre : List (Event R)} {i : TickIn R}
    (h : Releases p pre i) : (missionRun p (pre ++ [.tick i])).node.mode = .dropOpen := by
  obtain ⟨hm, cs, hout, hopen⟩ := h
  obtain ⟨cs', hout', hstep⟩ := step_mission p (missionRun p pre) (.tick i)
  rw [← missionRun_concat] at hout' hstep
  obtain rfl := List.append_cancel_left (hout.symm.trans hout')
  rw [hm] at hstep
  generalize (missionRun p (pre ++ [.tick i])).node.mode = m at hstep ⊢
  cases hstep with
  | released => rfl
  | wait => cases hopen
  | steer hm' => rcases hm' with h | h | h <;> cases h
  | hold hm' => rcases hm' with h | h | h | h <;> cases h
  | servo => simp at hopen

/-- The tick that opens the gripper stops the robot and sends no goal. -/
theorem Releases.released {p : Params R} {pre : List (Event R)} {i : TickIn R}
    (h : Releases p pre i) : ∃ out, Released p out (missionRun p (pre ++ [.tick i])).node ∧
      out = (missionRun p pre).node.out ++ [halt] ++
        (missionRun p pre).node.nav.client.handle.toList.map .cancelGoal ++ [.gripper .open] := by
  have hm := h.mode
  have hne : (missionRun p (pre ++ [.tick i])).node.mode ≠ (missionRun p pre).node.mode := by
    rw [hm, h.1]
    decide
  obtain ⟨j, hj, hstep⟩ := tickStep_of_mode hne
  cases hj
  refine ⟨_, ⟨by rw [hm]; rfl, missionRun_equipped p _, .refl p _⟩, ?_⟩
  rw [(hstep.release h.1 hm).1]
  rfl

theorem releaseSafe_clear (p : Params R) {es pre post : List (Event R)} {i : TickIn R}
    (hes : es = pre ++ .tick i :: post) (hr : Releases p pre i) :
    ∃ cs, (missionRun p es).node.out = (missionRun p pre).node.out ++ cs ∧
      (∀ t, .twist t ∈ cs → (t.linearX = 0 ∨ t.linearX = -p.parkMaxSpeed) ∧
        (0 ≤ p.alignMaxOmega → t.angularZ = 0)) ∧
      (∀ r, .sendGoal r ∉ cs) ∧ ∀ g, .markGoal g ∉ cs := by
  obtain ⟨out, hreleased, hout⟩ := hr.released
  have hrun : missionRun p es = Runs.run (step p) (missionRun p (pre ++ [.tick i])) post := by
    rw [hes, List.append_cons, missionRun, Runs.run_append, missionRun]
  have hend : Released p out (missionRun p es).node := by
    rw [hrun]
    exact Runs.invariant (I := fun o : Outcome R => Released p out o.node) hreleased
      (fun o e => (eventStep_step p o e).released) post
  obtain ⟨cs, hcs, hclear⟩ := hend.clear
  have hcancels := clear_cancels p (missionRun p pre).node.nav
  obtain ⟨after, hafter, hall⟩ : ∃ after,
      (missionRun p es).node.out = (missionRun p pre).node.out ++ after ∧
        ∀ c ∈ after, c = .gripper .open ∨ c.Clear p := by
    refine ⟨halt :: ((missionRun p pre).node.nav.client.handle.toList.map .cancelGoal ++
      .gripper .open :: cs), ?_, fun c hc => ?_⟩
    · rw [hcs, hout]
      simp only [List.append_assoc, List.cons_append, List.nil_append]
    rcases List.mem_cons.1 hc with rfl | hc
    · exact .inr (clear_halt p)
    rcases List.mem_append.1 hc with hc | hc
    · exact .inr (hcancels c hc)
    rcases List.mem_cons.1 hc with rfl | hc
    · exact .inl rfl
    · exact .inr (hclear c hc)
  refine ⟨after, hafter, fun t ht => ?_, fun r hr => ?_, fun g hg => ?_⟩
  · exact (hall _ ht).resolve_left (by simp)
  · exact (hall _ hr).resolve_left (by simp)
  · exact (hall _ hg).resolve_left (by simp)

theorem releaseSafe_away (p : Params R) {pre : List (Event R)} {e : Event R}
    (hm : (missionRun p pre).node.mode ≠ .done)
    (hm' : (missionRun p (pre ++ [e])).node.mode = .done) :
    ∃ i pose start, e = .tick i ∧ getOdomPose i.odomTf = some pose ∧
      (∃ before j, before ++ [.tick j] <+: pre ∧ ShowsAt p before j start) ∧
        p.dropBackupDist ≤ PyMath.hypot (pose.1 - start.1) (pose.2 - start.2) := by
  obtain ⟨i, rfl, h, hfrom⟩ := entered (m := .dropBackup) rfl hm hm'
  obtain ⟨start, hstart, hshown⟩ := (releaseHistory p pre).shown hfrom
  have hfinal := h.final (missionRun_equipped p pre) (by rw [hfrom]; rfl)
  generalize missionRun p (pre ++ [.tick i]) = o at hfinal hm'
  cases hfinal with
  | away _ pose start' hp hb hd =>
    obtain rfl := Option.some.inj (hb.symm.trans hstart)
    exact ⟨i, pose, start', rfl, hp, hshown, hd⟩
  | wait => exact absurd hm' hm
  | hold => exact absurd hm' hm
  | shown => cases hm'
  | reverse => exact absurd hm' hm

/-- In `DONE` no callback emits anything. -/
theorem EventStep.silent_done {p : Params R} (h : EventStep p o e o')
    (hs : Equipped o.node ∧ o.node.mode = .done) :
    o'.node.out = o.node.out ∧ Equipped o'.node ∧ o'.node.mode = .done := by
  have hs' := h.equipped hs.1
  cases h with
  | tick i h =>
    have hfinal := h.final hs.1 (by rw [hs.2]; rfl)
    cases hfinal with
    | wait => exact ⟨rfl, hs', hs.2⟩
    | hold hm => cases hs.2.symm.trans hm
    | shown hm => cases hs.2.symm.trans hm
    | reverse hm => cases hs.2.symm.trans hm
    | away hm => cases hs.2.symm.trans hm
  | _ => exact ⟨rfl, hs', hs.2⟩

theorem release_safe (p : Params R) (es : List (Event R)) : ReleaseSafe p es := by
  constructor
  · exact fun pre i post => releaseSafe_clear p
  · exact fun pre e _ => releaseSafe_away p
  · rintro pre post rfl hm
    have hrest : ∀ o e, (o.node.out = (missionRun p pre).node.out ∧ Equipped o.node ∧
        o.node.mode = .done) → (step p o e).node.out = (missionRun p pre).node.out ∧
          Equipped (step p o e).node ∧ (step p o e).node.mode = .done := by
      intro o e ho
      obtain ⟨hout, hs⟩ := (eventStep_step p o e).silent_done ho.2
      exact ⟨hout.trans ho.1, hs⟩
    have hrun := Runs.invariant (I := fun o : Outcome R =>
      o.node.out = (missionRun p pre).node.out ∧ Equipped o.node ∧ o.node.mode = .done)
      ⟨rfl, missionRun_equipped p pre, hm⟩ hrest post
    rw [missionRun, Runs.run_append]
    exact hrun.1

/-- The declared parameters, but for a negative rate limit. -/
noncomputable def negativeLimit : Params ℝ := { Params.default with alignMaxOmega := -1 }

theorem negativeLimit_usual : negativeLimit.Usual := by
  constructor <;> norm_num [negativeLimit, Params.default]

theorem release_safe_backingAway :
    ReleaseSafe (.default : Params ℝ) (promptArrival ++ carrying ++ backingAway) :=
  release_safe .default (promptArrival ++ carrying ++ backingAway)

/-- With a negative rate limit the robot turns while it backs away. -/
theorem not_release_safe : Releases negativeLimit (promptArrival ++ carrying) atPlate ∧
    ∃ cs, (missionRun negativeLimit (promptArrival ++ carrying ++ backingAway)).node.out =
        (missionRun negativeLimit (promptArrival ++ carrying)).node.out ++ cs ∧
      ∃ t, .twist t ∈ cs ∧ t.angularZ = 1 := by
  obtain ⟨s, hrun, hs, hm, ht⟩ := missionRun_keyCarried negativeLimit_usual
  have hback : 0 < negativeLimit.dropBackupDist := default_dropBackupDist
  obtain ⟨s₁, s₂, h₁, hm₁, _, ⟨cs, hcs⟩, hend⟩ :=
    run_backingAway negativeLimit_usual hback hs hm ht
  have hspin : clamp 0 (-negativeLimit.alignMaxOmega) negativeLimit.alignMaxOmega = 1 := by
    norm_num [negativeLimit, clamp]
  constructor
  · apply releases_of_mode
    · rw [hrun]
      exact hm
    · rw [missionRun_concat, hrun, h₁]
      exact hm₁
  · rw [missionRun, Runs.run_append, ← missionRun, hrun, hend]
    have hout : (s₂.drive negativeLimit (-negativeLimit.parkMaxSpeed) 0 false).out =
        s₂.out ++ [.twist (driveTwist negativeLimit (-negativeLimit.parkMaxSpeed) 0 false)] := rfl
    rw [← hcs, List.append_assoc] at hout
    exact ⟨_, hout, _, List.mem_append_right _ (.head _), hspin⟩

end EscapeRoom
