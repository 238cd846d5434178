import EscapeRoom.ReleaseSafety

namespace EscapeRoom
set_option autoImplicit true
set_option linter.unusedSectionVars false

variable {R : Type} [Field R] [LinearOrder R] [PyMath R]

def Cmd.isClose : Cmd R → Bool
  | .gripper .close => true
  | _ => false

/-- The lunge is frozen: the tick after `pre` saw the cube ahead, and recorded the odom pose
`start` and the distance left to go. -/
structure Freezes (p : Params R) (pre : List (Event R)) (i : TickIn R) (start : R × R)
    (dist : R) : Prop where
  mode : (missionRun p pre).node.mode = .pickupAlign
  before : (missionRun p pre).node.lungeActive = false
  seen : ∃ bx by_ t, (missionRun p pre).node.cubeLive = some (bx, by_, t) ∧
    .cubeLive bx by_ t ∈ pre ∧ i.clock - t ≤ p.cubeLiveTimeout ∧
      |PyMath.atan2 by_ bx| ≤ p.alignYawTol ∧ PyMath.hypot bx by_ ≤ p.pickupLungeStart ∧
        dist = max 0 (PyMath.hypot bx by_ - p.pickupEngageDist - p.pickupLungeMargin)
  odom : getOdomPose i.odomTf = some start
  active : (missionRun p (pre ++ [.tick i])).node.lungeActive = true
  recordsStart : (missionRun p (pre ++ [.tick i])).node.lungeStart = some start
  recordsDist : (missionRun p (pre ++ [.tick i])).node.lungeDist = dist

def Event.odom? : Event R → Option (R × R)
  | .tick i => getOdomPose i.odomTf
  | _ => none

/-- Every odom pose that the ticks of `mid` read is nearer to `start` than `dist`. -/
def ShortOf (start : R × R) (dist : R) (mid : List (Event R)) : Prop :=
  ∀ pose ∈ mid.filterMap Event.odom?, PyMath.hypot (pose.1 - start.1) (pose.2 - start.2) < dist

theorem ShortOf.concat {start : R × R} {dist : R} {mid : List (Event R)} {e : Event R}
    (h : ShortOf start dist mid) (he : ∀ pose, e.odom? = some pose →
      PyMath.hypot (pose.1 - start.1) (pose.2 - start.2) < dist) :
    ShortOf start dist (mid ++ [e]) := by
  intro pose hpose
  rw [List.filterMap_append] at hpose
  rcases List.mem_append.1 hpose with hpose | hpose
  · exact h pose hpose
  · obtain ⟨e', he', hodom⟩ := List.mem_filterMap.1 hpose
    obtain rfl := List.mem_singleton.1 he'
    exact he pose hodom

theorem cubeLive_received (p : Params R) (es : List (Event R)) {bx by_ t : R}
    (h : (missionRun p es).node.cubeLive = some (bx, by_, t)) : .cubeLive bx by_ t ∈ es := by
  induction es using List.reverseRecOn with
  | nil => cases h
  | append_singleton es e ih =>
    rw [missionRun_concat] at h
    have hstep := eventStep_step p (missionRun p es) e
    generalize step p (missionRun p es) e = o at hstep h
    cases hstep with
    | cubeLive x y clock =>
      cases h
      exact List.mem_append_right _ (.head _)
    | ended => exact List.mem_append_left _ (ih h)
    | tick i htick => exact List.mem_append_left _ (ih (htick.perception.cubeLive ▸ h))
    | map => exact List.mem_append_left _ (ih h)
    | near => exact List.mem_append_left _ (ih h)
    | target => exact List.mem_append_left _ (ih h)
    | nav => exact List.mem_append_left _ (ih h)

/-- A tick during the lunge: blind, at its end, or still short of it. -/
inductive LungeStep (p : Params R) (i : TickIn R) (s : Node R) : Outcome R → Prop where
  | blind (hp : getOdomPose i.odomTf = none) : LungeStep p i s (.ok s)
  | arrived (pose start : R × R) (hp : getOdomPose i.odomTf = some pose)
      (hb : s.lungeStart = some start)
      (hd : s.lungeDist ≤ PyMath.hypot (pose.1 - start.1) (pose.2 - start.2)) :
      LungeStep p i s (.ok ({ s.stop with lungeActive := false }.engageCube i))
  | under (pose start : R × R) (hp : getOdomPose i.odomTf = some pose)
      (hb : s.lungeStart = some start)
      (hd : PyMath.hypot (pose.1 - start.1) (pose.2 - start.2) < s.lungeDist) :
      LungeStep p i s (.ok (s.drive p p.parkMaxSpeed (0.5 * s.lungeBearing p i) false))

theorem TickStep.lunging {p : Params R} {i : TickIn R} {s : Node R} (h : TickStep p i s o)
    (hs : Equipped s) (hm : s.mode = .pickupAlign) (hl : s.lungeActive = true) :
    LungeStep p i s o := by
  have hstarted := hs.started (by simp [hm])
  cases h with
  | notReady hn => cases hstarted.symm.trans hn
  | start hn => cases hstarted.symm.trans hn
  | lungeBlind _ _ hp => exact .blind hp
  | lungeNoStart _ _ hb =>
    obtain ⟨start, hstart⟩ := hs.lunge hl
    cases hb.symm.trans hstart
  | lungeEnd _ _ pose start hp hb hd => exact .arrived pose start hp hb hd
  | lungeMove _ _ pose start hp hb hd => exact .under pose start hp hb hd
  | alignStale _ hl' => cases hl.symm.trans hl'
  | alignTurn _ hl' => cases hl.symm.trans hl'
  | alignNoOdom _ hl' => cases hl.symm.trans hl'
  | alignFreeze _ hl' => cases hl.symm.trans hl'
  | alignMove _ hl' => cases hl.symm.trans hl'
  | _ => cases hm.symm.trans ‹s.mode = _›

theorem TickStep.frozen {p : Params R} {i : TickIn R} {s : Node R} (h : TickStep p i s o)
    (hs : Equipped s) (hl : s.lungeActive = false) (hl' : o.node.lungeActive = true) :
    s.mode = .pickupAlign ∧ o.node.mode = .pickupAlign ∧ ∃ bx by_ t start,
      s.cubeLive = some (bx, by_, t) ∧ i.clock - t ≤ p.cubeLiveTimeout ∧
        |PyMath.atan2 by_ bx| ≤ p.alignYawTol ∧ PyMath.hypot bx by_ ≤ p.pickupLungeStart ∧
          getOdomPose i.odomTf = some start ∧ o.node.lungeStart = some start ∧ o.node.lungeDist =
            max 0 (PyMath.hypot bx by_ - p.pickupEngageDist - p.pickupLungeMargin) := by
  have hfreezes := h.lunge hs hl
  rw [hl'] at hfreezes
  obtain ⟨hm, _⟩ := Node.freezes_iff.1 hfreezes.symm
  cases h with
  | alignFreeze _ _ hf bx by_ t hc hb hr start hp =>
    have hfresh : i.clock - t ≤ p.cubeLiveTimeout := by
      simpa [Node.cubeFresh, hc] using hf
    exact ⟨hm, hm, bx, by_, t, start, hc, hfresh, hb, hr, hp, rfl, rfl⟩
  | notReady => cases hl.symm.trans hl'
  | start => cases hl.symm.trans hl'
  | lungeBlind _ ha => cases hl.symm.trans ha
  | lungeNoStart _ ha => cases hl.symm.trans ha
  | lungeEnd _ ha => cases hl.symm.trans ha
  | lungeMove _ ha => cases hl.symm.trans ha
  | alignStale => cases hl.symm.trans hl'
  | alignTurn => cases hl.symm.trans hl'
  | alignNoOdom => cases hl.symm.trans hl'
  | alignMove => cases hl.symm.trans hl'
  | _ => cases hm.symm.trans ‹s.mode = _›

/-- Where the lunge under way started, and how far it has to go. -/
structure LungeHistory (p : Params R) (es : List (Event R)) : Prop where
  mode : (missionRun p es).node.mode = .pickupAlign
  history : ∃ pre i mid start dist, es = pre ++ .tick i :: mid ∧ Freezes p pre i start dist ∧
    (missionRun p es).node.lungeStart = some start ∧ (missionRun p es).node.lungeDist = dist ∧
      ShortOf start dist mid

/-- Two nodes in the same stage of the lunge. -/
structure SameLunge (s s' : Node R) : Prop where
  mode : s'.mode = s.mode
  active : s'.lungeActive = s.lungeActive
  start : s'.lungeStart = s.lungeStart
  dist : s'.lungeDist = s.lungeDist

/-- An event that leaves the lunge as it is, and reads no odom pose as far away as its end. -/
theorem LungeHistory.extend {p : Params R} {es : List (Event R)} (h : LungeHistory p es)
    (e : Event R) (hsame : SameLunge (missionRun p es).node (missionRun p (es ++ [e])).node)
    (he : ∀ pose start, e.odom? = some pose → (missionRun p es).node.lungeStart = some start →
      PyMath.hypot (pose.1 - start.1) (pose.2 - start.2) < (missionRun p es).node.lungeDist) :
    LungeHistory p (es ++ [e]) := by
  obtain ⟨hmode, pre, i, mid, start, dist, hes, hfreezes, hstart, hdist, hshort⟩ := h
  have hshort' : ShortOf start dist (mid ++ [e]) := by
    apply hshort.concat
    intro pose hpose
    rw [← hdist]
    exact he pose start hpose hstart
  refine ⟨hsame.mode.trans hmode, pre, i, mid ++ [e], start, dist, ?_, hfreezes,
    hsame.start.trans hstart, hsame.dist.trans hdist, hshort'⟩
  rw [hes, List.append_assoc, List.cons_append]

theorem LungeHistory.of_tick {p : Params R} {es : List (Event R)} {i : TickIn R}
    (h : TickStep p i (missionRun p es).node (missionRun p (es ++ [.tick i])))
    (hl : (missionRun p es).node.lungeActive = false)
    (hl' : (missionRun p (es ++ [.tick i])).node.lungeActive = true) :
    LungeHistory p (es ++ [.tick i]) := by
  obtain ⟨hm, hm', bx, by_, t, start, hc, hfresh, hb, hr, hp, hstart, hdist⟩ :=
    h.frozen (missionRun_equipped p es) hl hl'
  have hreceived := cubeLive_received p es hc
  refine ⟨hm', es, i, [], start, _, rfl, ?_, hstart, hdist, ?_⟩
  · exact ⟨hm, hl, ⟨bx, by_, t, hc, hreceived, hfresh, hb, hr, rfl⟩, hp, hl', hstart, hdist⟩
  · intro pose hpose
    cases hpose

theorem LungeStep.keeps {p : Params R} {i : TickIn R} {s : Node R} (h : LungeStep p i s o)
    (hl : o.node.lungeActive = true) : SameLunge s o.node ∧
      ∀ pose start, getOdomPose i.odomTf = some pose → s.lungeStart = some start →
        PyMath.hypot (pose.1 - start.1) (pose.2 - start.2) < s.lungeDist := by
  cases h with
  | arrived => cases hl
  | blind hp =>
    refine ⟨⟨rfl, rfl, rfl, rfl⟩, fun pose start hpose => ?_⟩
    cases hp.symm.trans hpose
  | under pose start hp hb hd =>
    refine ⟨⟨rfl, rfl, rfl, rfl⟩, fun pose' start' hpose hstart => ?_⟩
    cases hp.symm.trans hpose
    cases hb.symm.trans hstart
    exact hd

theorem EventStep.same_lunge {p : Params R} (h : EventStep p o e o') (he : ∀ i, e ≠ .tick i) :
    SameLunge o.node o'.node := by
  cases h with
  | tick i => exact absurd rfl (he i)
  | _ => exact ⟨rfl, rfl, rfl, rfl⟩

theorem lungeHistory (p : Params R) (es : List (Event R)) (hr : (missionRun p es).raised = none)
    (hl : (missionRun p es).node.lungeActive = true) : LungeHistory p es := by
  induction es using List.reverseRecOn with
  | nil => cases hl
  | append_singleton es e ih =>
    have hr' : (missionRun p es).raised = none := by
      rw [missionRun_concat] at hr
      exact raised_of_step hr
    have hother : (∀ i, e ≠ .tick i) → e.odom? = none → LungeHistory p (es ++ [e]) := by
      intro he hodom
      have hsame := (eventStep_step p (missionRun p es) e).same_lunge he
      rw [← missionRun_concat] at hsame
      apply (ih hr' (hsame.active ▸ hl)).extend e hsame
      intro pose _ hpose
      cases hodom.symm.trans hpose
    cases e with
    | tick i =>
      have htick : TickStep p i (missionRun p es).node (missionRun p (es ++ [.tick i])) := by
        rw [missionRun_concat, step_tick hr']
        exact tickStep_tick p i _
      cases hbefore : (missionRun p es).node.lungeActive with
      | false => exact .of_tick htick hbefore hl
      | true =>
        have hhistory := ih hr' hbefore
        obtain ⟨hsame, hshort⟩ :=
          (htick.lunging (missionRun_equipped p es) hhistory.mode hbefore).keeps hl
        exact hhistory.extend (.tick i) hsame hshort
    | _ => exact hother (by simp) rfl

/-- The tick that closes the jaws is the last one of the lunge. -/
theorem TickStep.closes {p : Params R} {i : TickIn R} {s : Node R} (h : TickStep p i s o)
    (hm : s.mode = .pickupAlign) (hm' : o.node.mode = .pickupClose) :
    s.lungeActive = true ∧ ∃ pose start, getOdomPose i.odomTf = some pose ∧
      s.lungeStart = some start ∧
        s.lungeDist ≤ PyMath.hypot (pose.1 - start.1) (pose.2 - start.2) := by
  cases h with
  | lungeEnd _ hl pose start hp hb hd => exact ⟨hl, pose, start, hp, hb, hd⟩
  | notReady => cases hm.symm.trans hm'
  | start => cases hm.symm.trans hm'
  | lungeBlind => cases hm.symm.trans hm'
  | lungeNoStart => cases hm.symm.trans hm'
  | lungeMove => cases hm.symm.trans hm'
  | alignStale => cases hm.symm.trans hm'
  | alignTurn => cases hm.symm.trans hm'
  | alignNoOdom => cases hm.symm.trans hm'
  | alignFreeze => cases hm.symm.trans hm'
  | alignMove => cases hm.symm.trans hm'
  | _ => cases hm.symm.trans ‹s.mode = _›

section close

variable [IsStrictOrderedRing R]

/-- The callback after `pre` issues `gripper.close()`. -/
def Closes (p : Params R) (pre : List (Event R)) (e : Event R) : Prop :=
  ∃ cs, (missionRun p (pre ++ [e])).node.out = (missionRun p pre).node.out ++ cs ∧
    .gripper .close ∈ cs

theorem Closes.mode {p : Params R} {pre : List (Event R)} {e : Event R} (h : Closes p pre e) :
    (missionRun p pre).node.mode = .pickupAlign ∧
      (missionRun p (pre ++ [e])).node.mode = .pickupClose := by
  obtain ⟨cs, hout, hclose⟩ := h
  obtain ⟨cs', hout', hstep⟩ := step_mission p (missionRun p pre) e
  rw [← missionRun_concat] at hout' hstep
  obtain rfl := List.append_cancel_left (hout.symm.trans hout')
  have hhand : .gripper .close ∈ hands cs := List.mem_filter.2 ⟨hclose, rfl⟩
  generalize (missionRun p (pre ++ [e])).node.mode = m at hstep ⊢
  generalize (missionRun p pre).node.mode = m' at hstep ⊢
  rcases hstep.hands_eq with ⟨_, hnone⟩ | ⟨hnext, hentry⟩
  · rw [hnone] at hhand
    cases hhand
  · rw [hentry] at hhand
    cases m' <;> cases hnext <;> simp [entryCmds] at hhand ⊢

theorem countP_isClose_le (p : Params R) (es : List (Event R)) :
    (missionRun p es).node.out.countP Cmd.isClose ≤ 1 := by
  have hhands : (missionRun p es).node.out.countP Cmd.isClose =
      (hands (missionRun p es).node.out).countP Cmd.isClose := by
    rw [hands, List.countP_filter]
    apply List.countP_congr
    intro c _
    cases c with
    | gripper target => simp [Cmd.isHand]
    | _ => simp [Cmd.isClose]
  rw [hhands]
  exact (missionRun_script p es).sublist.countP_le

end close

/-- The closing of the jaws: at most once, in a tick of `PICKUP_ALIGN`, at the end of the frozen
lunge. -/
structure ClosesAtLungeEnd (p : Params ℝ) (es : List (Event ℝ)) : Prop where
  once : (missionRun p es).node.out.countP Cmd.isClose ≤ 1
  ends : ∀ pre e, pre ++ [e] <+: es → Closes p pre e →
    (missionRun p pre).node.mode = .pickupAlign ∧ ∃ j pose before i mid start dist,
      e = .tick j ∧ getOdomPose j.odomTf = some pose ∧ pre = before ++ .tick i :: mid ∧
        Freezes p before i start dist ∧
        dist ≤ PyMath.hypot (pose.1 - start.1) (pose.2 - start.2) ∧ ShortOf start dist mid ∧
        ∀ δ, (start :: mid.filterMap Event.odom? ++ [pose]).IsChain
            (fun q r => PyMath.hypot (r.1 - q.1) (r.2 - q.2) ≤ δ) →
          PyMath.hypot (pose.1 - start.1) (pose.2 - start.2) ≤ dist + δ

theorem hypot_triangle (q r t : ℝ × ℝ) : PyMath.hypot (q.1 - t.1) (q.2 - t.2) ≤
    PyMath.hypot (q.1 - r.1) (q.2 - r.2) + PyMath.hypot (r.1 - t.1) (r.2 - t.2) := by
  rw [hypot_sub, hypot_sub, hypot_sub]
  exact norm_sub_le_norm_sub_add_norm_sub _ _ _

/-- The overshoot is bounded by the step between two odom poses. -/
theorem ShortOf.overshoot {start pose : ℝ × ℝ} {dist δ : ℝ} {mid : List (Event ℝ)}
    (h : ShortOf start dist mid) (hd : 0 ≤ dist)
    (hchain : (start :: mid.filterMap Event.odom? ++ [pose]).IsChain
      (fun q r => PyMath.hypot (r.1 - q.1) (r.2 - q.2) ≤ δ)) :
    PyMath.hypot (pose.1 - start.1) (pose.2 - start.2) ≤ dist + δ := by
  apply Planar.last_le_of_chain hypot_triangle _ (fun q hq => (h q hq).le) hchain
  rw [hypot_self]
  exact hd

theorem Freezes.dist_nonneg {p : Params ℝ} {pre : List (Event ℝ)} {i : TickIn ℝ} {start : ℝ × ℝ}
    {dist : ℝ} (h : Freezes p pre i start dist) : 0 ≤ dist := by
  obtain ⟨bx, by_, t, _, _, _, _, _, hdist⟩ := h.seen
  rw [hdist]
  exact le_max_left _ _

theorem closes_at_lunge_end (p : Params ℝ) (es : List (Event ℝ)) : ClosesAtLungeEnd p es := by
  refine ⟨countP_isClose_le p es, fun pre e _ hclose => ?_⟩
  obtain ⟨hm, hm'⟩ := hclose.mode
  have hne : (missionRun p (pre ++ [e])).node.mode ≠ (missionRun p pre).node.mode := by
    rw [hm, hm']
    decide
  have hr := raised_of_mode hne
  obtain ⟨j, rfl, hstep⟩ := tickStep_of_mode hne
  obtain ⟨hl, pose, start, hpose, hstart, hfar⟩ := hstep.closes hm hm'
  obtain ⟨_, before, i, mid, start', dist, hpre, hfreezes, hstart', hdist, hshort⟩ :=
    lungeHistory p pre hr hl
  cases hstart.symm.trans hstart'
  rw [hdist] at hfar
  exact ⟨hm, j, pose, before, i, mid, start, dist, rfl, hpose, hpre, hfreezes, hfar, hshort,
    fun δ => hshort.overshoot hfreezes.dist_nonneg⟩

end EscapeRoom
