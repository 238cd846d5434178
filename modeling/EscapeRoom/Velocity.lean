import EscapeRoom.Mission
import EscapeRoom.NavMission

namespace EscapeRoom
set_option autoImplicit true
set_option linter.unusedSectionVars false

variable {R : Type}

@[simp] theorem twists_append (out out' : List (Cmd R)) :
    twists (out ++ out') = twists out ++ twists out' := List.filterMap_append

/-- The last Twist on `/cmd_vel`. -/
def lastTwist (out : List (Cmd R)) : Option (Twist R) := (twists out).getLast?

theorem NavOnly.twists_after {cs : List (Cmd R)} (h : NavOnly cs) (before : List (Cmd R)) :
    twists (before ++ cs) = twists before := by
  rw [twists_append, h.twists_eq, List.append_nil]

theorem NavOnly.twists_between {cs : List (Cmd R)} (h : NavOnly cs) (before after : List (Cmd R)) :
    twists (before ++ cs ++ after) = twists before ++ twists after := by
  rw [twists_append, h.twists_after]

theorem lastTwist_append_silent {out cs : List (Cmd R)} (h : twists cs = []) :
    lastTwist (out ++ cs) = lastTwist out := by
  rw [lastTwist, twists_append, h, List.append_nil, lastTwist]

theorem lastTwist_append {out cs : List (Cmd R)} (h : twists cs = [t]) :
    lastTwist (out ++ cs) = some t := by
  rw [lastTwist, twists_append, h, List.getLast?_concat]

variable [Field R] [LinearOrder R] [PyMath R]

/-- What a step of the mission publishes on `/cmd_vel`: nothing, while the mode stays or hands
over between modes that do not drive, or one Twist, which is zero whenever the mode changes. -/
theorem MissionStep.twists_eq {p : Params R} (h : MissionStep p m cs m') :
    (twists cs = [] ∧ (m' = m ∨ m.drives = false ∧ m'.drives = false)) ∨
    (twists cs = [.zero]) ∨
    ∃ t, twists cs = [t] ∧ m' = m ∧ m.drives = true ∧
      (t = driveTwist p (-p.parkMaxSpeed) 0 false ∨
        (0 ≤ p.parkMaxSpeed → 0 ≤ p.alignMaxOmega → t.Within p)) := by
  cases h with
  | wait => exact .inl ⟨rfl, .inl rfl⟩
  | steer hm hn => exact .inl ⟨hn.twists_eq, .inl rfl⟩
  | hold => exact .inr (.inl rfl)
  | servo hm t ht =>
    refine .inr (.inr ⟨t, rfl, rfl, ?_, .inr ht⟩)
    rcases hm with rfl | rfl <;> rfl
  | reverse => exact .inr (.inr ⟨_, rfl, rfl, rfl, .inl rfl⟩)
  | found hn => exact .inl ⟨hn.twists_eq, .inr ⟨rfl, rfl⟩⟩
  | arrived hn => exact .inr (.inl (hn.twists_between [halt] [.gripper .open]))
  | engaged hn => exact .inr (.inl (hn.twists_between [halt] [.gripper .close]))
  | released hn => exact .inr (.inl (hn.twists_between [halt] [.gripper .open]))
  | lifted hn => exact .inr (.inl (hn.twists_after [halt, .cubeVisible false]))
  | shown hn => exact .inr (.inl (hn.twists_after [halt, .cubeVisible true]))
  | opened hn => exact .inr (.inl (hn.twists_after [halt]))
  | delivered hn => exact .inr (.inl (hn.twists_after [halt]))
  | finished hn => exact .inr (.inl (hn.twists_after [halt]))

/-- Every Twist so far kept to the bounds, and no mode but the driving ones has been entered
with a command of the node's own still standing. -/
structure Enveloped (p : Params R) (s : Node R) : Prop where
  bounded : ∀ t ∈ twists s.out, t.Within p
  halted : s.mode.drives = false → ∀ t, lastTwist s.out = some t → t = .zero

variable [IsStrictOrderedRing R]

theorem zero_within {p : Params R} (hv : 0 ≤ p.parkMaxSpeed) (hw : 0 ≤ p.alignMaxOmega) :
    (Twist.zero : Twist R).Within p := by
  simpa [Twist.Within, Twist.zero] using ⟨hv, hw⟩

theorem reverse_within {p : Params R} (hv : 0 ≤ p.parkMaxSpeed) (hw : 0 ≤ p.alignMaxOmega) :
    (driveTwist p (-p.parkMaxSpeed) 0 false).Within p :=
  driveTwist_within_uncapped ((abs_neg _).trans (abs_of_nonneg hv)) _ hw

theorem step_enveloped {p : Params R} (hv : 0 ≤ p.parkMaxSpeed) (hw : 0 ≤ p.alignMaxOmega)
    (o : Outcome R) (e : Event R) (h : Enveloped p o.node) : Enveloped p (step p o e).node := by
  obtain ⟨cs, ho, hstep⟩ := step_mission p o e
  rcases hstep.twists_eq with ⟨hc, hm⟩ | hc | ⟨t, hc, hm, hd, ht⟩
  · constructor
    · rw [ho, twists_append, hc, List.append_nil]
      exact h.bounded
    · intro hd
      rw [ho, lastTwist_append_silent hc]
      apply h.halted
      rcases hm with hm | ⟨hm, _⟩
      · rw [← hm]
        exact hd
      · exact hm
  · constructor
    · rw [ho, twists_append, hc]
      intro t ht
      rcases List.mem_append.1 ht with ht | ht
      · exact h.bounded t ht
      · rw [List.mem_singleton.1 ht]
        exact zero_within hv hw
    · intro _ t ht
      rw [ho, lastTwist_append hc] at ht
      exact (Option.some.inj ht).symm
  · constructor
    · rw [ho, twists_append, hc]
      intro t' ht'
      rcases List.mem_append.1 ht' with ht' | ht'
      · exact h.bounded t' ht'
      · rw [List.mem_singleton.1 ht']
        rcases ht with rfl | ht
        · exact reverse_within hv hw
        · exact ht hv hw
    · intro hd'
      rw [hm, hd] at hd'
      cases hd'

/-- Every Twist of every run keeps to the envelope, and outside the driving modes the last one
is zero. -/
theorem velocity_envelope (p : Params R) (hv : 0 ≤ p.parkMaxSpeed) (hw : 0 ≤ p.alignMaxOmega)
    (es : List (Event R)) :
    (∀ t ∈ twists (missionRun p es).node.out,
      |t.linearX| ≤ p.parkMaxSpeed ∧ |t.angularZ| ≤ p.alignMaxOmega) ∧
    ((missionRun p es).node.mode ≠ .pickupAlign → (missionRun p es).node.mode ≠ .dropAlign →
      (missionRun p es).node.mode ≠ .dropBackup →
        ∀ t, lastTwist (missionRun p es).node.out = some t → t = .zero) := by
  have hinit : Enveloped p (Node.init : Node R) := by
    constructor
    · intro t ht
      cases ht
    · intro _ t ht
      cases ht
  have h := missionRun_invariant (fun o => Enveloped p o.node) hinit (step_enveloped hv hw) es
  refine ⟨h.bounded, fun h1 h2 h3 => h.halted ?_⟩
  simp [State.drives, h1, h2, h3]

theorem velocity_envelope_promptArrival :
    lastTwist (missionRun Params.default promptArrival).node.out = some (.zero : Twist ℝ) ∧
      (∀ t ∈ twists (missionRun Params.default promptArrival).node.out,
        |t.linearX| ≤ (Params.default : Params ℝ).parkMaxSpeed ∧
          |t.angularZ| ≤ (Params.default : Params ℝ).alignMaxOmega) := by
  have hv : 0 ≤ (Params.default : Params ℝ).parkMaxSpeed := by norm_num [Params.default]
  have hw : 0 ≤ (Params.default : Params ℝ).alignMaxOmega := by norm_num [Params.default]
  exact ⟨rfl, (velocity_envelope Params.default hv hw promptArrival).1⟩

end EscapeRoom
