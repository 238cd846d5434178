import EscapeRoom.NavFlags
import EscapeRoom.NavMission

namespace EscapeRoom
set_option autoImplicit true
set_option linter.unusedSectionVars false

/-- The acceptance has been reported and the result has not. -/
def Progress.heard : Progress → Bool
  | .executing true => true
  | .ended _ .response => true
  | _ => false

def NavLink.idle (nav : NavLink γ) : Prop := ∀ g ∈ nav.goals, g.outstanding = false

instance (nav : NavLink γ) : Decidable nav.idle := inferInstanceAs (Decidable (∀ g ∈ nav.goals, _))

/-- An outstanding goal is the latest one, known to be active, in a mode that navigates; while
the node explores, the same is true of every goal whose end has not been reported, and the
handle is that goal's as soon as its acceptance has been. -/
structure OneGoal (m : State) (nav : NavLink γ) : Prop where
  live : ∀ id g, nav.goals[id]? = some g → g.outstanding = true →
    nav.isLatest id = true ∧ nav.client.active = true ∧ m.navigates = true
  explore : m = .explore → ∀ id g, nav.goals[id]? = some g → g.progress.closed = false →
    nav.isLatest id = true ∧ nav.client.active = true ∧
      (g.progress.heard = true → nav.client.handle = some id)

theorem Progress.live_closed {g : Progress} (h : g.live = true) : g.closed = false := by
  cases g with
  | pending => rfl
  | executing => rfl
  | _ => cases h

theorem Goal.outstanding_live {g : Goal γ} (h : g.outstanding = true) :
    g.progress.live = true := by
  rw [outstanding, Bool.and_eq_true] at h
  exact h.1

theorem getElem?_advance {gs : List (Goal γ)} {id j : Nat} {f : Progress → Progress}
    (h : (gs.modify id (Goal.advance f))[j]? = some g') :
    ∃ g, gs[j]? = some g ∧ g' = if id = j then g.advance f else g := by
  rw [List.getElem?_modify] at h
  obtain ⟨g, hg, rfl⟩ := Option.map_eq_some_iff.1 h
  exact ⟨g, hg, rfl⟩

section links

variable {nav : NavLink γ} {m : State}

theorem isLatest_unique {id j : Nat} (h : nav.isLatest id = true) (h' : nav.isLatest j = true) :
    id = j := by
  have hi := of_decide_eq_true h
  have hj := of_decide_eq_true h'
  omega

theorem isLatest_modify (c : NavClient) (id j : Nat) (f : Goal γ → Goal γ) :
    (NavLink.mk c (nav.goals.modify id f)).isLatest j = nav.isLatest j := by
  simp [NavLink.isLatest]

/-- The server's own moves never make a goal outstanding and tell the client nothing. -/
theorem OneGoal.server (h : OneGoal m nav) (id : Nat) (f : Progress → Progress)
    (hl : ∀ g, (f g).live = true → g.live = true) (hc : ∀ g, (f g).closed = g.closed)
    (hh : ∀ g, (f g).heard = g.heard) :
    OneGoal m { nav with goals := nav.goals.modify id (Goal.advance f) } := by
  constructor
  · intro j g' hg' ho
    obtain ⟨g, hg, rfl⟩ := getElem?_advance hg'
    rw [isLatest_modify]
    apply h.live j g hg
    split at ho
    · rw [Goal.outstanding, Bool.and_eq_true] at ho ⊢
      exact ⟨hl _ ho.1, ho.2⟩
    · exact ho
  · intro hm j g' hg' hcl
    obtain ⟨g, hg, rfl⟩ := getElem?_advance hg'
    rw [isLatest_modify]
    split at hcl
    · obtain ⟨hj, ha, hd⟩ := h.explore hm j g hg (by rw [← hc]; exact hcl)
      refine ⟨hj, ha, fun he => hd ?_⟩
      rw [if_pos ‹_›] at he
      rw [← hh]
      exact he
    · rw [if_neg ‹_›]
      exact h.explore hm j g hg hcl

theorem Progress.finish_live {g : Progress} (h : (g.finish status).live = true) :
    g.live = true := by
  cases g with
  | executing => rfl
  | pending => rfl
  | _ => cases h

theorem Progress.finish_heard (g : Progress) : (g.finish status).heard = g.heard := by
  cases g with
  | executing told => cases told <;> rfl
  | _ => rfl

theorem OneGoal.accepted (h : OneGoal m nav) {id : Nat} {g : Goal γ} (hg : nav.goals[id]? = some g)
    (hd : g.progress.responseDue = some true) :
    OneGoal m { client := nav.client.onGoalAccepted id true
                goals := nav.goals.modify id (Goal.advance .hearResponse) } := by
  have hlive : (g.advance .hearResponse).outstanding = g.outstanding := by
    rw [Goal.outstanding, Goal.advance, Goal.outstanding]
    rcases Progress.eq_of_accepted hd with hp | ⟨status, hp⟩
    · rw [hp]
      rfl
    · rw [hp]
      rfl
  have hopen : g.progress.closed = false := by
    rcases Progress.eq_of_accepted hd with hp | ⟨status, hp⟩
    · rw [hp]
      rfl
    · rw [hp]
      rfl
  constructor
  · intro j g' hg' ho
    obtain ⟨g₀, hg₀, rfl⟩ := getElem?_advance hg'
    rw [isLatest_modify]
    apply h.live j g₀ hg₀
    split at ho
    · subst j
      obtain rfl : g = g₀ := Option.some.inj (hg.symm.trans hg₀)
      rw [← hlive]
      exact ho
    · exact ho
  · intro hm j g' hg' hcl
    obtain ⟨g₀, hg₀, rfl⟩ := getElem?_advance hg'
    rw [isLatest_modify]
    obtain ⟨hid, ha, _⟩ := h.explore hm id g hg hopen
    split at hcl
    · subst j
      exact ⟨hid, ha, fun _ => rfl⟩
    · obtain ⟨hj, _, _⟩ := h.explore hm j g₀ hg₀ hcl
      exact absurd (isLatest_unique hid hj) ‹_›

/-- The report that ends goal `id` for the client, taken as harmless: the goal is the latest, or
nothing is outstanding. -/
theorem OneGoal.closing (h : OneGoal m nav) {id : Nat} {g : Goal γ} (hg : nav.goals[id]? = some g)
    (f : Progress → Progress) (hopen : g.progress.closed = false)
    (hclosed : (f g.progress).closed = true) (hok : nav.isLatest id = true ∨ nav.idle)
    (c : NavClient) :
    OneGoal m { client := c, goals := nav.goals.modify id (Goal.advance f) } := by
  have hself : (g.advance f).outstanding = false := by
    cases ho : (g.advance f).outstanding with
    | false => rfl
    | true =>
      have hl := Progress.live_closed (Goal.outstanding_live ho)
      exact absurd hclosed (by simpa [Goal.advance] using hl)
  constructor
  · intro j g' hg' ho
    obtain ⟨g₀, hg₀, rfl⟩ := getElem?_advance hg'
    split at ho
    · subst j
      obtain rfl : g = g₀ := Option.some.inj (hg.symm.trans hg₀)
      rw [hself] at ho
      cases ho
    · rcases hok with hid | hidle
      · obtain ⟨hj, _, _⟩ := h.live j g₀ hg₀ ho
        exact absurd (isLatest_unique hid hj) ‹_›
      · rw [hidle g₀ (List.mem_of_getElem? hg₀)] at ho
        cases ho
  · intro hm j g' hg' hcl
    obtain ⟨g₀, hg₀, rfl⟩ := getElem?_advance hg'
    obtain ⟨hid, _, _⟩ := h.explore hm id g hg hopen
    split at hcl
    · subst j
      obtain rfl : g = g₀ := Option.some.inj (hg.symm.trans hg₀)
      rw [Goal.advance, hclosed] at hcl
      cases hcl
    · obtain ⟨hj, _, _⟩ := h.explore hm j g₀ hg₀ hcl
      exact absurd (isLatest_unique hid hj) ‹_›

theorem cancel_idle (h : ∀ id g, nav.goals[id]? = some g → g.outstanding = true →
    nav.client.handle = some id) : nav.cancel.idle := by
  intro g' hg'
  obtain ⟨j, hj⟩ := List.getElem?_of_mem hg'
  cases ho : g'.outstanding with
  | false => rfl
  | true =>
    cases hh : nav.client.handle with
    | none =>
      simp only [NavLink.cancel, hh, List.getElem?_map] at hj
      obtain ⟨g, hg, rfl⟩ := Option.map_eq_some_iff.1 hj
      have hid := h j g hg ho
      rw [hh] at hid
      cases hid
    | some id =>
      simp only [NavLink.cancel, hh, List.getElem?_modify, List.getElem?_map] at hj
      obtain ⟨g₁, hg₁, rfl⟩ := Option.map_eq_some_iff.1 hj
      obtain ⟨g, hg, rfl⟩ := Option.map_eq_some_iff.1 hg₁
      split at ho
      · simp [Goal.outstanding] at ho
      · have hid := h j g hg ho
        rw [hh] at hid
        exact absurd (Option.some.inj hid) ‹_›

theorem NavLink.idle.oneGoal (h : nav.idle) (hm : m ≠ .explore) : OneGoal m nav := by
  constructor
  · intro id g hg ho
    rw [h g (List.mem_of_getElem? hg)] at ho
    cases ho
  · intro he
    exact absurd he hm

theorem OneGoal.idle (h : OneGoal m nav) (hn : nav.client.active = false ∨ m.navigates = false) :
    nav.idle := by
  intro g hg
  obtain ⟨id, hid⟩ := List.getElem?_of_mem hg
  cases ho : g.outstanding with
  | false => rfl
  | true =>
    obtain ⟨_, ha, hm⟩ := h.live id g hid ho
    rcases hn with hn | hn
    · rw [hn] at ha
      cases ha
    · rw [hn] at hm
      cases hm

theorem getElem?_send {r : γ} {j : Nat} {g : Goal γ}
    (h : (nav.goals ++ [{ request := r }])[j]? = some g) :
    nav.goals[j]? = some g ∨ j = nav.goals.length ∧ g = { request := r } := by
  rw [List.getElem?_append] at h
  split at h
  · exact .inl h
  · right
    obtain ⟨hj, hg⟩ := List.getElem?_eq_some_iff.1 h
    rw [List.length_singleton] at hj
    refine ⟨by omega, ?_⟩
    rw [← hg]
    simp

/-- A goal sent while nothing is outstanding, and nothing unreported while exploring. -/
theorem OneGoal.send (h : nav.idle) (hm : m.navigates = true)
    (hx : m = .explore → ∀ g ∈ nav.goals, g.progress.closed = true) (hone : OneGoal m nav)
    (ready : Bool) (r : γ) : OneGoal m (nav.send ready r) := by
  cases ready with
  | false => exact hone
  | true =>
    have hnew : (NavLink.send true r nav).isLatest nav.goals.length = true := by
      simp [NavLink.isLatest, NavLink.send]
    constructor
    · intro j g hg ho
      rcases getElem?_send hg with hg | ⟨rfl, rfl⟩
      · rw [h g (List.mem_of_getElem? hg)] at ho
        cases ho
      · exact ⟨hnew, rfl, hm⟩
    · intro he j g hg hcl
      rcases getElem?_send hg with hg | ⟨rfl, rfl⟩
      · rw [hx he g (List.mem_of_getElem? hg)] at hcl
        cases hcl
      · exact ⟨hnew, rfl, fun hh => by cases hh⟩

theorem OneGoal.step (h : OneGoal m nav) (e : NavEvent)
    (hresponse : ∀ id, e = .response id → ∀ g ∈ nav.goals[id]?,
      g.progress.responseDue = some false → nav.isLatest id = true ∨ nav.idle)
    (hresult : ∀ id, e = .result id → ∀ g ∈ nav.goals[id]?,
      g.progress.resultDue.isSome = true → nav.isLatest id = true ∨ nav.idle) :
    OneGoal m (nav.step e) := by
  cases e with
  | accept id =>
    exact h.server id _ (fun g hg => by cases g <;> first | rfl | cases hg)
      Progress.accept_closed fun g => by cases g <;> rfl
  | reject id =>
    exact h.server id _ (fun g hg => by cases g <;> first | rfl | cases hg)
      Progress.reject_closed fun g => by cases g <;> rfl
  | finish id status =>
    exact h.server id _ (fun _ => Progress.finish_live) (fun _ => Progress.finish_closed _)
      Progress.finish_heard
  | response id =>
    cases hdue : nav.goals[id]?.bind (·.progress.responseDue) with
    | none =>
      simp only [NavLink.step, NavLink.deliverResponse, hdue]
      exact h
    | some accepted =>
      obtain ⟨g, hg, hgd⟩ := Option.bind_eq_some_iff.1 hdue
      simp only [NavLink.step, NavLink.deliverResponse, hdue]
      cases accepted with
      | true => exact h.accepted hg hgd
      | false =>
        have hp := Progress.eq_of_rejected hgd
        apply h.closing hg _ _ _ (hresponse id rfl g hg hgd) _
        · rw [hp]
          rfl
        · rw [hp]
          rfl
  | result id =>
    cases hdue : nav.goals[id]?.bind (·.progress.resultDue) with
    | none =>
      simp only [NavLink.step, NavLink.deliverResult, hdue]
      exact h
    | some status =>
      obtain ⟨g, hg, hgd⟩ := Option.bind_eq_some_iff.1 hdue
      simp only [NavLink.step, NavLink.deliverResult, hdue]
      have hp := Progress.eq_of_result hgd
      apply h.closing hg _ _ _ (hresult id rfl g hg (by rw [hgd]; rfl)) _
      · rw [hp]
        rfl
      · rw [hp]
        rfl

end links

variable {R : Type}

/-- Leaving the exploration with the handle of the goal under way, or taking the key up. -/
theorem Enters.idle {s : Node R} (h : Enters s m) (hs : OneGoal s.mode s.nav)
    (hok : s.mode = .explore → s.targetCount = 3 →
      ∀ g ∈ s.nav.latest, g.outstanding = true → g.progress.heard = true) : s.nav.cancel.idle := by
  apply cancel_idle
  intro id g hg ho
  cases h with
  | key hm ht =>
    have hopen := Progress.live_closed (Goal.outstanding_live ho)
    obtain ⟨hid, _, hhandle⟩ := hs.explore hm id g hg hopen
    exact hhandle (hok hm ht g ((latest_isLatest hid).trans hg) ho)
  | plate hm =>
    have hidle := hs.idle (.inr (by rw [hm]; rfl))
    rw [hidle g (List.mem_of_getElem? hg)] at ho
    cases ho

theorem NavStep.oneGoal {i : TickIn R} {s : Node R} {nav : NavLink (NavRequest R)}
    (h : NavStep i s m nav) (hs : OneGoal s.mode s.nav)
    (hok : s.mode = .explore → s.targetCount = 3 →
      ∀ g ∈ s.nav.latest, g.outstanding = true → g.progress.heard = true) : OneGoal m nav := by
  cases h with
  | keep => exact hs
  | send hm ha hsucc r hr =>
    apply OneGoal.send (hs.idle (.inl ha)) hm _ hs
    intro he g hg
    obtain ⟨id, hid⟩ := List.getElem?_of_mem hg
    cases hcl : g.progress.closed with
    | true => rfl
    | false =>
      obtain ⟨_, hact, _⟩ := hs.explore he id g hid hcl
      rw [ha] at hact
      cases hact
  | leave hm hx ha =>
    have hidle : s.nav.idle := by
      apply hs.idle
      cases hn : s.mode.navigates with
      | false => exact .inr rfl
      | true => exact .inl (ha hn).1
    have hne : m ≠ .explore := by
      rintro rfl
      cases hm
    apply NavLink.idle.oneGoal _ hne
    apply cancel_idle
    intro id g hg ho
    rw [hidle g (List.mem_of_getElem? hg)] at ho
    cases ho
  | enter hm => exact (hm.idle hs hok).oneGoal hm.ne_explore
  | enterSend hm r hr =>
    have hidle := hm.idle hs hok
    apply OneGoal.send hidle hm.navigates _ (hidle.oneGoal hm.ne_explore)
    intro he
    exact absurd he hm.ne_explore

/-- The node leaves its exploration only with the handle of the goal still under way, and hears
of the end of an older goal only while nothing is outstanding. -/
def Orderly (o : Outcome R) : Event R → Prop
  | .tick _ => o.node.mode = .explore → o.node.targetCount = 3 →
      ∀ g ∈ o.node.nav.latest, g.outstanding = true → g.progress.heard = true
  | .nav (.response id) => ∀ g ∈ o.node.nav.goals[id]?, g.progress.responseDue = some false →
      o.node.nav.isLatest id = true ∨ o.node.nav.idle
  | .nav (.result id) => ∀ g ∈ o.node.nav.goals[id]?, g.progress.resultDue.isSome = true →
      o.node.nav.isLatest id = true ∨ o.node.nav.idle
  | _ => True

instance decidableOrderly (o : Outcome R) : ∀ e, Decidable (Orderly o e)
  | .tick _ => inferInstanceAs (Decidable (_ → _ → ∀ g ∈ o.node.nav.latest, _ → _))
  | .nav (.response id) | .nav (.result id) =>
    inferInstanceAs (Decidable (∀ g ∈ o.node.nav.goals[id]?, _ → _))
  | .nav (.accept _) | .nav (.reject _) | .nav (.finish _ _)
  | .map _ | .target _ _ _ | .cubeLive _ _ _ => inferInstanceAs (Decidable True)

def NavLink.outstandingAt (nav : NavLink γ) (id : Nat) : Bool :=
  nav.goals[id]?.any Goal.outstanding

variable [Field R] [LinearOrder R] [PyMath R]

/-- In every state of the run at most one goal is outstanding, and none in a mode that does not
navigate. -/
structure NoOrphan (p : Params R) (es : List (Event R)) : Prop where
  single : ∀ pre, pre <+: es → ∀ i j, (missionRun p pre).node.nav.outstandingAt i = true →
    (missionRun p pre).node.nav.outstandingAt j = true → i = j
  parked : ∀ pre, pre <+: es → (missionRun p pre).node.mode ≠ .explore →
    (missionRun p pre).node.mode ≠ .goToKey → (missionRun p pre).node.mode ≠ .goToPlate →
      ∀ i, (missionRun p pre).node.nav.outstandingAt i = false

theorem EventStep.oneGoal {p : Params R} {o o' : Outcome R} {e : Event R}
    (h : EventStep p o e o') (hs : OneGoal o.node.mode o.node.nav) (hok : Orderly o e) :
    OneGoal o'.node.mode o'.node.nav := by
  cases h with
  | tick i h => exact h.nav.oneGoal hs hok
  | nav e =>
    apply hs.step e
    · rintro id rfl
      exact hok
    · rintro id rfl
      exact hok
  | _ => exact hs

/-- Where the node's dealings with its goals stay in order, no goal is ever orphaned. -/
theorem no_orphan (p : Params R) (es : List (Event R))
    (h : Runs.StepsMeet (step p) Orderly (.ok .init) es) : NoOrphan p es := by
  have hone : ∀ pre, pre <+: es →
      OneGoal (missionRun p pre).node.mode (missionRun p pre).node.nav := by
    rintro pre ⟨post, rfl⟩
    have hpre := (Runs.stepsMeet_append.1 h).1
    apply Runs.invariant_of_stepsMeet (I := fun o => OneGoal o.node.mode o.node.nav) _
      (fun o e => (eventStep_step p o e).oneGoal) hpre
    constructor
    · intro id g hg
      cases hg
    · intro _ id g hg
      cases hg
  constructor
  · intro pre hp i j hi hj
    obtain ⟨gi, hgi, hi⟩ := (Option.any_eq_true _ _).1 hi
    obtain ⟨gj, hgj, hj⟩ := (Option.any_eq_true _ _).1 hj
    exact isLatest_unique ((hone pre hp).live i gi hgi hi).1 ((hone pre hp).live j gj hgj hj).1
  · intro pre hp h1 h2 h3 i
    have hidle := (hone pre hp).idle (.inr (by simp [State.navigates, h1, h2, h3]))
    cases hg : (missionRun p pre).node.nav.goals[i]? with
    | none => rw [NavLink.outstandingAt, hg]; rfl
    | some g =>
      rw [NavLink.outstandingAt, hg]
      exact hidle g (List.mem_of_getElem? hg)

/-- A frontier goal and then the key goal, each reported to the node step by step. -/
noncomputable def reportedGoals : List (Event ℝ) :=
  [.map frontierStrip, seeCube, seePlate, .tick tickAtOrigin, .tick tickAtOrigin,
    .nav (.accept 0), .nav (.response 0), seeDoor,
    .tick tickAtOrigin, .nav (.finish 0 .canceled), .nav (.accept 1), .nav (.response 1),
    .nav (.finish 1 .succeeded), .nav (.result 1), .nav (.result 0)]

theorem no_orphan_reportedGoals :
    (missionRun Params.default reportedGoals).node.mode = .goToKey ∧
      NoOrphan Params.default reportedGoals :=
  ⟨by decide +kernel, no_orphan Params.default reportedGoals (by decide +kernel)⟩

/-- The last landmark is seen before the node hears that its frontier goal was accepted, so it
has no handle to cancel it by. -/
noncomputable def unheardAcceptance : List (Event ℝ) :=
  [.map frontierStrip, seeCube, seePlate, .tick tickAtOrigin, .tick tickAtOrigin,
    .nav (.accept 0), seeDoor, .tick tickAtOrigin]

theorem not_no_orphan : ¬ NoOrphan Params.default unheardAcceptance := by
  intro h
  have hij := h.single unheardAcceptance List.prefix_rfl 0 1 (by decide +kernel)
    (by decide +kernel)
  cases hij

end EscapeRoom
