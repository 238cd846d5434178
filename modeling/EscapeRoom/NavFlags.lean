import EscapeRoom.Library.Runs
import EscapeRoom.NavClient

namespace EscapeRoom
set_option autoImplicit true

/-- Everything that happens to a `NavClient`: calls of its two methods, and protocol events. -/
inductive LinkEvent (γ : Type) where
  | send (serverReady : Bool) (request : γ)
  | cancel
  | nav (e : NavEvent)
deriving DecidableEq, Repr

def linkStep (l : NavLink γ) : LinkEvent γ → NavLink γ
  | .send ready request => l.send ready request
  | .cancel => l.cancel
  | .nav e => l.step e

def NavLink.latest (l : NavLink γ) : Option (Goal γ) := l.goals.getLast?

def NavLink.isLatest (l : NavLink γ) (id : Nat) : Bool := decide (id + 1 = l.goals.length)

/-- Not followed by a cancel, not reported rejected, own result not delivered. -/
def Goal.running (g : Goal γ) : Bool := !g.cancelCalled && !g.progress.closed

/-- Own result delivered with `STATUS_SUCCEEDED`, and no cancel since it was sent. -/
def Goal.won (g : Goal γ) : Bool :=
  !g.cancelCalled && decide (g.progress.reportedStatus = some .succeeded)

def NavLink.latestRunning (l : NavLink γ) : Bool := l.latest.any Goal.running

def NavLink.latestWon (l : NavLink γ) : Bool := l.latest.any Goal.won

/-- The two flags speak about the most recently sent goal. -/
structure NavLink.FlagsRight (l : NavLink γ) : Prop where
  active : l.client.active = l.latestRunning
  succeeded : l.client.succeeded = l.latestWon

/-- The goal whose acceptance or result callback the event runs, if it is due. -/
def NavLink.calledBack (l : NavLink γ) : LinkEvent γ → Option Nat
  | .nav (.response id) => (l.goals[id]?.bind (·.progress.responseDue)).map fun _ => id
  | .nav (.result id) => (l.goals[id]?.bind (·.progress.resultDue)).map fun _ => id
  | _ => none

/-- When a callback leaves the flags speaking about the latest goal. A rejection must be the
latest goal's or come when that goal no longer runs; a result must be the latest goal's, not
canceled since, or come when that goal no longer runs and with the verdict it already has. -/
def NavLink.Harmless (l : NavLink γ) : LinkEvent γ → Prop
  | .nav (.response id) => l.goals[id]?.bind (·.progress.responseDue) = some false →
      l.isLatest id = true ∨ l.latestRunning = false
  | .nav (.result id) => ∀ g status, l.goals[id]? = some g → g.progress.resultDue = some status →
      (l.isLatest id = true ∧ g.cancelCalled = false) ∨
        (l.latestRunning = false ∧ l.latestWon = decide (status = .succeeded))
  | _ => True

theorem getLast?_modify (gs : List α) (id : Nat) (f : α → α) :
    (gs.modify id f).getLast? = if id + 1 = gs.length then gs.getLast?.map f else gs.getLast? := by
  rw [List.getLast?_eq_getElem?, List.getLast?_eq_getElem?, List.length_modify,
    List.getElem?_modify]
  cases gs with
  | nil => simp
  | cons g gs =>
    by_cases h : id = gs.length <;> simp [h]

theorem latest_isLatest {l : NavLink γ} {i : Nat} (h : l.isLatest i = true) :
    l.latest = l.goals[i]? := by
  rw [NavLink.latest, List.getLast?_eq_getElem?]
  congr 1
  have := of_decide_eq_true h
  omega

theorem latest_advance (l : NavLink γ) (id : Nat) (f : Progress → Progress) (c : NavClient) :
    (NavLink.mk c (l.goals.modify id (Goal.advance f))).latest =
      if l.isLatest id = true then l.latest.map (Goal.advance f) else l.latest := by
  simp only [NavLink.latest, getLast?_modify, NavLink.isLatest, decide_eq_true_eq]

theorem any_latest_advance (P : Goal γ → Bool) (f : Progress → Progress) (l : NavLink γ) (i : Nat)
    (hP : ∀ g, l.goals[i]? = some g → P (g.advance f) = P g) (c : NavClient) :
    (NavLink.mk c (l.goals.modify i (Goal.advance f))).latest.any P = l.latest.any P := by
  rw [latest_advance]
  split
  · rename_i h
    rw [latest_isLatest h]
    cases hg : l.goals[i]? with
    | none => rfl
    | some g => exact hP g hg
  · rfl

theorem Progress.accept_closed (p : Progress) : p.accept.closed = p.closed := by
  cases p <;> rfl

theorem Progress.reject_closed (p : Progress) : p.reject.closed = p.closed := by
  cases p <;> rfl

theorem Progress.finish_closed (p : Progress) : (p.finish status).closed = p.closed := by
  cases p with
  | executing told => cases told <;> rfl
  | _ => rfl

theorem Progress.accept_reportedStatus (p : Progress) :
    p.accept.reportedStatus = p.reportedStatus := by
  cases p <;> rfl

theorem Progress.reject_reportedStatus (p : Progress) :
    p.reject.reportedStatus = p.reportedStatus := by
  cases p <;> rfl

theorem Progress.finish_reportedStatus (p : Progress) :
    (p.finish status).reportedStatus = p.reportedStatus := by
  cases p with
  | executing told => cases told <;> rfl
  | _ => rfl

theorem Progress.hearResponse_reportedStatus (p : Progress) :
    p.hearResponse.reportedStatus = p.reportedStatus := by
  cases p with
  | ended status told => cases told <;> rfl
  | _ => rfl

theorem Progress.hearResponse_closed {p : Progress} (h : p.responseDue = some true) :
    p.hearResponse.closed = p.closed := by
  rcases eq_of_accepted h with rfl | ⟨status, rfl⟩
  · rfl
  · rfl

theorem Goal.running_congr (f : Progress → Progress) (hf : ∀ p, (f p).closed = p.closed)
    (g : Goal γ) : (g.advance f).running = g.running := by
  simp only [running, advance, hf]

theorem Goal.won_congr (f : Progress → Progress)
    (hf : ∀ p, (f p).reportedStatus = p.reportedStatus) (g : Goal γ) :
    (g.advance f).won = g.won := by
  simp only [won, advance, hf]

/-- What the server does by itself is invisible in the flags and in what they should say. -/
theorem NavLink.flagsRight_advance (l : NavLink γ) (i : Nat) (f : Progress → Progress)
    (hc : ∀ p, (f p).closed = p.closed) (hs : ∀ p, (f p).reportedStatus = p.reportedStatus) :
    ({ l with goals := l.goals.modify i (Goal.advance f) } : NavLink γ).FlagsRight ↔
      l.FlagsRight := by
  have hr := any_latest_advance _ f l i (fun g _ => Goal.running_congr f hc g) l.client
  have hw := any_latest_advance _ f l i (fun g _ => Goal.won_congr f hs g) l.client
  constructor
  · intro h
    exact ⟨h.active.trans hr, h.succeeded.trans hw⟩
  · intro h
    exact ⟨h.active.trans hr.symm, h.succeeded.trans hw.symm⟩

theorem NavLink.FlagsRight.send {l : NavLink γ} (h : l.FlagsRight) (ready : Bool) (r : γ) :
    (l.send ready r).FlagsRight := by
  cases ready with
  | false => exact h
  | true => constructor <;> simp [NavLink.send, NavClient.send, latestRunning, latestWon, latest,
      Goal.running, Goal.won, Progress.closed, Progress.reportedStatus]

/-- After a cancel no goal counts as running or won, whatever the handle pointed to. -/
theorem NavLink.cancel_cancelCalled (l : NavLink γ) (g : Goal γ) (hg : g ∈ l.cancel.goals) :
    g.cancelCalled = true := by
  simp only [NavLink.cancel] at hg
  split at hg
  · obtain ⟨j, hj⟩ := List.getElem?_of_mem hg
    simp only [List.getElem?_modify, List.getElem?_map, Option.map_eq_map,
      Option.map_eq_some_iff, exists_exists_and_eq_and] at hj
    obtain ⟨g', _, rfl⟩ := hj
    split <;> rfl
  · obtain ⟨g', _, rfl⟩ := List.mem_map.1 hg
    rfl

theorem NavLink.flagsRight_cancel (l : NavLink γ) : l.cancel.FlagsRight := by
  have hcalled : ∀ g, l.cancel.latest = some g → g.cancelCalled = true := fun g hg =>
    l.cancel_cancelCalled g (List.mem_of_getLast? hg)
  cases hg : l.cancel.latest with
  | none => constructor <;> simp [latestRunning, latestWon, hg] <;> rfl
  | some g =>
    have hc := hcalled g hg
    constructor <;> simp [latestRunning, latestWon, hg, Goal.running, Goal.won, hc] <;> rfl

section callbacks

variable {l : NavLink γ} {i : Nat} {g : Goal γ}

theorem NavLink.FlagsRight.accepted (h : l.FlagsRight) (hg : l.goals[i]? = some g)
    (hdue : g.progress.responseDue = some true) :
    (NavLink.mk (l.client.onGoalAccepted i true)
      (l.goals.modify i (Goal.advance .hearResponse))).FlagsRight := by
  have hrun : ∀ g', l.goals[i]? = some g' → (g'.advance .hearResponse).running = g'.running := by
    intro g' hg'
    obtain rfl : g = g' := Option.some.inj (hg.symm.trans hg')
    simp only [Goal.running, Goal.advance, Progress.hearResponse_closed hdue]
  have hwon : ∀ g', l.goals[i]? = some g' → (g'.advance .hearResponse).won = g'.won :=
    fun g' _ => Goal.won_congr _ Progress.hearResponse_reportedStatus g'
  constructor
  · exact h.active.trans (any_latest_advance _ _ l i hrun _).symm
  · exact h.succeeded.trans (any_latest_advance _ _ l i hwon _).symm

/-- A rejection clears `active`, rightly so for the latest goal and where nothing runs. -/
theorem NavLink.flagsRight_rejected (h : l.FlagsRight) (hg : l.goals[i]? = some g)
    (hdue : g.progress.responseDue = some false) :
    (NavLink.mk (l.client.onGoalAccepted i false)
      (l.goals.modify i (Goal.advance .hearResponse))).FlagsRight ↔
        l.isLatest i = true ∨ l.latestRunning = false := by
  have hclosed : (g.advance .hearResponse).running = false := by
    rw [Goal.running, Goal.advance, Progress.eq_of_rejected hdue]
    exact Bool.and_false _
  have hrun (c : NavClient) :
      (NavLink.mk c (l.goals.modify i (Goal.advance .hearResponse))).latestRunning =
        if l.isLatest i = true then false else l.latestRunning := by
    rw [NavLink.latestRunning, latest_advance]
    split
    · rename_i hl
      simp [latest_isLatest hl, hg, hclosed]
    · rfl
  have hwon (c : NavClient) :
      (NavLink.mk c (l.goals.modify i (Goal.advance .hearResponse))).latestWon = l.latestWon :=
    any_latest_advance _ _ l i
      (fun g' _ => Goal.won_congr _ Progress.hearResponse_reportedStatus g') c
  constructor
  · intro h'
    have ha := h'.active
    rw [hrun] at ha
    by_cases hl : l.isLatest i = true
    · exact .inl hl
    · rw [if_neg hl] at ha
      exact .inr ha.symm
  · intro hl
    refine ⟨?_, h.succeeded.trans (hwon _).symm⟩
    rw [hrun]
    rcases hl with hl | hl
    · rw [if_pos hl]
      rfl
    · rw [hl, ite_self]
      rfl

theorem NavLink.flagsRight_response (h : l.FlagsRight) (i : Nat) :
    (l.deliverResponse i).FlagsRight ↔ l.Harmless (.nav (.response i)) := by
  cases hdue : l.goals[i]?.bind (·.progress.responseDue) with
  | none => simpa [NavLink.deliverResponse, NavLink.Harmless, hdue] using h
  | some accepted =>
    obtain ⟨g, hg, hgd⟩ := Option.bind_eq_some_iff.1 hdue
    simp only [NavLink.deliverResponse, hdue]
    cases accepted with
    | true => exact iff_of_true (h.accepted hg hgd) (by simp [NavLink.Harmless, hdue])
    | false =>
      rw [flagsRight_rejected h hg hgd]
      constructor
      · exact fun hok _ => hok
      · exact fun hok => hok hdue

/-- The latest goal's own result: its success only counts without a cancel since it was sent. -/
theorem NavLink.flagsRight_ownResult (hg : l.goals[i]? = some g)
    (hp : g.progress = .ended status .response) (hl : l.isLatest i = true) :
    (NavLink.mk (l.client.onNavResult status)
      (l.goals.modify i (Goal.advance .hearResult))).FlagsRight ↔
        g.cancelCalled = false ∨ status ≠ .succeeded := by
  have hlatest (c : NavClient) :
      (NavLink.mk c (l.goals.modify i (Goal.advance .hearResult))).latest =
        some (g.advance .hearResult) := by
    rw [latest_advance, if_pos hl, latest_isLatest hl, hg]
    rfl
  have hrunning : (g.advance .hearResult).running = false := by
    rw [Goal.running, Goal.advance, hp]
    exact Bool.and_false _
  have hwon : (g.advance .hearResult).won = (!g.cancelCalled && decide (status = .succeeded)) := by
    simp [Goal.won, Goal.advance, hp, Progress.hearResult, Progress.reportedStatus]
  constructor
  · intro h
    have hs := h.succeeded
    rw [latestWon, hlatest, Option.any_some, hwon, NavClient.onNavResult] at hs
    cases hc : g.cancelCalled with
    | false => exact .inl rfl
    | true =>
      rw [hc] at hs
      exact .inr (of_decide_eq_false hs)
  · intro hok
    constructor
    · rw [latestRunning, hlatest, Option.any_some, hrunning, NavClient.onNavResult]
    · rw [latestWon, hlatest, Option.any_some, hwon, NavClient.onNavResult]
      rcases hok with hc | hs
      · rw [hc]
        rfl
      · rw [decide_eq_false hs, Bool.and_false]

theorem NavLink.flagsRight_olderResult (hl : ¬ l.isLatest i = true) :
    (NavLink.mk (l.client.onNavResult status)
      (l.goals.modify i (Goal.advance .hearResult))).FlagsRight ↔
        l.latestRunning = false ∧ l.latestWon = decide (status = .succeeded) := by
  have hlatest (c : NavClient) :
      (NavLink.mk c (l.goals.modify i (Goal.advance .hearResult))).latest = l.latest := by
    rw [latest_advance, if_neg hl]
  constructor
  · intro h
    have ha := h.active
    have hs := h.succeeded
    rw [latestRunning, hlatest] at ha
    rw [latestWon, hlatest] at hs
    exact ⟨ha.symm, hs.symm⟩
  · rintro ⟨ha, hs⟩
    constructor
    · rw [latestRunning, hlatest]
      exact ha.symm
    · rw [latestWon, hlatest]
      exact hs.symm

theorem NavLink.flagsRight_result (h : l.FlagsRight) (i : Nat) :
    (l.deliverResult i).FlagsRight ↔ l.Harmless (.nav (.result i)) := by
  cases hdue : l.goals[i]?.bind (·.progress.resultDue) with
  | none =>
    have hno : ∀ g status, l.goals[i]? = some g → g.progress.resultDue ≠ some status := by
      intro g status hg hs
      simp [hg, hs] at hdue
    refine iff_of_true ?_ fun g status hg hs => (hno g status hg hs).elim
    simpa [NavLink.deliverResult, hdue] using h
  | some status =>
    obtain ⟨g, hg, hgd⟩ := Option.bind_eq_some_iff.1 hdue
    have hp := Progress.eq_of_result hgd
    have hok : l.Harmless (.nav (.result i)) ↔ (l.isLatest i = true ∧ g.cancelCalled = false) ∨
        (l.latestRunning = false ∧ l.latestWon = decide (status = .succeeded)) := by
      constructor
      · intro hok
        exact hok g status hg hgd
      · intro hok g' status' hg' hs'
        obtain rfl : g = g' := Option.some.inj (hg.symm.trans hg')
        obtain rfl : status = status' := Option.some.inj (hgd.symm.trans hs')
        exact hok
    rw [hok]
    simp only [NavLink.deliverResult, hdue]
    by_cases hl : l.isLatest i = true
    · have hold : l.latest = some g := (latest_isLatest hl).trans hg
      have hrun : l.latestRunning = !g.cancelCalled := by
        simp [NavLink.latestRunning, hold, Goal.running, hp, Progress.closed]
      have hwon : l.latestWon = false := by
        simp [NavLink.latestWon, hold, Goal.won, hp, Progress.reportedStatus]
      rw [flagsRight_ownResult hg hp hl, hrun, hwon]
      cases g.cancelCalled with
      | false => simp [hl]
      | true => simp
    · rw [flagsRight_olderResult hl]
      simp [hl]

end callbacks

/-- From a state whose flags are right, a step keeps them right exactly when it is harmless. -/
theorem NavLink.flagsRight_step (l : NavLink γ) (e : LinkEvent γ) (h : l.FlagsRight) :
    (linkStep l e).FlagsRight ↔ l.Harmless e := by
  cases e with
  | send ready r => exact iff_of_true (h.send ready r) trivial
  | cancel => exact iff_of_true l.flagsRight_cancel trivial
  | nav e =>
    cases e with
    | accept i =>
      exact iff_of_true ((l.flagsRight_advance i _ Progress.accept_closed
        Progress.accept_reportedStatus).2 h) trivial
    | reject i =>
      exact iff_of_true ((l.flagsRight_advance i _ Progress.reject_closed
        Progress.reject_reportedStatus).2 h) trivial
    | finish i status =>
      exact iff_of_true ((l.flagsRight_advance i _ Progress.finish_closed
        Progress.finish_reportedStatus).2 h) trivial
    | response i => exact flagsRight_response h i
    | result i => exact flagsRight_result h i

def linkRun (es : List (LinkEvent γ)) : NavLink γ := Runs.run linkStep {} es

/-- Neither a goal goes out nor a result comes in. -/
def LinkEvent.keepsCanceled : LinkEvent γ → Bool
  | .send ready _ => !ready
  | .nav (.result _) => false
  | _ => true

theorem linkStep_canceled {l : NavLink γ} {e : LinkEvent γ} (h : l.client.canceled = true)
    (he : e.keepsCanceled = true) : (linkStep l e).client.canceled = true := by
  cases e with
  | send ready r =>
    cases ready with
    | true => cases he
    | false => exact h
  | cancel =>
    simp only [linkStep, NavLink.cancel, NavClient.cancel, h, ite_self]
  | nav e =>
    cases e with
    | result i => cases he
    | response i =>
      simp only [linkStep, NavLink.step, NavLink.deliverResponse]
      split
      · rename_i accepted _
        cases accepted with
        | true => exact h
        | false => exact h
      · exact h
    | _ => exact h

/-- A goal that ends canceled after the client asked for it is no failure to warn of, as long as
no other goal was sent and no other result heard in between. -/
theorem silent_cancel (l : NavLink γ) (hl : l.client.handle.isSome = true)
    (es : List (LinkEvent γ)) (hes : ∀ e ∈ es, e.keepsCanceled = true) :
    (Runs.run linkStep l.cancel es).client.warnsOn .canceled = false := by
  have hcanceled : l.cancel.client.canceled = true := by
    simp only [NavLink.cancel, NavClient.cancel, hl, if_true]
  have hmeet : Runs.StepsMeet linkStep (fun _ e => LinkEvent.keepsCanceled e = true) l.cancel es :=
    Runs.stepsMeet_of_forall fun e he _ => hes e he
  have hrun : (Runs.run linkStep l.cancel es).client.canceled = true :=
    Runs.invariant_of_stepsMeet (I := fun l : NavLink γ => l.client.canceled = true) hcanceled
      (fun _ _ => linkStep_canceled) hmeet
  rw [NavClient.warnsOn, hrun]
  rfl

/-- In every state of the run the flags speak about the latest goal, and no acceptance or result
callback of an older goal changes either of them. -/
structure FlagsFollowLatest (es : List (LinkEvent γ)) : Prop where
  right : ∀ pre, pre <+: es → (linkRun pre).FlagsRight
  older : ∀ pre e i, pre ++ [e] <+: es → (linkRun pre).calledBack e = some i →
    (linkRun pre).isLatest i = false →
      (linkRun (pre ++ [e])).client.active = (linkRun pre).client.active ∧
      (linkRun (pre ++ [e])).client.succeeded = (linkRun pre).client.succeeded

theorem NavLink.latest_calledBack {l : NavLink γ} (hc : l.calledBack e = some i)
    (hi : l.isLatest i = false) : (linkStep l e).latest = l.latest := by
  have hne : ¬ l.isLatest i = true := by simp [hi]
  cases e with
  | send => cases hc
  | cancel => cases hc
  | nav e =>
    cases e with
    | response j =>
      obtain ⟨accepted, hdue, rfl⟩ := Option.map_eq_some_iff.1 hc
      simp only [linkStep, NavLink.step, NavLink.deliverResponse, hdue]
      rw [latest_advance, if_neg hne]
    | result j =>
      obtain ⟨status, hdue, rfl⟩ := Option.map_eq_some_iff.1 hc
      simp only [linkStep, NavLink.step, NavLink.deliverResult, hdue]
      rw [latest_advance, if_neg hne]
    | _ => cases hc

theorem flagsRight_init : (linkRun ([] : List (LinkEvent γ))).FlagsRight := ⟨rfl, rfl⟩

/-- The flags follow the latest goal in exactly the runs all of whose callbacks are harmless. -/
theorem flags_follow_latest_iff (es : List (LinkEvent γ)) :
    FlagsFollowLatest es ↔ Runs.StepsMeet linkStep NavLink.Harmless {} es := by
  have hiff : Runs.Always linkStep NavLink.FlagsRight {} es ↔
      Runs.StepsMeet linkStep NavLink.Harmless {} es :=
    Runs.always_iff_stepsMeet flagsRight_init NavLink.flagsRight_step
  rw [← hiff, Runs.always_iff_prefix]
  constructor
  · exact fun h => h.right
  · intro h
    refine ⟨h, fun pre e i hp hc hi => ?_⟩
    have hpre : (linkRun pre).FlagsRight := h pre ((List.prefix_append _ _).trans hp)
    have hpost : (linkRun (pre ++ [e])).FlagsRight := h (pre ++ [e]) hp
    have hl : (linkRun (pre ++ [e])).latest = (linkRun pre).latest := by
      rw [linkRun, Runs.run_concat]
      exact NavLink.latest_calledBack hc hi
    constructor
    · rw [hpre.active]
      exact hpost.active.trans (congrArg (Option.any Goal.running) hl)
    · rw [hpre.succeeded]
      exact hpost.succeeded.trans (congrArg (Option.any Goal.won) hl)

/-- A canceled goal's result, delivered after the next goal was sent, takes that goal for ended. -/
def lateCancelResult : List (LinkEvent Unit) :=
  [.send true (), .nav (.accept 0), .nav (.response 0), .cancel, .send true (),
    .nav (.accept 1), .nav (.finish 0 .canceled), .nav (.result 0)]

theorem not_flags_follow_latest : ¬ FlagsFollowLatest lateCancelResult := by
  intro h
  have ha := (h.right _ List.prefix_rfl).active
  exact absurd ha (by decide)

end EscapeRoom
