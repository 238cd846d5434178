import EscapeRoom.Library.Runs
import Mathlib.Data.List.Destutter
import Mathlib.Data.Rat.Init

namespace EscapeRoom.Driver
set_option autoImplicit true

inductive Verdict where
  | succeed
  | abort
  | canceled
deriving DecidableEq, Repr

/-- How far a thread has come in `execute_gripper_callback`; the last tests before the verdict are
`ended`, of a cancel request, `uncanceled`, of `should_abort`, and `unaborted`, of the feedback. -/
inductive Phase where
  | entered
  | unlocked
  | differing
  | acquired
  | cleared
  | sent
  | polling (deadline : ℚ)
  | ended
  | uncanceled
  | unaborted
  | judged
  | done
deriving DecidableEq, Repr

/-- A goal with what its thread keeps of it; states are those of the gripper, 0 is a pause. -/
structure GripperGoal where
  targetState : Nat
  power : ℚ
  phase : Phase
  cancelRequested : Bool
  subscribed : Bool
  currentState : Option Nat
  feedback : Nat
  verdict : Option Verdict

/-- The SDK turns the percentage of the power into a level of its own. -/
inductive GripperCmd where
  | control (state : Nat) (percentage : ℚ)
  | pause
deriving DecidableEq, Repr

structure Gripper where
  gripperState : Nat
  published : List Nat
  locked : Bool
  shouldAbort : Bool
  goals : List GripperGoal
  commands : List GripperCmd

/-- What happens next, and in which thread. A status goes to the callback of a goal; the SDK runs
the callbacks one at a time, and each is one event here. -/
inductive GripperEvent where
  | newGoal (targetState : Nat) (power : ℚ)
  | run (i : Nat) (now : ℚ)
  | status (i : Nat) (msg : Nat)
  | cancel
  | canceling (i : Nat)
  | abort

/-- `_gripper_action_lock` is held by the thread of the goal. -/
def Phase.holds : Phase → Bool
  | .acquired | .cleared | .sent | .polling _ | .ended | .uncanceled | .unaborted | .judged => true
  | .entered | .unlocked | .differing | .done => false

def GripperGoal.new (targetState : Nat) (power : ℚ) : GripperGoal where
  targetState := targetState
  power := power
  phase := .entered
  cancelRequested := false
  subscribed := false
  currentState := none
  feedback := 0
  verdict := none

namespace Gripper

/-- The driver once it has queried the state of the gripper. -/
def new (state : Nat) : Gripper where
  gripperState := state
  published := [state]
  locked := false
  shouldAbort := false
  goals := []
  commands := []

/-- The setter of `gripper_state`. -/
def setState (value : Nat) (s : Gripper) : Gripper :=
  if value ≠ s.gripperState then
    { s with gripperState := value, published := s.published ++ [value] }
  else s

/-- One statement of `execute_gripper_callback`; a thread that waits for the lock stays. -/
def execute (now : ℚ) (g : GripperGoal) (s : Gripper) : GripperGoal × Gripper :=
  match g.phase with
  | .entered =>
    if s.locked then ({ g with phase := .done, verdict := some .abort }, s)
    else ({ g with phase := .unlocked }, s)
  | .unlocked =>
    if g.targetState = s.gripperState then
      ({ g with phase := .done, verdict := some .succeed }, s)
    else ({ g with phase := .differing }, s)
  | .differing =>
    if s.locked then (g, s) else ({ g with phase := .acquired }, { s with locked := true })
  | .acquired => ({ g with phase := .cleared }, { s with shouldAbort := false })
  | .cleared =>
    ({ g with phase := .sent },
      { s with commands := s.commands ++ [.control g.targetState (100 * g.power)] })
  | .sent => ({ g with phase := .polling (now + 7), subscribed := true }, s)
  | .polling deadline =>
    -- the tests of the loop as one: while the lock is held only the first can turn true again
    if g.currentState ≠ some g.targetState ∧ ¬ s.shouldAbort ∧ ¬ g.cancelRequested ∧
        ¬ deadline < now then (g, s)
    else ({ g with phase := .ended }, s)
  | .ended =>
    if g.cancelRequested then ({ g with phase := .judged, verdict := some .canceled }, s)
    else ({ g with phase := .uncanceled }, s)
  | .uncanceled =>
    if s.shouldAbort then ({ g with phase := .judged, verdict := some .abort }, s)
    else ({ g with phase := .unaborted }, s)
  | .unaborted =>
    let verdict := if g.feedback ≠ g.targetState then .abort else .succeed
    ({ g with phase := .judged, verdict := some verdict }, s)
  | .judged => ({ g with phase := .done }, { s with locked := false })
  | .done => (g, s)

def step (s : Gripper) : GripperEvent → Gripper
  | .newGoal targetState power =>
    if s.locked then s else { s with goals := s.goals ++ [.new targetState power] }
  | .run i now =>
    match s.goals[i]? with
    | none => s
    | some g =>
      let (g, s) := execute now g s
      { s with goals := s.goals.set i g }
  | .status i msg =>
    match s.goals[i]? with
    | none => s
    | some g =>
      let s := s.setState msg
      { s with goals := s.goals.set i { g with currentState := some msg, feedback := msg } }
  | .cancel => { s with shouldAbort := true, commands := s.commands ++ [.pause] }
  | .canceling i =>
    match s.goals[i]? with
    | none => s
    | some g => { s with goals := s.goals.set i { g with cancelRequested := true } }
  | .abort => if s.locked then { s with shouldAbort := true } else s

/-- A status goes to a callback that has been subscribed, a cancel request to a goal. -/
def Legal (s : Gripper) : GripperEvent → Prop
  | .status i _ => ∃ g, s.goals[i]? = some g ∧ g.subscribed = true
  | .canceling i => i < s.goals.length
  | _ => True

instance (s : Gripper) : (e : GripperEvent) → Decidable (s.Legal e)
  | .status i _ => decidable_of_iff (s.goals[i]?.any GripperGoal.subscribed = true)
      (Option.any_eq_true _ _)
  | .canceling i => inferInstanceAs (Decidable (i < s.goals.length))
  | .newGoal _ _ => .isTrue trivial
  | .run _ _ => .isTrue trivial
  | .cancel => .isTrue trivial
  | .abort => .isTrue trivial

end Gripper

/-- The statuses that came for a goal. -/
def heard (i : Nat) (events : List GripperEvent) : List Nat :=
  events.filterMap fun
    | .status j msg => if j = i then some msg else none
    | _ => none

def statuses (events : List GripperEvent) : List Nat :=
  events.filterMap fun
    | .status _ msg => some msg
    | _ => none

section lists

variable {α : Type} [DecidableEq α]

/-- Without its repetitions a list grows by what differs from its last element. -/
theorem destutter_concat (a : α) (l : List α) (b : α) :
    (a :: (l ++ [b])).destutter (· ≠ ·) =
      (a :: l).destutter (· ≠ ·) ++ if b ≠ l.getLast?.getD a then [b] else [] := by
  simp only [List.destutter_cons']
  induction l generalizing a with
  | nil =>
    rw [List.nil_append, List.destutter'_singleton]
    by_cases h : a = b
    · simp [h]
    · simp [h, Ne.symm h]
  | cons c l ih =>
    rw [List.getLast?_cons, Option.getD_some, List.cons_append]
    by_cases h : a = c
    · subst h
      rw [List.destutter'_cons_neg _ (by simp), List.destutter'_cons_neg _ (by simp), ih]
    · rw [List.destutter'_cons_pos _ h, List.destutter'_cons_pos _ h, ih, List.cons_append]

theorem destutter_getLast? (a : α) (l : List α) :
    ((a :: l).destutter (· ≠ ·)).getLast? = some (l.getLast?.getD a) := by
  induction l using List.reverseRecOn with
  | nil => rfl
  | append_singleton l b ih =>
    rw [destutter_concat, List.getLast?_concat]
    split
    · exact List.getLast?_concat
    · rename_i hsame
      rw [List.append_nil, ih, not_not.1 hsame]
      rfl

end lists

theorem countP_set_add {α : Type} {p : α → Bool} {l : List α} {i : Nat} {a b : α}
    (h : l[i]? = some a) : (l.set i b).countP p + (p a).toNat = l.countP p + (p b).toNat := by
  obtain ⟨hi, rfl⟩ := List.getElem?_eq_some_iff.1 h
  have hpos : p l[i] = true → 0 < l.countP p := fun hp =>
    List.countP_pos_iff.2 ⟨_, List.getElem_mem hi, hp⟩
  rw [List.countP_set hi]
  cases ha : p l[i] with
  | false => cases p b <;> simp
  | true =>
    have := hpos ha
    cases p b <;> simp <;> omega

namespace Gripper

variable {s : Gripper} {g : GripperGoal} {i : Nat} {e : GripperEvent}

@[simp] theorem setState_goals (value : Nat) (s : Gripper) :
    (s.setState value).goals = s.goals := by
  rw [setState]
  split
  · rfl
  · rfl

@[simp] theorem setState_locked (value : Nat) (s : Gripper) :
    (s.setState value).locked = s.locked := by
  rw [setState]
  split
  · rfl
  · rfl

@[simp] theorem setState_gripperState (value : Nat) (s : Gripper) :
    (s.setState value).gripperState = value := by
  rw [setState]
  split
  · rfl
  · rename_i h
    exact (not_not.1 h).symm

theorem setState_published (value : Nat) (s : Gripper) :
    (s.setState value).published =
      s.published ++ if value ≠ s.gripperState then [value] else [] := by
  rw [setState]
  split
  · rfl
  · exact (List.append_nil _).symm

/-- What a thread does when it is its turn. -/
inductive Executes (now : ℚ) (g : GripperGoal) (s : Gripper) : GripperGoal × Gripper → Prop where
  | waits (phase : g.phase = .differing ∨ g.phase = .done ∨
      ∃ deadline, g.phase = .polling deadline ∧ now ≤ deadline) : Executes now g s (g, s)
  | refused (phase : g.phase = .entered) :
      Executes now g s ({ g with phase := .done, verdict := some .abort }, s)
  | passes (phase : g.phase = .entered) : Executes now g s ({ g with phase := .unlocked }, s)
  | found (phase : g.phase = .unlocked) (there : g.targetState = s.gripperState) :
      Executes now g s ({ g with phase := .done, verdict := some .succeed }, s)
  | differs (phase : g.phase = .unlocked) : Executes now g s ({ g with phase := .differing }, s)
  | acquires (phase : g.phase = .differing) (free : s.locked = false) :
      Executes now g s ({ g with phase := .acquired }, { s with locked := true })
  | clears (phase : g.phase = .acquired) :
      Executes now g s ({ g with phase := .cleared }, { s with shouldAbort := false })
  | sends (phase : g.phase = .cleared) : Executes now g s ({ g with phase := .sent },
      { s with commands := s.commands ++ [.control g.targetState (100 * g.power)] })
  | subscribes (phase : g.phase = .sent) :
      Executes now g s ({ g with phase := .polling (now + 7), subscribed := true }, s)
  | leaves (deadline : ℚ) (phase : g.phase = .polling deadline) :
      Executes now g s ({ g with phase := .ended }, s)
  | cancels (phase : g.phase = .ended) :
      Executes now g s ({ g with phase := .judged, verdict := some .canceled }, s)
  | proceeds (phase : g.phase = .ended) (requested : g.cancelRequested = false) :
      Executes now g s ({ g with phase := .uncanceled }, s)
  | aborts (phase : g.phase = .uncanceled) :
      Executes now g s ({ g with phase := .judged, verdict := some .abort }, s)
  | persists (phase : g.phase = .uncanceled) : Executes now g s ({ g with phase := .unaborted }, s)
  | judges (phase : g.phase = .unaborted) : Executes now g s ({ g with
      phase := .judged
      verdict := some (if g.feedback ≠ g.targetState then .abort else .succeed) }, s)
  | releases (phase : g.phase = .judged) :
      Executes now g s ({ g with phase := .done }, { s with locked := false })

theorem execute_executes (now : ℚ) (g : GripperGoal) (s : Gripper) :
    Executes now g s (execute now g s) := by
  cases hphase : g.phase with
  | entered =>
    simp only [execute, hphase]
    split
    · exact .refused hphase
    · exact .passes hphase
  | unlocked =>
    simp only [execute, hphase]
    split
    · exact .found hphase ‹_›
    · exact .differs hphase
  | differing =>
    simp only [execute, hphase]
    split
    · exact .waits (.inl hphase)
    · exact .acquires hphase (Bool.eq_false_iff.2 ‹_›)
  | acquired =>
    simp only [execute, hphase]
    exact .clears hphase
  | cleared =>
    simp only [execute, hphase]
    exact .sends hphase
  | sent =>
    simp only [execute, hphase]
    exact .subscribes hphase
  | polling deadline =>
    simp only [execute, hphase]
    split
    · rename_i hstay
      exact .waits (.inr (.inr ⟨deadline, hphase, not_lt.1 hstay.2.2.2⟩))
    · exact .leaves deadline hphase
  | ended =>
    simp only [execute, hphase]
    split
    · exact .cancels hphase
    · exact .proceeds hphase (Bool.eq_false_iff.2 ‹_›)
  | uncanceled =>
    simp only [execute, hphase]
    split
    · exact .aborts hphase
    · exact .persists hphase
  | unaborted =>
    simp only [execute, hphase]
    exact .judges hphase
  | judged =>
    simp only [execute, hphase]
    exact .releases hphase
  | done =>
    simp only [execute, hphase]
    exact .waits (.inr (.inl hphase))

variable {now : ℚ} {out : GripperGoal × Gripper}

theorem Executes.frame (h : Executes now g s out) :
    out.2.goals = s.goals ∧ out.2.gripperState = s.gripperState ∧
      out.2.published = s.published ∧ out.1.targetState = g.targetState ∧
      out.1.cancelRequested = g.cancelRequested ∧ out.1.feedback = g.feedback := by
  cases h <;> simp

theorem Executes.locked (h : Executes now g s out)
    (hheld : g.phase.holds = true → s.locked = true) :
    out.2.locked.toNat + g.phase.holds.toNat = s.locked.toNat + out.1.phase.holds.toNat := by
  cases h with
  | waits => rfl
  | refused phase => simp [phase, Phase.holds]
  | passes phase => simp [phase, Phase.holds]
  | found phase => simp [phase, Phase.holds]
  | differs phase => simp [phase, Phase.holds]
  | acquires phase free => simp [phase, free, Phase.holds]
  | clears phase => simp [phase, Phase.holds]
  | sends phase => simp [phase, Phase.holds]
  | subscribes phase => simp [phase, Phase.holds]
  | leaves deadline phase => simp [phase, Phase.holds]
  | cancels phase => simp [phase, Phase.holds]
  | proceeds phase => simp [phase, Phase.holds]
  | aborts phase => simp [phase, Phase.holds]
  | persists phase => simp [phase, Phase.holds]
  | judges phase => simp [phase, Phase.holds]
  | releases phase => simp [hheld (by rw [phase]; rfl), phase, Phase.holds]

/-- A goal as an event leaves it. -/
def turned (s : Gripper) (i : Nat) (g : GripperGoal) : GripperEvent → GripperGoal
  | .run j now => if i = j then (execute now g s).1 else g
  | .status j msg => if i = j then { g with currentState := some msg, feedback := msg } else g
  | .canceling j => if i = j then { g with cancelRequested := true } else g
  | _ => g

theorem step_goal (hi : s.goals[i]? = some g) (e : GripperEvent) :
    (s.step e).goals[i]? = some (turned s i g e) := by
  cases e with
  | newGoal targetState power =>
    rw [step]
    split
    · exact hi
    · exact (List.getElem?_append_left (List.getElem?_eq_some_iff.1 hi).1).trans hi
  | run j now =>
    obtain rfl | hij := eq_or_ne j i
    · have hlt := (List.getElem?_eq_some_iff.1 hi).1
      simp only [step, hi, turned, if_true]
      rw [(execute_executes now g s).frame.1]
      exact List.getElem?_set_self hlt
    · cases hj : s.goals[j]? with
      | none => simp only [step, hj, turned, if_neg hij.symm, hi]
      | some g' =>
        simp only [step, hj, turned, if_neg hij.symm]
        rw [(execute_executes now g' s).frame.1, List.getElem?_set_ne hij]
        exact hi
  | status j msg =>
    obtain rfl | hij := eq_or_ne j i
    · have hlt := (List.getElem?_eq_some_iff.1 hi).1
      simp only [step, hi, turned, if_true]
      rw [setState_goals]
      exact List.getElem?_set_self hlt
    · cases hj : s.goals[j]? with
      | none => simp only [step, hj, turned, if_neg hij.symm, hi]
      | some g' =>
        simp only [step, hj, turned, if_neg hij.symm]
        rw [setState_goals, List.getElem?_set_ne hij]
        exact hi
  | cancel => exact hi
  | canceling j =>
    obtain rfl | hij := eq_or_ne j i
    · have hlt := (List.getElem?_eq_some_iff.1 hi).1
      simp only [step, hi, turned, if_true]
      exact List.getElem?_set_self hlt
    · cases hj : s.goals[j]? with
      | none => simp only [step, hj, turned, if_neg hij.symm, hi]
      | some g' =>
        simp only [step, hj, turned, if_neg hij.symm]
        rw [List.getElem?_set_ne hij]
        exact hi
  | abort =>
    rw [step]
    split
    · exact hi
    · exact hi

theorem step_length (s : Gripper) (e : GripperEvent) :
    (s.step e).goals.length = s.goals.length ∨
      ∃ targetState power, (s.step e).goals = s.goals ++ [.new targetState power] := by
  cases e with
  | newGoal targetState power =>
    rw [step]
    split
    · exact .inl rfl
    · exact .inr ⟨targetState, power, rfl⟩
  | run j now =>
    left
    cases hj : s.goals[j]? with
    | none => simp only [step, hj]
    | some g => simp only [step, hj, List.length_set, (execute_executes now g s).frame.1]
  | status j msg =>
    left
    cases hj : s.goals[j]? with
    | none => simp only [step, hj]
    | some g => simp only [step, hj, List.length_set, setState_goals]
  | cancel => exact .inl rfl
  | canceling j =>
    left
    cases hj : s.goals[j]? with
    | none => simp only [step, hj]
    | some g => simp only [step, hj, List.length_set]
  | abort =>
    left
    rw [step]
    split
    · rfl
    · rfl

theorem step_goals {g' : GripperGoal} (h : (s.step e).goals[i]? = some g') :
    (∃ g, s.goals[i]? = some g ∧ g' = turned s i g e) ∨
      s.goals.length = i ∧ ∃ targetState power, g' = .new targetState power := by
  cases hi : s.goals[i]? with
  | some g =>
    rw [step_goal hi] at h
    exact .inl ⟨g, rfl, (Option.some.inj h).symm⟩
  | none =>
    have hlen := List.getElem?_eq_none_iff.1 hi
    have hlt := (List.getElem?_eq_some_iff.1 h).1
    obtain hsame | ⟨targetState, power, hnew⟩ := step_length s e
    · omega
    · rw [hnew, List.length_append, List.length_singleton] at hlt
      obtain rfl : s.goals.length = i := by omega
      rw [hnew, List.getElem?_concat_length] at h
      exact .inr ⟨rfl, targetState, power, (Option.some.inj h).symm⟩

section run

variable {s₀ : Nat} {events : List GripperEvent}

/-- What the driver knows after a run, and that its lock is held by the goal that is at work. -/
structure Known (s₀ : Nat) (events : List GripperEvent) (s : Gripper) : Prop where
  state : s.gripperState = (statuses events).getLast?.getD s₀
  published : s.published = (s₀ :: statuses events).destutter (· ≠ ·)
  exclusive : s.goals.countP (fun g => g.phase.holds) = s.locked.toNat

theorem Known.held (h : Known s₀ events s) (hi : s.goals[i]? = some g) (hg : g.phase.holds = true) :
    s.locked = true := by
  have hpos : 0 < s.goals.countP (fun g => g.phase.holds) :=
    List.countP_pos_iff.2 ⟨g, List.mem_of_getElem? hi, hg⟩
  rw [h.exclusive] at hpos
  cases hl : s.locked with
  | false =>
    rw [hl] at hpos
    exact absurd hpos (Nat.lt_irrefl 0)
  | true => rfl

theorem statuses_concat (events : List GripperEvent) (e : GripperEvent) :
    statuses (events ++ [e]) = statuses events ++ statuses [e] :=
  List.filterMap_append

theorem Known.silent {s' : Gripper} (h : Known s₀ events s) (he : statuses [e] = [])
    (hstate : s'.gripperState = s.gripperState) (hpublished : s'.published = s.published)
    (hcount : s'.goals.countP (fun g => g.phase.holds) = s'.locked.toNat) :
    Known s₀ (events ++ [e]) s' := by
  have hstatuses : statuses (events ++ [e]) = statuses events := by
    rw [statuses_concat, he, List.append_nil]
  constructor
  · rw [hstatuses, hstate, h.state]
  · rw [hstatuses, hpublished, h.published]
  · exact hcount

theorem Known.step (h : Known s₀ events s) (hlegal : s.Legal e) :
    Known s₀ (events ++ [e]) (s.step e) := by
  cases e with
  | newGoal targetState =>
    rw [Gripper.step]
    split
    · exact h.silent rfl rfl rfl h.exclusive
    · refine h.silent rfl rfl rfl ?_
      dsimp only
      rw [List.countP_append, h.exclusive]
      rfl
  | run j now =>
    cases hj : s.goals[j]? with
    | none =>
      simp only [Gripper.step, hj]
      exact h.silent rfl rfl rfl h.exclusive
    | some g =>
      simp only [Gripper.step, hj]
      have hexecutes := execute_executes now g s
      obtain ⟨hgoals, hstate, hpublished, -⟩ := hexecutes.frame
      have hlocked := hexecutes.locked (h.held hj)
      have hcount := countP_set_add (p := fun g => g.phase.holds) (b := (execute now g s).1) hj
      have hbefore := h.exclusive
      refine h.silent rfl hstate hpublished ?_
      dsimp only at hcount ⊢
      rw [hgoals]
      omega
  | status j msg =>
    obtain ⟨g, hj, -⟩ := hlegal
    simp only [Gripper.step, hj]
    have hcount := countP_set_add (p := fun g => g.phase.holds)
      (b := { g with currentState := some msg, feedback := msg }) hj
    have hstatuses : statuses (events ++ [.status j msg]) = statuses events ++ [msg] :=
      statuses_concat _ _
    constructor
    · rw [hstatuses, List.getLast?_concat]
      exact setState_gripperState msg s
    · rw [hstatuses, destutter_concat, ← h.state, ← h.published]
      exact setState_published msg s
    · dsimp only at hcount ⊢
      rw [setState_goals, setState_locked]
      have hbefore := h.exclusive
      omega
  | cancel => exact h.silent rfl rfl rfl h.exclusive
  | canceling j =>
    cases hj : s.goals[j]? with
    | none =>
      simp only [Gripper.step, hj]
      exact h.silent rfl rfl rfl h.exclusive
    | some g =>
      simp only [Gripper.step, hj]
      have hcount := countP_set_add (p := fun g => g.phase.holds)
        (b := { g with cancelRequested := true }) hj
      have hbefore := h.exclusive
      refine h.silent rfl rfl rfl ?_
      dsimp only at hcount ⊢
      omega
  | abort =>
    rw [Gripper.step]
    split
    · exact h.silent rfl rfl rfl h.exclusive
    · exact h.silent rfl rfl rfl h.exclusive

theorem heard_concat (i : Nat) (events : List GripperEvent) (e : GripperEvent) :
    heard i (events ++ [e]) = heard i events ++ heard i [e] :=
  List.filterMap_append

/-- The thread of a goal has made the test of a phase, at a time when `what` held of the events. -/
def Tested (s₀ : Nat) (events : List GripperEvent) (i : Nat) (phase : Phase)
    (what : List GripperEvent → Prop) : Prop :=
  ∃ pre now post g, events = pre ++ .run i now :: post ∧
    (Runs.run Gripper.step (new s₀) pre).goals[i]? = some g ∧ g.phase = phase ∧ what pre

theorem Tested.concat {phase : Phase} {what : List GripperEvent → Prop}
    (h : Tested s₀ events i phase what) (e : GripperEvent) :
    Tested s₀ (events ++ [e]) i phase what := by
  obtain ⟨pre, now, post, g, rfl, hpre⟩ := h
  exact ⟨pre, now, post ++ [e], g, by simp, hpre⟩

/-- What stands behind a success: when the goal looked at the known state, this was its target, or
nobody had asked to cancel it when it made sure of that, and what it had heard last was its target
when it looked at this. A callback that has heard nothing takes the gripper for paused. -/
def Earned (s₀ : Nat) (events : List GripperEvent) (i : Nat) (g : GripperGoal) : Prop :=
  Tested s₀ events i .unlocked (fun pre => (statuses pre).getLast?.getD s₀ = g.targetState) ∨
    (Tested s₀ events i .ended (.canceling i ∉ ·) ∧
      Tested s₀ events i .unaborted (fun pre => (heard i pre).getLast?.getD 0 = g.targetState))

/-- What a goal knows after a run. -/
structure Told (s₀ : Nat) (events : List GripperEvent) (i : Nat) (g : GripperGoal) : Prop where
  requested : g.cancelRequested = false → .canceling i ∉ events
  feedback : g.feedback = (heard i events).getLast?.getD 0
  proceeded : g.phase = .uncanceled ∨ g.phase = .unaborted →
    Tested s₀ events i .ended (.canceling i ∉ ·)
  succeeded : g.verdict = some .succeed → Earned s₀ events i g

theorem Earned.concat (h : Earned s₀ events i g) (e : GripperEvent) {g' : GripperGoal}
    (htarget : g'.targetState = g.targetState) : Earned s₀ (events ++ [e]) i g' := by
  rw [Earned, htarget]
  exact h.imp (fun h => h.concat e) fun h => ⟨h.1.concat e, h.2.concat e⟩

theorem not_mem_concat (h : .canceling i ∉ events) (he : e ≠ .canceling i) :
    GripperEvent.canceling i ∉ events ++ [e] := by
  rw [List.mem_append, List.mem_singleton, not_or]
  exact ⟨h, he.symm⟩

theorem Told.other (h : Told s₀ events i g) (he : heard i [e] = []) (hc : e ≠ .canceling i) :
    Told s₀ (events ++ [e]) i g := by
  have hheard : heard i (events ++ [e]) = heard i events := by
    rw [heard_concat, he, List.append_nil]
  constructor
  · exact fun hg => not_mem_concat (h.requested hg) hc
  · rw [hheard, h.feedback]
  · exact fun hg => (h.proceeded hg).concat e
  · exact fun hg => (h.succeeded hg).concat e rfl

theorem Told.run (h : Told s₀ events i g) (hk : Known s₀ events s)
    (hi : (Runs.run Gripper.step (new s₀) events).goals[i]? = some g)
    {out : GripperGoal × Gripper} (hout : Executes now g s out) :
    Told s₀ (events ++ [.run i now]) i out.1 := by
  have hheard : heard i (events ++ [.run i now]) = heard i events := by
    rw [heard_concat]
    exact List.append_nil _
  obtain ⟨-, -, -, htarget, hrequested, hfeedback⟩ := hout.frame
  constructor
  · rw [hrequested]
    exact fun hg => not_mem_concat (h.requested hg) nofun
  · rw [hheard, hfeedback, h.feedback]
  · intro hg
    have hbefore (hphase : g.phase = .uncanceled ∨ g.phase = .unaborted) :
        Tested s₀ (events ++ [.run i now]) i .ended (.canceling i ∉ ·) :=
      (h.proceeded hphase).concat _
    cases hout with
    | waits => exact hbefore hg
    | proceeds phase requested =>
      exact ⟨events, now, [], g, rfl, hi, phase, h.requested requested⟩
    | persists phase => exact hbefore (.inl phase)
    | _ => simp at hg
  · intro hg
    have hkept (hsame : out.1.verdict = g.verdict) : Earned s₀ (events ++ [.run i now]) i out.1 :=
      (h.succeeded (hsame ▸ hg)).concat _ htarget
    cases hout with
    | refused => cases hg
    | found phase there =>
      exact .inl ⟨events, now, [], g, rfl, hi, phase, hk.state.symm.trans there.symm⟩
    | cancels => cases hg
    | aborts => cases hg
    | judges phase =>
      have hthere : g.feedback = g.targetState := by
        by_contra hne
        simp [hne] at hg
      rw [h.feedback] at hthere
      exact .inr ⟨(h.proceeded (.inr phase)).concat _, events, now, [], g, rfl, hi, phase, hthere⟩
    | _ => exact hkept rfl

theorem Told.hear (h : Told s₀ events i g) (msg : Nat) :
    Told s₀ (events ++ [.status i msg]) i { g with currentState := some msg, feedback := msg } := by
  have hheard : heard i (events ++ [.status i msg]) = heard i events ++ [msg] := by
    rw [heard_concat]
    simp [heard]
  constructor
  · exact fun hg => not_mem_concat (h.requested hg) nofun
  · rw [hheard, List.getLast?_concat]
    rfl
  · exact fun hg => (h.proceeded hg).concat _
  · exact fun hg => (h.succeeded hg).concat _ rfl

theorem Told.cancel (h : Told s₀ events i g) :
    Told s₀ (events ++ [.canceling i]) i { g with cancelRequested := true } := by
  have hheard : heard i (events ++ [.canceling i]) = heard i events := by
    rw [heard_concat]
    exact List.append_nil _
  constructor
  · exact nofun
  · rw [hheard]
    exact h.feedback
  · exact fun hg => (h.proceeded hg).concat _
  · exact fun hg => (h.succeeded hg).concat _ rfl

theorem Told.new (hheard : heard i events = []) (hcancel : .canceling i ∉ events)
    (targetState : Nat) (power : ℚ) : Told s₀ events i (.new targetState power) := by
  constructor
  · exact fun _ => hcancel
  · rw [hheard]
    rfl
  · exact nofun
  · exact nofun

/-- What every goal knows, and that nothing came for goals that are yet to come. -/
structure Tracked (s₀ : Nat) (events : List GripperEvent) (s : Gripper) : Prop extends
    Known s₀ events s where
  ran : s = Runs.run Gripper.step (new s₀) events
  told : ∀ i g, s.goals[i]? = some g → Told s₀ events i g
  fresh : ∀ i, s.goals.length ≤ i → heard i events = [] ∧ .canceling i ∉ events

theorem Told.turned (h : Told s₀ events i g) (hk : Known s₀ events s)
    (hran : s = Runs.run Gripper.step (Gripper.new s₀) events) (hi : s.goals[i]? = some g)
    (e : GripperEvent) : Told s₀ (events ++ [e]) i (turned s i g e) := by
  cases e with
  | newGoal => exact h.other rfl nofun
  | run j now =>
    rw [Gripper.turned]
    split
    · subst i
      exact h.run hk (hran ▸ hi) (execute_executes now g s)
    · exact h.other rfl nofun
  | status j msg =>
    rw [Gripper.turned]
    split
    · subst i
      exact h.hear msg
    · rename_i hij
      exact h.other (by simp [heard, Ne.symm hij]) nofun
  | cancel => exact h.other rfl nofun
  | canceling j =>
    rw [Gripper.turned]
    split
    · subst i
      exact h.cancel
    · rename_i hij
      exact h.other rfl fun heq => hij (GripperEvent.canceling.inj heq).symm
  | abort => exact h.other rfl nofun

theorem Tracked.step (h : Tracked s₀ events s) (hlegal : s.Legal e) :
    Tracked s₀ (events ++ [e]) (s.step e) := by
  have hfresh : ∀ i, s.goals.length ≤ i →
      heard i (events ++ [e]) = [] ∧ .canceling i ∉ events ++ [e] := by
    intro i hi
    obtain ⟨hheard, hcancel⟩ := h.fresh i hi
    constructor
    · rw [heard_concat, hheard, List.nil_append]
      cases e with
      | status j msg =>
        obtain ⟨g, hj, -⟩ := hlegal
        have hlt := (List.getElem?_eq_some_iff.1 hj).1
        have hij : j ≠ i := by omega
        simp [heard, hij]
      | newGoal => rfl
      | run => rfl
      | cancel => rfl
      | canceling => rfl
      | abort => rfl
    · apply not_mem_concat hcancel
      rintro rfl
      exact absurd hlegal hi.not_gt
  refine ⟨h.toKnown.step hlegal, ?_, fun i g' hg' => ?_, fun i hi => hfresh i ?_⟩
  · rw [Runs.run_concat, ← h.ran]
  · obtain ⟨g, hi, rfl⟩ | ⟨hi, targetState, power, rfl⟩ := step_goals hg'
    · exact (h.told i g hi).turned h.toKnown h.ran hi e
    · exact .new (hfresh i hi.le).1 (hfresh i hi.le).2 targetState power
  · obtain hsame | ⟨targetState, power, hnew⟩ := step_length s e
    · omega
    · rw [hnew, List.length_append] at hi
      omega

theorem tracked_run (hlegal : Runs.StepsMeet Gripper.step Legal (new s₀) events) :
    Tracked s₀ events (Runs.run Gripper.step (new s₀) events) := by
  induction events using List.reverseRecOn with
  | nil => exact ⟨⟨rfl, rfl, rfl⟩, rfl, by simp [new], by simp [heard]⟩
  | append_singleton events e ih =>
    rw [Runs.stepsMeet_append] at hlegal
    rw [Runs.run_concat]
    exact (ih hlegal.1).step hlegal.2.1

/-- However the threads take turns, at most one goal is at work, which is when the lock is held, and
the topic carries each change of the status once. -/
theorem gripper_orderly (hlegal : Runs.StepsMeet Gripper.step Legal (new s₀) events) :
    let s := Runs.run Gripper.step (new s₀) events
    s.goals.countP (fun g => g.phase.holds) = s.locked.toNat ∧
      s.published = (s₀ :: statuses events).destutter (· ≠ ·) ∧
      s.published.getLast? = some s.gripperState := by
  have h := (tracked_run hlegal).toKnown
  refine ⟨h.exclusive, h.published, ?_⟩
  rw [h.published, destutter_getLast?, h.state]

/-- Two goals come before either has the lock; the first closes the gripper, and the second finds it
closed when it has waited for the lock. -/
def race : List GripperEvent :=
  [.newGoal 2 0.5, .newGoal 2 0.5, .run 0 0, .run 1 0, .run 0 0, .run 1 0, .run 0 0, .run 1 0,
    .run 0 0, .run 0 0, .run 0 0, .status 0 0, .run 0 1, .status 0 2, .run 0 2, .run 0 2, .run 0 2,
    .run 0 2, .run 0 2, .run 1 3, .run 1 3, .run 1 3, .run 1 3, .status 1 2, .run 1 4, .run 1 4,
    .run 1 4, .run 1 4, .run 1 4]

theorem gripper_orderly_race :
    let s := Runs.run Gripper.step (new 1) race
    s.goals.countP (fun g => g.phase.holds) = s.locked.toNat ∧
      s.published = (1 :: statuses race).destutter (· ≠ ·) ∧
      s.published.getLast? = some s.gripperState :=
  gripper_orderly (by decide +kernel)

/-- A goal only succeeds on what the driver has heard of the gripper. -/
theorem success_earned (hlegal : Runs.StepsMeet Gripper.step Legal (new s₀) events)
    (hi : (Runs.run Gripper.step (new s₀) events).goals[i]? = some g)
    (hg : g.verdict = some .succeed) : Earned s₀ events i g :=
  ((tracked_run hlegal).told i g hi).succeeded hg

theorem success_earned_race :
    ∃ g, (Runs.run Gripper.step (new 1) race).goals[0]? = some g ∧ Earned 1 race 0 g := by
  have hgoal : (Runs.run Gripper.step (new 1) race).goals[0]?.any
      (fun g => g.verdict == some .succeed) = true := by decide +kernel
  obtain ⟨g, hi, hg⟩ := (Option.any_eq_true _ _).1 hgoal
  exact ⟨g, hi, success_earned (by decide +kernel) hi (beq_iff_eq.1 hg)⟩

end run

end Gripper

end EscapeRoom.Driver
