import EscapeRoom.GripperAction
import EscapeRoom.Library.Temporal
import Mathlib.Algebra.Order.Archimedean.Basic
import Mathlib.Data.Nat.Pairing

namespace EscapeRoom.Driver.Gripper
set_option autoImplicit true

section fair

variable {s : Gripper} {g : GripperGoal} {i s₀ : Nat} {events : Nat → GripperEvent}
  {p q : Phase → Prop}

/-- The driver in an endless run. -/
def after (s : Gripper) (events : Nat → GripperEvent) : Nat → Gripper
  | 0 => s
  | n + 1 => (s.after events n).step (events n)

/-- Every thread gets its turn again and again, and time goes by. -/
def Fair (events : Nat → GripperEvent) : Prop :=
  ∀ i n time, ∃ m, n ≤ m ∧ ∃ now, time < now ∧ events m = .run i now

def At (i : Nat) (p : Phase → Prop) (s : Gripper) : Prop :=
  ∃ g, s.goals[i]? = some g ∧ p g.phase

theorem At.step (h : At i p s) (hp : ∀ now g s out, Executes now g s out → p g.phase →
    p out.1.phase ∨ q out.1.phase) (e : GripperEvent) : At i p (s.step e) ∨ At i q (s.step e) := by
  obtain ⟨g, hi, hg⟩ := h
  have hgoal := step_goal hi e
  have hsame (hphase : (turned s i g e).phase = g.phase) : At i p (s.step e) :=
    ⟨_, hgoal, hphase ▸ hg⟩
  cases e with
  | run j now =>
    rw [turned] at hgoal hsame
    split at hgoal
    · exact (hp now g s _ (execute_executes now g s) hg).imp
        (fun h => ⟨_, hgoal, h⟩) (fun h => ⟨_, hgoal, h⟩)
    · rename_i hij
      exact .inl (hsame (by rw [if_neg hij]))
  | status j msg =>
    rw [turned] at hsame
    exact .inl (hsame (by split <;> rfl))
  | canceling j =>
    rw [turned] at hsame
    exact .inl (hsame (by split <;> rfl))
  | newGoal => exact .inl (hsame rfl)
  | cancel => exact .inl (hsame rfl)
  | abort => exact .inl (hsame rfl)

/-- A phase that a thread can leave from some time on is left. -/
theorem leads_phase (hfair : Fair events) (time : ℚ)
    (hp : ∀ now g s out, Executes now g s out → p g.phase → p out.1.phase ∨ q out.1.phase)
    (hq : ∀ now g s out, Executes now g s out → time < now → p g.phase → q out.1.phase) :
    Temporal.LeadsTo (s.after events) (At i p) (At i q) := by
  refine .of_progress (fun n => ∃ now, time < now ∧ events n = .run i now)
    (fun n h => h.step hp (events n)) (fun n h hgo => ?_) (fun n _ => hfair i n time)
  obtain ⟨g, hi, hg⟩ := h
  obtain ⟨now, hnow, hrun⟩ := hgo
  refine ⟨_, step_goal hi (events n), ?_⟩
  rw [hrun, turned, if_pos rfl]
  exact hq now g _ _ (execute_executes now g _) hnow hg

theorem leads_next (hfair : Fair events)
    (hq : ∀ now g s out, Executes now g s out → p g.phase → q out.1.phase) :
    Temporal.LeadsTo (s.after events) (At i p) (At i q) :=
  leads_phase hfair 0 (fun now g s out hout hg => .inr (hq now g s out hout hg))
    fun now g s out hout _ hg => hq now g s out hout hg

theorem judged_leads (hfair : Fair events) :
    Temporal.LeadsTo (s.after events) (At i (· = .judged)) (At i (· = .done)) := by
  apply leads_next hfair
  intro now g s out hout hg
  cases hout <;> simp_all

theorem unaborted_leads (hfair : Fair events) :
    Temporal.LeadsTo (s.after events) (At i (· = .unaborted)) (At i (· = .done)) := by
  refine .trans ?_ (judged_leads hfair)
  apply leads_next hfair
  intro now g s out hout hg
  cases hout <;> simp_all

theorem uncanceled_leads (hfair : Fair events) :
    Temporal.LeadsTo (s.after events) (At i (· = .uncanceled)) (At i (· = .done)) := by
  have htested : Temporal.LeadsTo (s.after events) (At i (· = .uncanceled))
      (At i fun phase => phase = .judged ∨ phase = .unaborted) := by
    apply leads_next hfair
    intro now g s out hout hg
    cases hout <;> simp_all
  refine htested.trans ?_
  rintro n ⟨g, hi, hg | hg⟩
  · exact judged_leads hfair n ⟨g, hi, hg⟩
  · exact unaborted_leads hfair n ⟨g, hi, hg⟩

theorem ended_leads (hfair : Fair events) :
    Temporal.LeadsTo (s.after events) (At i (· = .ended)) (At i (· = .done)) := by
  have htested : Temporal.LeadsTo (s.after events) (At i (· = .ended))
      (At i fun phase => phase = .judged ∨ phase = .uncanceled) := by
    apply leads_next hfair
    intro now g s out hout hg
    cases hout <;> simp_all
  refine htested.trans ?_
  rintro n ⟨g, hi, hg | hg⟩
  · exact judged_leads hfair n ⟨g, hi, hg⟩
  · exact uncanceled_leads hfair n ⟨g, hi, hg⟩

theorem polling_leads (hfair : Fair events) (deadline : ℚ) :
    Temporal.LeadsTo (s.after events) (At i (· = .polling deadline)) (At i (· = .done)) := by
  refine .trans ?_ (ended_leads hfair)
  apply leads_phase hfair deadline
  · intro now g s out hout hg
    cases hout <;> simp_all
  · intro now g s out hout hnow hg
    cases hout with
    | waits phase =>
      obtain h | h | ⟨d, h, hle⟩ := phase
      · simp [hg] at h
      · simp [hg] at h
      · rw [hg, Phase.polling.injEq] at h
        exact absurd hnow (h ▸ hle).not_gt
    | leaves => rfl
    | _ phase => simp [hg] at phase

theorem sent_leads (hfair : Fair events) :
    Temporal.LeadsTo (s.after events) (At i (· = .sent)) (At i (· = .done)) := by
  have hpolls : Temporal.LeadsTo (s.after events) (At i (· = .sent))
      (At i fun phase => ∃ deadline, phase = .polling deadline) := by
    apply leads_next hfair
    intro now g s out hout hg
    cases hout <;> simp_all
  refine hpolls.trans fun n hn => ?_
  obtain ⟨g, hi, deadline, hg⟩ := hn
  exact polling_leads hfair deadline n ⟨g, hi, hg⟩

theorem acquired_leads (hfair : Fair events) :
    Temporal.LeadsTo (s.after events) (At i fun phase => phase = .acquired ∨ phase = .cleared)
      (At i (· = .done)) := by
  have hcleared : Temporal.LeadsTo (s.after events) (At i (· = .cleared)) (At i (· = .sent)) := by
    apply leads_next hfair
    intro now g s out hout hg
    cases hout <;> simp_all
  have hacquired : Temporal.LeadsTo (s.after events) (At i (· = .acquired))
      (At i (· = .cleared)) := by
    apply leads_next hfair
    intro now g s out hout hg
    cases hout <;> simp_all
  rintro n ⟨g, hi, hg | hg⟩
  · exact (hacquired.trans (hcleared.trans (sent_leads hfair))) n ⟨g, hi, hg⟩
  · exact (hcleared.trans (sent_leads hfair)) n ⟨g, hi, hg⟩

/-- A thread that is past its verdict has one. -/
def Answered (s : Gripper) : Prop :=
  ∀ (i : Nat) (g : GripperGoal), s.goals[i]? = some g → g.phase = .judged ∨ g.phase = .done →
    g.verdict ≠ none

theorem Answered.step (h : Answered s) (e : GripperEvent) : Answered (s.step e) := by
  intro i g' hg'
  obtain ⟨g, hi, rfl⟩ | ⟨-, targetState, power, rfl⟩ := step_goals hg'
  · have hg := h i g hi
    cases e with
    | run j now =>
      rw [turned]
      split
      · have hout := execute_executes now g s
        generalize execute now g s = out at hout
        cases hout with
        | waits => exact hg
        | refused => exact fun _ => Option.some_ne_none _
        | found => exact fun _ => Option.some_ne_none _
        | cancels => exact fun _ => Option.some_ne_none _
        | aborts => exact fun _ => Option.some_ne_none _
        | judges => exact fun _ => Option.some_ne_none _
        | releases phase => exact fun _ => hg (.inl phase)
        | _ => exact fun hp => absurd hp (by simp)
      · exact hg
    | status j msg =>
      rw [turned]
      split
      · exact hg
      · exact hg
    | canceling j =>
      rw [turned]
      split
      · exact hg
      · exact hg
    | newGoal => exact hg
    | cancel => exact hg
    | abort => exact hg
  · exact fun hp => absurd hp (by simp [GripperGoal.new])

theorem answered_after (s₀ : Nat) (events : Nat → GripperEvent) (n : Nat) :
    Answered ((new s₀).after events n) := by
  induction n with
  | zero => exact fun i g hg => by simp [after, new] at hg
  | succ n ih => exact ih.step (events n)

/-- Whoever gets the lock gets an answer and gives the lock back, as long as threads take turns. -/
theorem lock_released (hfair : Fair events) (s₀ i : Nat) :
    Temporal.LeadsTo ((new s₀).after events)
      (fun s => ∃ g, s.goals[i]? = some g ∧ g.phase.holds = true)
      (fun s => ∃ g, s.goals[i]? = some g ∧ g.phase = .done ∧ g.verdict ≠ none) := by
  intro n hn
  obtain ⟨g, hi, hg⟩ := hn
  have hanswer (h : ∃ m, n ≤ m ∧ At i (· = .done) ((new s₀).after events m)) :
      ∃ m, n ≤ m ∧ ∃ g, ((new s₀).after events m).goals[i]? = some g ∧ g.phase = .done ∧
        g.verdict ≠ none := by
    obtain ⟨m, hm, g, hi, hg⟩ := h
    exact ⟨m, hm, g, hi, hg, answered_after s₀ events m i g hi (.inr hg)⟩
  apply hanswer
  cases hphase : g.phase with
  | acquired => exact acquired_leads hfair n ⟨g, hi, .inl hphase⟩
  | cleared => exact acquired_leads hfair n ⟨g, hi, .inr hphase⟩
  | sent => exact sent_leads hfair n ⟨g, hi, hphase⟩
  | polling deadline => exact polling_leads hfair deadline n ⟨g, hi, hphase⟩
  | ended => exact ended_leads hfair n ⟨g, hi, hphase⟩
  | uncanceled => exact uncanceled_leads hfair n ⟨g, hi, hphase⟩
  | unaborted => exact unaborted_leads hfair n ⟨g, hi, hphase⟩
  | judged => exact judged_leads hfair n ⟨g, hi, hphase⟩
  | _ => simp [hphase, Phase.holds] at hg

/-- New goals, and turns for every thread. -/
def busily (n : Nat) : GripperEvent :=
  match n.unpair.1 with
  | 0 => .newGoal 2 0.5
  | i + 1 => .run i n

theorem fair_busily : Fair busily := by
  intro i n time
  obtain ⟨k, hk⟩ := exists_nat_gt time
  have hle := Nat.right_le_pair (i + 1) (max n k)
  refine ⟨Nat.pair (i + 1) (max n k), (le_max_left _ _).trans hle,
    ((Nat.pair (i + 1) (max n k) : Nat) : ℚ), ?_, ?_⟩
  · exact hk.trans_le (Nat.cast_le.2 ((le_max_right _ _).trans hle))
  · rw [busily, Nat.unpair_pair]

/-- The first goal has the lock after six events, and gives it back. -/
theorem lock_released_busily :
    (∃ g, ((new 1).after busily 6).goals[0]? = some g ∧ g.phase.holds = true) ∧
      ∃ m, 6 ≤ m ∧ ∃ g, ((new 1).after busily m).goals[0]? = some g ∧ g.phase = .done ∧
        g.verdict ≠ none := by
  have hholds : ∃ g, ((new 1).after busily 6).goals[0]? = some g ∧ g.phase.holds = true := by
    have hany : ((new 1).after busily 6).goals[0]?.any (fun g => g.phase.holds) = true := by
      decide +kernel
    exact (Option.any_eq_true _ _).1 hany
  exact ⟨hholds, lock_released fair_busily 1 0 6 hholds⟩

end fair

end EscapeRoom.Driver.Gripper
