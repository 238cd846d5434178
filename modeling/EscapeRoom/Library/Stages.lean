import Mathlib.Data.List.Destutter
import EscapeRoom.Library.Runs

namespace Stages
set_option autoImplicit true

open Runs

variable {σ ε M C : Type} [DecidableEq M]

/-- A step that stays in its stage and adds nothing to the history, or enters the next stage and
adds what that stage's entry emits. -/
inductive Advance (next : M → Option M) (emits : M → List C) (m : M) (hist : List C) :
    M → List C → Prop where
  | stay : Advance next emits m hist m hist
  | enter (hn : next m = some m') : Advance next emits m hist m' (hist ++ emits m')

/-- A sequence of stages, each the next one of its predecessor, that ends where there is none. -/
def IsPath (next : M → Option M) : List M → Prop
  | [] => False
  | [m] => next m = none
  | m :: m' :: ms => next m = some m' ∧ m ≠ m' ∧ IsPath next (m' :: ms)

/-- The stages of a list of states, without repetitions. -/
def visited (stage : σ → M) (ss : List σ) : List M := (ss.map stage).destutter (· ≠ ·)

theorem visited_cons_same {stage : σ → M} (h : stage s = stage s') (ss : List σ) :
    visited stage (s :: s' :: ss) = visited stage (s' :: ss) := by
  simp [visited, List.destutter_cons', h]

theorem visited_cons_ne {stage : σ → M} (h : stage s ≠ stage s') (ss : List σ) :
    visited stage (s :: s' :: ss) = stage s :: visited stage (s' :: ss) := by
  simp [visited, List.destutter_cons', h]

theorem IsPath.tail (h : IsPath next (m :: m' :: ms)) : IsPath next (m' :: ms) := h.2.2

theorem IsPath.cons_of_next (h : IsPath next (m :: ms)) (hn : next m = some m') :
    m ≠ m' ∧ ∃ ms', ms = m' :: ms' := by
  cases ms with
  | nil => cases hn.symm.trans h
  | cons m'' ms =>
    obtain rfl : m' = m'' := Option.some.inj (hn.symm.trans h.1)
    exact ⟨h.2.1, ms, rfl⟩

section runs

variable {step : σ → ε → σ} {stage : σ → M} {hist : σ → List C} {next : M → Option M}
  {emits : M → List C}

theorem states_head (step : σ → ε → σ) (s : σ) (es : List ε) :
    ∃ ss, states step s es = s :: ss := by
  cases es with
  | nil => exact ⟨[], rfl⟩
  | cons e es => exact ⟨_, rfl⟩

/-- A run that only stays or advances visits an initial part of the path. -/
theorem visited_prefix
    (hs : ∀ s e, Advance next emits (stage s) (hist s) (stage (step s e)) (hist (step s e)))
    (es : List ε) (hp : IsPath next (stage s :: ms)) :
    visited stage (states step s es) <+: stage s :: ms := by
  induction es generalizing s ms with
  | nil => simp [states, visited]
  | cons e es ih =>
    obtain ⟨ss, hss⟩ := states_head step (step s e) es
    simp only [states]
    have hstep := hs s e
    generalize hm : stage (step s e) = m at hstep
    generalize hist (step s e) = hist' at hstep
    cases hstep with
    | stay =>
      rw [hss, visited_cons_same hm.symm, ← hss, ← hm]
      exact ih (hm ▸ hp)
    | enter hn =>
      obtain ⟨hne, ms', rfl⟩ := hp.cons_of_next hn
      rw [hss, visited_cons_ne (hm ▸ hne), ← hss, List.cons_prefix_cons]
      exact ⟨rfl, hm ▸ ih (hm ▸ hp.tail)⟩

theorem visited_cons (stage : σ → M) (s : σ) (ss : List σ) :
    ∃ ms, visited stage (s :: ss) = stage s :: ms := by
  induction ss generalizing s with
  | nil => exact ⟨[], rfl⟩
  | cons s' ss ih =>
    by_cases h : stage s = stage s'
    · rw [visited_cons_same h, h]
      exact ih s'
    · exact ⟨_, visited_cons_ne h ss⟩

theorem visited_getLast? (step : σ → ε → σ) (stage : σ → M) (s : σ) (es : List ε) :
    (visited stage (states step s es)).getLast? = some (stage (run step s es)) := by
  induction es generalizing s with
  | nil => rfl
  | cons e es ih =>
    obtain ⟨ss, hss⟩ := states_head step (step s e) es
    rw [states, run_cons, hss]
    by_cases h : stage s = stage (step s e)
    · rw [visited_cons_same h, ← hss, ih]
    · rw [visited_cons_ne h, ← hss, List.getLast?_cons, ih]
      rfl

/-- What a run adds to the history is what the entries of the stages it visits emit. -/
theorem hist_run
    (hs : ∀ s e, Advance next emits (stage s) (hist s) (stage (step s e)) (hist (step s e)))
    (hne : ∀ m m', next m = some m' → m ≠ m') (s : σ) (es : List ε) :
    hist (run step s es) =
      hist s ++ (visited stage (states step s es)).tail.flatMap emits := by
  induction es generalizing s with
  | nil => simp [states, visited]
  | cons e es ih =>
    obtain ⟨ss, hss⟩ := states_head step (step s e) es
    rw [run_cons, ih]
    simp only [states]
    have hstep := hs s e
    generalize hm : stage (step s e) = m at hstep
    generalize hh : hist (step s e) = hist' at hstep
    cases hstep with
    | stay => rw [hss, visited_cons_same hm.symm]
    | enter hn =>
      rw [hss, visited_cons_ne (hm ▸ hne _ _ hn), List.tail_cons]
      obtain ⟨ms, hms⟩ := visited_cons stage (step s e) ss
      rw [hms, hm, List.tail_cons, List.flatMap_cons, List.append_assoc]

end runs

end Stages
