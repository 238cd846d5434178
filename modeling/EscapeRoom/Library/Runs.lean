import Mathlib.Algebra.Order.Archimedean.Basic
import Mathlib.Data.List.Infix

namespace Runs
set_option autoImplicit true

variable {σ ε : Type} {step : σ → ε → σ} {ok : σ → ε → Prop} {P I : σ → Prop}
  {s : σ} {es es' : List ε}

/-- The state a machine reaches by taking a list of events in order. -/
def run (step : σ → ε → σ) (s : σ) (es : List ε) : σ := es.foldl step s

@[simp] theorem run_nil (step : σ → ε → σ) (s : σ) : run step s [] = s := rfl

@[simp] theorem run_cons (step : σ → ε → σ) (s : σ) (e : ε) (es : List ε) :
    run step s (e :: es) = run step (step s e) es := rfl

theorem run_append (step : σ → ε → σ) (s : σ) (es es' : List ε) :
    run step s (es ++ es') = run step (run step s es) es' := List.foldl_append

@[simp] theorem run_concat (step : σ → ε → σ) (s : σ) (es : List ε) (e : ε) :
    run step s (es ++ [e]) = step (run step s es) e := List.foldl_concat _ _ _ _

/-- The states a run goes through, its first and its last included. -/
def states (step : σ → ε → σ) (s : σ) : List ε → List σ
  | [] => [s]
  | e :: es => s :: states step (step s e) es

/-- `P` holds of every state of the run, its first and its last included. -/
def Always (step : σ → ε → σ) (P : σ → Prop) (s : σ) : List ε → Prop
  | [] => P s
  | e :: es => P s ∧ Always step P (step s e) es

/-- Every step of the run meets `ok`, a condition on the state before the step and the event. -/
def StepsMeet (step : σ → ε → σ) (ok : σ → ε → Prop) (s : σ) : List ε → Prop
  | [] => True
  | e :: es => ok s e ∧ StepsMeet step ok (step s e) es

instance decidableStepsMeet [∀ s e, Decidable (ok s e)] :
    ∀ s es, Decidable (StepsMeet step ok s es)
  | _, [] => inferInstanceAs (Decidable True)
  | s, e :: es =>
    have := decidableStepsMeet (step s e) es
    inferInstanceAs (Decidable (ok s e ∧ StepsMeet step ok (step s e) es))

theorem always_iff_prefix : Always step P s es ↔ ∀ pre, pre <+: es → P (run step s pre) := by
  induction es generalizing s with
  | nil => simp [Always]
  | cons e es ih =>
    simp only [Always, ih, List.prefix_cons_iff]
    constructor
    · rintro ⟨hs, hes⟩ pre (rfl | ⟨pre, rfl, hp⟩)
      · exact hs
      · exact hes pre hp
    · intro h
      exact ⟨h [] (.inl rfl), fun pre hp => h _ (.inr ⟨pre, rfl, hp⟩)⟩

theorem stepsMeet_iff_prefix :
    StepsMeet step ok s es ↔ ∀ pre e, pre ++ [e] <+: es → ok (run step s pre) e := by
  induction es generalizing s with
  | nil => simp [StepsMeet]
  | cons e es ih =>
    simp only [StepsMeet, ih]
    constructor
    · rintro ⟨hs, hes⟩ pre f hp
      cases pre with
      | nil =>
        obtain ⟨rfl, _⟩ := List.cons_prefix_cons.1 hp
        exact hs
      | cons g pre =>
        obtain ⟨rfl, hp'⟩ := List.cons_prefix_cons.1 hp
        exact hes pre f hp'
    · intro h
      refine ⟨h [] e (by simp), fun pre f hp => ?_⟩
      exact h (e :: pre) f (List.cons_prefix_cons.2 ⟨rfl, hp⟩)

theorem stepsMeet_append :
    StepsMeet step ok s (es ++ es') ↔
      StepsMeet step ok s es ∧ StepsMeet step ok (run step s es) es' := by
  induction es generalizing s with
  | nil => simp [StepsMeet]
  | cons e es ih => simp only [List.cons_append, StepsMeet, ih, run_cons, and_assoc]

theorem stepsMeet_of_forall (h : ∀ e ∈ es, ∀ s, ok s e) : StepsMeet step ok s es := by
  induction es generalizing s with
  | nil => trivial
  | cons e es ih =>
    obtain ⟨he, hes⟩ := List.forall_mem_cons.1 h
    exact ⟨he s, ih hes⟩

theorem invariant_of_stepsMeet (hI : I s)
    (hs : ∀ s e, I s → ok s e → I (step s e)) (h : StepsMeet step ok s es) :
    I (run step s es) := by
  induction es generalizing s with
  | nil => exact hI
  | cons e es ih => exact ih (hs s e hI h.1) h.2

theorem invariant (hI : I s) (hs : ∀ s e, I s → I (step s e)) (es : List ε) :
    I (run step s es) := by
  induction es generalizing s with
  | nil => exact hI
  | cons e es ih => exact ih (hs s e hI)

/-- What each step appends for its event, a run appends in the order of the events. -/
theorem appended {α : Type} (out : σ → List α) {added : ε → α}
    (h : ∀ s e, out (step s e) = out s ++ [added e]) (s : σ) (es : List ε) :
    out (run step s es) = out s ++ es.map added := by
  induction es generalizing s with
  | nil => simp
  | cons e es ih =>
    rw [run_cons, ih, h, List.map_cons, List.append_assoc, List.singleton_append]

/-- Where a step from a good state ends well exactly when it meets the condition, the runs that
stay good are exactly the runs that meet it. -/
theorem always_iff_stepsMeet (hP : P s)
    (hs : ∀ s e, P s → (P (step s e) ↔ ok s e)) :
    Always step P s es ↔ StepsMeet step ok s es := by
  induction es generalizing s with
  | nil => exact iff_of_true hP trivial
  | cons e es ih =>
    simp only [Always, StepsMeet]
    constructor
    · rintro ⟨_, h⟩
      have hP' : P (step s e) := by
        cases es with
        | nil => exact h
        | cons => exact h.1
      exact ⟨(hs s e hP).1 hP', (ih hP').1 h⟩
    · rintro ⟨hok, h⟩
      have hP' := (hs s e hP).2 hok
      exact ⟨hP, (ih hP').2 h⟩

/-- A measure that loses at least `δ` at every state short of `P` brings a run to `P`. -/
theorem exists_first {M : Type} [AddCommGroup M] [LinearOrder M] [IsOrderedAddMonoid M]
    [Archimedean M] {x : Nat → σ} {μ : σ → M} {δ : M} (hδ : 0 < δ) (hμ : ∀ n, 0 ≤ μ (x n))
    (h : ∀ n, (∀ k ≤ n, ¬ P (x k)) → μ (x (n + 1)) + δ ≤ μ (x n)) :
    ∃ n, P (x n) ∧ ∀ k < n, ¬ P (x k) := by
  classical
  have hex : ∃ n, P (x n) := by
    by_contra! hnone
    have hloss : ∀ n : Nat, μ (x n) + n • δ ≤ μ (x 0) := by
      intro n
      induction n with
      | zero => simp
      | succ n ih =>
        have hstep := h n fun k _ => hnone k
        calc μ (x (n + 1)) + (n + 1) • δ = μ (x (n + 1)) + δ + n • δ := by
              rw [succ_nsmul', add_assoc]
          _ ≤ μ (x n) + n • δ := add_le_add_left hstep _
          _ ≤ μ (x 0) := ih
    obtain ⟨n, hn⟩ := Archimedean.arch (μ (x 0)) hδ
    have hlast : μ (x (n + 1)) + δ + n • δ ≤ n • δ := by
      rw [add_assoc, ← succ_nsmul']
      exact (hloss (n + 1)).trans hn
    have hneg : μ (x (n + 1)) + δ ≤ 0 := by
      simpa using hlast
    exact (add_pos_of_nonneg_of_pos (hμ (n + 1)) hδ).not_ge hneg
  exact ⟨Nat.find hex, Nat.find_spec hex, fun k hk => Nat.find_min hex hk⟩

end Runs
