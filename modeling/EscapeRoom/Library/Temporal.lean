import Mathlib.Algebra.Order.Archimedean.Basic

namespace Temporal
set_option autoImplicit true

variable {σ : Type} {x : Nat → σ} {P Q S : σ → Prop}

/-- From every state of the behaviour that meets `P` one that meets `Q` is reached. -/
def LeadsTo (x : Nat → σ) (P Q : σ → Prop) : Prop := ∀ n, P (x n) → ∃ m, n ≤ m ∧ Q (x m)

theorem LeadsTo.trans (h : LeadsTo x P Q) (h' : LeadsTo x Q S) : LeadsTo x P S := by
  intro n hn
  obtain ⟨m, hnm, hm⟩ := h n hn
  obtain ⟨k, hmk, hk⟩ := h' m hm
  exact ⟨k, hnm.trans hmk, hk⟩

/-- A phase that ends well whenever it ends is left once `Go`, which ends it, is bound to come. -/
theorem LeadsTo.of_progress (Go : Nat → Prop) (hstep : ∀ n, P (x n) → P (x (n + 1)) ∨ Q (x (n + 1)))
    (hgo : ∀ n, P (x n) → Go n → Q (x (n + 1)))
    (hfair : ∀ n, P (x n) → ∃ m, n ≤ m ∧ Go m) : LeadsTo x P Q := by
  intro n hn
  by_contra! hnone
  have hkept : ∀ k, n ≤ k → P (x k) := by
    intro k hnk
    induction k, hnk using Nat.le_induction with
    | base => exact hn
    | succ k hnk ih => exact (hstep k ih).resolve_right (hnone (k + 1) (Nat.le_succ_of_le hnk))
  obtain ⟨m, hnm, hm⟩ := hfair n hn
  exact hnone (m + 1) (Nat.le_succ_of_le hnm) (hgo m (hkept m hnm) hm)

/-- A phase that waits for `Go`, which is bound to come. -/
theorem LeadsTo.of_wait (Go : Nat → Prop) (hwait : ∀ n, P (x n) → ¬ Go n → P (x (n + 1)))
    (hgo : ∀ n, P (x n) → Go n → Q (x (n + 1)))
    (hfair : ∀ n, P (x n) → ∃ m, n ≤ m ∧ Go m) : LeadsTo x P Q := by
  refine .of_progress Go (fun n hn => ?_) hgo hfair
  by_cases hn' : Go n
  · exact .inr (hgo n hn hn')
  · exact .inl (hwait n hn hn')

/-- A phase whose every step ends it or takes at least `δ` off a rank is left. -/
theorem LeadsTo.of_rank {M : Type} [AddCommGroup M] [LinearOrder M] [IsOrderedAddMonoid M]
    [Archimedean M] (μ : σ → M) {δ : M} (hδ : 0 < δ) (hμ : ∀ n, P (x n) → 0 ≤ μ (x n))
    (h : ∀ n, P (x n) → Q (x (n + 1)) ∨ (P (x (n + 1)) ∧ μ (x (n + 1)) + δ ≤ μ (x n))) :
    LeadsTo x P Q := by
  intro n hn
  by_contra! hnone
  have hloss : ∀ k : Nat, P (x (n + k)) ∧ μ (x (n + k)) + k • δ ≤ μ (x n) := by
    intro k
    induction k with
    | zero => simp [hn]
    | succ k ih =>
      obtain hq | ⟨hp, hless⟩ := h (n + k) ih.1
      · exact absurd hq (hnone _ (Nat.le_add_right n (k + 1)))
      · refine ⟨hp, ?_⟩
        calc μ (x (n + k + 1)) + (k + 1) • δ = μ (x (n + k + 1)) + δ + k • δ := by
              rw [succ_nsmul', ← add_assoc (μ _)]
          _ ≤ μ (x (n + k)) + k • δ := add_le_add_left hless _
          _ ≤ μ (x n) := ih.2
  obtain ⟨k, hk⟩ := Archimedean.arch (μ (x n)) hδ
  obtain ⟨hp, hlast⟩ := hloss (k + 1)
  have hneg : μ (x (n + (k + 1))) + δ + k • δ ≤ k • δ := by
    rw [add_assoc, ← succ_nsmul']
    exact hlast.trans hk
  have hlow : μ (x (n + (k + 1))) + δ ≤ 0 := by
    simpa using hneg
  exact (add_pos_of_nonneg_of_pos (hμ _ hp) hδ).not_ge hlow

/-- What a phase leads to is reached straight from it, if nothing else comes after the phase. -/
theorem LeadsTo.straight {n : Nat} (h : LeadsTo x P Q) (hn : P (x n))
    (hnext : ∀ m, P (x m) → P (x (m + 1)) ∨ Q (x (m + 1))) :
    ∃ m, n ≤ m ∧ Q (x m) ∧ ∀ k, n ≤ k → k < m → P (x k) := by
  classical
  have hex := h n hn
  obtain ⟨hnm, hm⟩ := Nat.find_spec hex
  refine ⟨Nat.find hex, hnm, hm, ?_⟩
  intro k hnk
  induction k, hnk using Nat.le_induction with
  | base => exact fun _ => hn
  | succ k hnk ih =>
    intro hk
    obtain hp | hq := hnext k (ih (Nat.lt_of_succ_lt hk))
    · exact hp
    · exact absurd ⟨Nat.le_succ_of_le hnk, hq⟩ (Nat.find_min hex hk)

end Temporal
