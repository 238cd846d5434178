import Mathlib.Analysis.SpecialFunctions.Trigonometric.Basic
import Mathlib.LinearAlgebra.UnitaryGroup

namespace Rotations
set_option autoImplicit true

open Matrix

/-- Naming the axes of both frames anew keeps a rotation, unless one naming is of the other hand. -/
theorem submatrix_mem [Fintype n] [DecidableEq n] {M : Matrix n n ℝ} {σ τ : Equiv.Perm n}
    (h : M ∈ specialOrthogonalGroup n ℝ) (hsign : Equiv.Perm.sign σ = Equiv.Perm.sign τ) :
    M.submatrix σ τ ∈ specialOrthogonalGroup n ℝ := by
  obtain ⟨horth, hdet⟩ := mem_specialOrthogonalGroup_iff.1 h
  have hcolumns : Mᵀ * M = 1 := (mem_orthogonalGroup_iff' _ _).1 horth
  have hcolumns' : (M.submatrix σ τ)ᵀ * M.submatrix σ τ = 1 := by
    rw [transpose_submatrix, submatrix_mul_equiv, hcolumns, submatrix_one_equiv]
  have hdet' : (M.submatrix σ τ).det = 1 := by
    have hsplit : M.submatrix σ τ = (M.submatrix σ id).submatrix id τ := rfl
    rw [hsplit, det_permute', det_permute, hdet, hsign, mul_one, ← Int.cast_mul,
      Int.units_coe_mul_self, Int.cast_one]
  exact mem_specialOrthogonalGroup_iff.2 ⟨(mem_orthogonalGroup_iff' _ _).2 hcolumns', hdet'⟩

variable (θ : ℝ)

noncomputable def rotX : Matrix (Fin 3) (Fin 3) ℝ :=
  !![1, 0, 0; 0, Real.cos θ, -Real.sin θ; 0, Real.sin θ, Real.cos θ]

noncomputable def rotY : Matrix (Fin 3) (Fin 3) ℝ :=
  !![Real.cos θ, 0, Real.sin θ; 0, 1, 0; -Real.sin θ, 0, Real.cos θ]

noncomputable def rotZ : Matrix (Fin 3) (Fin 3) ℝ :=
  !![Real.cos θ, -Real.sin θ, 0; Real.sin θ, Real.cos θ, 0; 0, 0, 1]

theorem rotZ_mem : rotZ θ ∈ specialOrthogonalGroup (Fin 3) ℝ := by
  have hone := Real.cos_sq_add_sin_sq θ
  refine mem_specialOrthogonalGroup_iff.2 ⟨(mem_orthogonalGroup_iff' _ _).2 ?_, ?_⟩
  · ext i j
    fin_cases i <;> fin_cases j <;> simp [rotZ, mul_apply, Fin.sum_univ_three] <;> grind
  · simp only [rotZ, det_fin_three, of_apply, cons_val]
    linear_combination hone

/-- The axes, each taken for the next one. -/
def cycle : Equiv.Perm (Fin 3) := finRotate 3

theorem rotX_mem : rotX θ ∈ specialOrthogonalGroup (Fin 3) ℝ := by
  have hcycle : rotX θ = (rotZ θ).submatrix cycle.symm cycle.symm := by
    ext i j
    fin_cases i <;> fin_cases j <;> rfl
  rw [hcycle]
  exact submatrix_mem (rotZ_mem θ) rfl

theorem rotY_mem : rotY θ ∈ specialOrthogonalGroup (Fin 3) ℝ := by
  have hcycle : rotY θ = (rotZ θ).submatrix cycle cycle := by
    ext i j
    fin_cases i <;> fin_cases j <;> rfl
  rw [hcycle]
  exact submatrix_mem (rotZ_mem θ) rfl

@[simp] theorem rotX_zero : rotX 0 = 1 := by
  ext i j
  fin_cases i <;> fin_cases j <;> simp [rotX]

@[simp] theorem rotY_zero : rotY 0 = 1 := by
  ext i j
  fin_cases i <;> fin_cases j <;> simp [rotY]

@[simp] theorem rotZ_zero : rotZ 0 = 1 := by
  ext i j
  fin_cases i <;> fin_cases j <;> simp [rotZ]

end Rotations
