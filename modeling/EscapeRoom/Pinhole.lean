import Mathlib.LinearAlgebra.Matrix.ToLin
import EscapeRoom.Detector
import EscapeRoom.RealMath

namespace EscapeRoom
set_option autoImplicit true
set_option linter.unusedSectionVars false

open Matrix

def Point.vec (q : Point ℝ) : Fin 3 → ℝ := ![q.x, q.y, q.z]

def Point.ofVec (v : Fin 3 → ℝ) : Point ℝ := ⟨v 0, v 1, v 2⟩

@[simp] theorem Point.ofVec_vec (q : Point ℝ) : Point.ofVec q.vec = q := rfl

@[simp] theorem Point.vec_ofVec (v : Fin 3 → ℝ) : (Point.ofVec v).vec = v := by
  funext i
  fin_cases i <;> rfl

/-- The height of a point of the map. -/
def height : (Fin 3 → ℝ) →ₗ[ℝ] ℝ := LinearMap.proj 2

/-- The pinhole projection with the focal length of `_f_pix`. -/
noncomputable def project (fov : ℝ) (w h : Nat) (q : Point ℝ) : ℝ × ℝ :=
  (fPix fov w h * (q.x / q.z) + w / 2.0, fPix fov w h * (q.y / q.z) + h / 2.0)

/-- The point at unit depth on the viewing ray of a pixel. -/
noncomputable def unitRay (fov : ℝ) (w h : Nat) (pixel : ℝ × ℝ) : Point ℝ :=
  ⟨(pixel.1 - w / 2.0) / fPix fov w h, (pixel.2 - h / 2.0) / fPix fov w h, 1⟩

section focal

variable {fov : ℝ} {w h : Nat}

theorem fPix_pos (hfov : 0 < fov) (hfov' : fov < Real.pi) (hw : 0 < w) : 0 < fPix fov w h := by
  have htan : 0 < Real.tan (fov / 2) :=
    Real.tan_pos_of_pos_of_lt_pi_div_two (by linarith) (by linarith)
  have hmax : (0 : ℝ) < (max w h : Nat) := Nat.cast_pos.2 (lt_max_of_lt_left hw)
  have htwo : (2.0 : ℝ) = 2 := by norm_num
  rw [fPix, htwo]
  exact div_pos hmax (mul_pos two_pos htan)

theorem project_smul (hf : fPix fov w h ≠ 0) {s : ℝ} (hs : s ≠ 0) (pixel : ℝ × ℝ) :
    project fov w h (.ofVec (s • (unitRay fov w h pixel).vec)) = pixel := by
  have hcancel : ∀ a : ℝ, s * a / (s * 1) = a := by
    intro a
    rw [mul_one, mul_div_cancel_left₀ _ hs]
  simp only [project, Point.ofVec, Point.vec, unitRay, Pi.smul_apply, smul_eq_mul, cons_val_zero,
    cons_val_one, cons_val, hcancel, mul_div_cancel₀ _ hf, sub_add_cancel]

theorem unitRay_project (hf : fPix fov w h ≠ 0) (q : Point ℝ) :
    unitRay fov w h (project fov w h q) = ⟨q.x / q.z, q.y / q.z, 1⟩ := by
  rw [unitRay, project]
  simp only [add_sub_cancel_right, mul_div_cancel_left₀ _ hf]

end focal

end EscapeRoom
