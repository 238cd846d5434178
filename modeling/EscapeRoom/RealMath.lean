import Mathlib.Analysis.SpecialFunctions.Trigonometric.Bounds
import Mathlib.Analysis.SpecialFunctions.Complex.Arg
import EscapeRoom.PyMath

namespace EscapeRoom
set_option autoImplicit true

/-- Real arithmetic. -/
noncomputable instance : PyMath ℝ where
  hypot x y := √(x ^ 2 + y ^ 2)
  atan2 y x := Complex.arg ⟨x, y⟩
  cos := Real.cos
  sin := Real.sin
  tan := Real.tan

theorem hypot_zero_right {x : ℝ} (hx : 0 ≤ x) : PyMath.hypot x 0 = x := by
  have h : PyMath.hypot x 0 = √(x ^ 2) := by norm_num [PyMath.hypot]
  rw [h]
  exact Real.sqrt_sq hx

theorem hypot_self (x y : ℝ) : PyMath.hypot (x - x) (y - y) = (0 : ℝ) := by
  simp [PyMath.hypot]

theorem atan2_zero_left {x : ℝ} (hx : 0 ≤ x) : PyMath.atan2 0 x = (0 : ℝ) :=
  Complex.arg_ofReal_of_nonneg hx

end EscapeRoom
