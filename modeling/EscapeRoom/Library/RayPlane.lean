import Mathlib.Algebra.Module.LinearMap.Defs
import Mathlib.Algebra.Order.Field.Basic
import Mathlib.Tactic.FieldSimp

namespace RayPlane
set_option autoImplicit true

variable {K V : Type} [Field K] [AddCommGroup V] [Module K V] {ζ : V →ₗ[K] K} {c : K} {o p : V}

/-- How far along the line from `o` through `p` the height `ζ` is `c`. -/
def param (ζ : V →ₗ[K] K) (c : K) (o p : V) : K := (c - ζ o) / (ζ p - ζ o)

theorem height_on_line (s : K) : ζ (o + s • (p - o)) = ζ o + s * (ζ p - ζ o) := by
  rw [map_add, map_smul, map_sub, smul_eq_mul]

theorem height_param (h : ζ p - ζ o ≠ 0) : ζ (o + param ζ c o p • (p - o)) = c := by
  rw [height_on_line, param, div_mul_cancel₀ _ h, add_sub_cancel]

theorem param_eq (h : ζ p - ζ o ≠ 0) {s : K} (hs : ζ (o + s • (p - o)) = c) :
    param ζ c o p = s := by
  rw [param, ← hs, height_on_line, add_sub_cancel_left, mul_div_cancel_right₀ _ h]

/-- A line that descends from above the plane reaches it ahead of its origin. -/
theorem param_pos [LinearOrder K] [IsStrictOrderedRing K] (ho : c < ζ o) (hp : ζ p - ζ o < 0) :
    0 < param ζ c o p := div_pos_of_neg_of_neg (sub_neg.2 ho) hp

end RayPlane
