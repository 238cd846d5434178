import Mathlib.LinearAlgebra.UnitaryGroup
import EscapeRoom.Pinhole

namespace EscapeRoom
set_option autoImplicit true
set_option linter.unusedSectionVars false

open Matrix

/-- A rotation followed by a translation, as TF describes the pose of a frame in another. -/
structure RigidTransform where
  rotation : Matrix (Fin 3) (Fin 3) ℝ
  translation : Fin 3 → ℝ
  rotation_mem : rotation ∈ specialOrthogonalGroup (Fin 3) ℝ

namespace RigidTransform

variable (T : RigidTransform)

/-- `do_transform_point`. -/
def apply (q : Point ℝ) : Point ℝ := .ofVec (T.rotation *ᵥ q.vec + T.translation)

/-- Back into the frame that `apply` leads out of. -/
def inverse (q : Point ℝ) : Point ℝ := .ofVec (T.rotationᵀ *ᵥ (q.vec - T.translation))

theorem transpose_mul : T.rotationᵀ * T.rotation = 1 :=
  (mem_orthogonalGroup_iff' _ _).1 (mem_specialOrthogonalGroup_iff.1 T.rotation_mem).1

theorem mul_transpose : T.rotation * T.rotationᵀ = 1 :=
  (mem_orthogonalGroup_iff _ _).1 (mem_specialOrthogonalGroup_iff.1 T.rotation_mem).1

theorem inverse_apply (q : Point ℝ) : T.inverse (T.apply q) = q := by
  rw [inverse, apply, Point.vec_ofVec, add_sub_cancel_right, mulVec_mulVec, transpose_mul,
    one_mulVec, Point.ofVec_vec]

theorem apply_inverse (q : Point ℝ) : T.apply (T.inverse q) = q := by
  rw [inverse, apply, Point.vec_ofVec, mulVec_mulVec, mul_transpose, one_mulVec, sub_add_cancel,
    Point.ofVec_vec]

/-- The origin of the transformed frame. -/
def origin : Point ℝ := T.apply ⟨0, 0, 0⟩

theorem vec_origin : T.origin.vec = T.translation := by
  have hzero : (⟨0, 0, 0⟩ : Point ℝ).vec = 0 := by
    funext i
    fin_cases i <;> rfl
  rw [origin, apply, Point.vec_ofVec, hzero, mulVec_zero, zero_add]

/-- Rays from the origin go over into rays from the new origin. -/
theorem apply_smul (s : ℝ) (ray : Point ℝ) : (T.apply (.ofVec (s • ray.vec))).vec =
    T.origin.vec + s • ((T.apply ray).vec - T.origin.vec) := by
  rw [vec_origin, apply, apply, Point.vec_ofVec, Point.vec_ofVec, Point.vec_ofVec, mulVec_smul,
    add_sub_cancel_right, add_comm]

end RigidTransform

end EscapeRoom
