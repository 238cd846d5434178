import EscapeRoom.Library.RayPlane
import EscapeRoom.Pinhole
import EscapeRoom.RigidTransform

namespace EscapeRoom
set_option autoImplicit true
set_option linter.unusedSectionVars false

open Matrix

/-- How far the map height falls from the camera to the end of a ray. -/
def RigidTransform.drop (T : RigidTransform) (ray : Point ℝ) : ℝ := T.origin.z - (T.apply ray).z

/-- How far along a viewing ray its height in the map is `zPlane`. -/
noncomputable def RigidTransform.reach (T : RigidTransform) (zPlane : ℝ) (ray : Point ℝ) : ℝ :=
  RayPlane.param height zPlane T.origin.vec (T.apply ray).vec

/-- Where a viewing ray meets the plane. -/
noncomputable def RigidTransform.foot (T : RigidTransform) (zPlane : ℝ) (ray : Point ℝ) :
    Point ℝ :=
  .ofVec (T.origin.vec + T.reach zPlane ray • ((T.apply ray).vec - T.origin.vec))

section foot

variable {T : RigidTransform} {zPlane : ℝ} {ray : Point ℝ}

theorem height_sub_neg (hdrop : 0.000001 < T.drop ray) :
    height (T.apply ray).vec - height T.origin.vec < 0 := by
  have hfall : (T.apply ray).z - T.origin.z < 0 := by
    rw [RigidTransform.drop] at hdrop
    linarith
  exact hfall

theorem foot_z (hdrop : 0.000001 < T.drop ray) : (T.foot zPlane ray).z = zPlane :=
  RayPlane.height_param (height_sub_neg hdrop).ne

theorem inverse_foot (T : RigidTransform) (zPlane : ℝ) (ray : Point ℝ) :
    T.inverse (T.foot zPlane ray) = .ofVec (T.reach zPlane ray • ray.vec) := by
  rw [RigidTransform.foot, ← T.apply_smul, Point.ofVec_vec, T.inverse_apply]

theorem reach_pos (ho : zPlane < T.origin.z) (hdrop : 0.000001 < T.drop ray) :
    0 < T.reach zPlane ray := RayPlane.param_pos ho (height_sub_neg hdrop)

theorem foot_eq (hdrop : 0.000001 < T.drop ray) {q : Point ℝ} (hq : q.z = zPlane) {s : ℝ}
    (hray : T.inverse q = .ofVec (s • ray.vec)) : T.foot zPlane ray = q := by
  have hpoint : q.vec = T.origin.vec + s • ((T.apply ray).vec - T.origin.vec) := by
    rw [← T.apply_smul, ← hray, T.apply_inverse]
  have hreach : T.reach zPlane ray = s := by
    apply RayPlane.param_eq (height_sub_neg hdrop).ne
    rw [← hpoint]
    exact hq
  rw [RigidTransform.foot, hreach, ← hpoint, Point.ofVec_vec]

end foot

/-- `_floor` returns where the viewing ray meets the plane, and nothing for one that falls too
little. -/
theorem floor_eq (T : RigidTransform) (fov : ℝ) (d : Detection ℝ) (zPlane : ℝ) (w h : Nat) :
    floor fov d zPlane w h (some T.apply) =
      if T.drop (unitRay fov w h (d.cx, d.cy)) ≤ 0.000001 then none
      else some ((T.foot zPlane (unitRay fov w h (d.cx, d.cy))).x,
        (T.foot zPlane (unitRay fov w h (d.cx, d.cy))).y) := by
  have htest : (T.apply (unitRay fov w h (d.cx, d.cy))).z - T.origin.z ≥ -0.000001 ↔
      T.drop (unitRay fov w h (d.cx, d.cy)) ≤ 0.000001 := by
    rw [RigidTransform.drop, ge_iff_le, neg_le, neg_sub]
  by_cases hdrop : T.drop (unitRay fov w h (d.cx, d.cy)) ≤ 0.000001
  · rw [if_pos hdrop]
    exact if_pos (htest.2 hdrop)
  · rw [if_neg hdrop]
    exact if_neg (mt htest.1 hdrop)

/-- `_floor` inverts the projection of the camera whose pose in the map is `T`. -/
structure FloorInverts (T : RigidTransform) (fov zPlane : ℝ) (w h : Nat) : Prop where
  reprojects : ∀ d x y, floor fov d zPlane w h (some T.apply) = some (x, y) →
    0 < (T.inverse ⟨x, y, zPlane⟩).z ∧
      project fov w h (T.inverse ⟨x, y, zPlane⟩) = (d.cx, d.cy)
  finds : ∀ q : Point ℝ, q.z = zPlane → 0 < (T.inverse q).z →
    0.000001 < T.drop ⟨(T.inverse q).x / (T.inverse q).z, (T.inverse q).y / (T.inverse q).z, 1⟩ →
      ∀ d, (d.cx, d.cy) = project fov w h (T.inverse q) →
        floor fov d zPlane w h (some T.apply) = some (q.x, q.y)
  none_iff : ∀ d, floor fov d zPlane w h (some T.apply) = none ↔
    T.drop (unitRay fov w h (d.cx, d.cy)) ≤ 0.000001

section inversion

variable {T : RigidTransform} {fov zPlane : ℝ} {w h : Nat} {d : Detection ℝ}

theorem floor_eq_none : floor fov d zPlane w h (some T.apply) = none ↔
    T.drop (unitRay fov w h (d.cx, d.cy)) ≤ 0.000001 := by
  rw [floor_eq]
  constructor
  · intro hnone
    by_contra hdrop
    rw [if_neg hdrop] at hnone
    cases hnone
  · intro hdrop
    exact if_pos hdrop

theorem floor_reprojects (hf : 0 < fPix fov w h) (ho : zPlane < T.origin.z) {x y : ℝ}
    (hfloor : floor fov d zPlane w h (some T.apply) = some (x, y)) :
    0 < (T.inverse ⟨x, y, zPlane⟩).z ∧
      project fov w h (T.inverse ⟨x, y, zPlane⟩) = (d.cx, d.cy) := by
  have hdrop : 0.000001 < T.drop (unitRay fov w h (d.cx, d.cy)) := by
    by_contra hdrop
    rw [floor_eq_none.2 (not_lt.1 hdrop)] at hfloor
    cases hfloor
  have hreach := reach_pos ho hdrop
  rw [floor_eq, if_neg hdrop.not_ge, Option.some.injEq, Prod.mk.injEq] at hfloor
  have hpoint : (⟨x, y, zPlane⟩ : Point ℝ) = T.foot zPlane (unitRay fov w h (d.cx, d.cy)) := by
    have hz : (T.foot zPlane (unitRay fov w h (d.cx, d.cy))).z = zPlane := foot_z hdrop
    generalize T.foot zPlane (unitRay fov w h (d.cx, d.cy)) = q at hfloor hz
    obtain ⟨rfl, rfl⟩ := hfloor
    rw [← hz]
  rw [hpoint, inverse_foot]
  constructor
  · have hdepth : (Point.ofVec (T.reach zPlane (unitRay fov w h (d.cx, d.cy)) •
        (unitRay fov w h (d.cx, d.cy)).vec)).z =
          T.reach zPlane (unitRay fov w h (d.cx, d.cy)) * 1 := rfl
    rw [hdepth, mul_one]
    exact hreach
  · exact project_smul hf.ne' hreach.ne' _

theorem floor_finds (hf : 0 < fPix fov w h) {q : Point ℝ} (hq : q.z = zPlane)
    (hdepth : 0 < (T.inverse q).z)
    (hdrop : 0.000001 <
      T.drop ⟨(T.inverse q).x / (T.inverse q).z, (T.inverse q).y / (T.inverse q).z, 1⟩)
    (hpixel : (d.cx, d.cy) = project fov w h (T.inverse q)) :
    floor fov d zPlane w h (some T.apply) = some (q.x, q.y) := by
  have hray : T.inverse q = .ofVec ((T.inverse q).z • (unitRay fov w h (d.cx, d.cy)).vec) := by
    rw [hpixel, unitRay_project hf.ne']
    generalize T.inverse q = c at hdepth
    have hscale : ∀ a : ℝ, c.z * (a / c.z) = a := fun a => mul_div_cancel₀ a hdepth.ne'
    simp only [Point.ofVec, Point.vec, Pi.smul_apply, smul_eq_mul, cons_val_zero, cons_val_one,
      cons_val, hscale, mul_one]
  rw [← unitRay_project hf.ne', ← hpixel] at hdrop
  rw [floor_eq, if_neg hdrop.not_ge, foot_eq hdrop hq hray]

end inversion

/-- For every field of view, image size and rigid pose of a camera above the plane. -/
theorem floor_inverts (T : RigidTransform) {fov zPlane : ℝ} {w h : Nat} (hfov : 0 < fov)
    (hfov' : fov < Real.pi) (hw : 0 < w) (ho : zPlane < T.origin.z) :
    FloorInverts T fov zPlane w h := by
  have hf : 0 < fPix fov w h := fPix_pos hfov hfov' hw
  constructor
  · exact fun d x y => floor_reprojects hf ho
  · exact fun q hq hdepth hdrop d => floor_finds hf hq hdepth hdrop
  · exact fun d => floor_eq_none

/-- A camera one metre above the map's origin that looks straight down. -/
def overhead : RigidTransform where
  rotation := !![1, 0, 0; 0, -1, 0; 0, 0, -1]
  translation := ![0, 0, 1]
  rotation_mem := by
    refine mem_specialOrthogonalGroup_iff.2 ⟨(mem_orthogonalGroup_iff _ _).2 ?_, ?_⟩
    · ext i j
      fin_cases i <;> fin_cases j <;> simp [Matrix.mul_apply, Fin.sum_univ_three]
    · simp [Matrix.det_fin_three]

theorem floor_inverts_overhead : FloorInverts overhead (Real.pi / 2) 0 640 480 := by
  apply floor_inverts overhead
  · exact div_pos Real.pi_pos two_pos
  · exact half_lt_self Real.pi_pos
  · decide
  · simp [overhead, RigidTransform.origin, RigidTransform.apply, Point.ofVec, Point.vec]

end EscapeRoom
