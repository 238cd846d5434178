import EscapeRoom.Explorer
import EscapeRoom.Library.Planar
import EscapeRoom.RealMath

namespace EscapeRoom
set_option autoImplicit true

open Planar

def toPlane (q : ℝ × ℝ) : ℂ := ⟨q.1, q.2⟩

theorem toPlane_inj {q r : ℝ × ℝ} (h : toPlane q = toPlane r) : q = r := by
  rw [Complex.ext_iff] at h
  exact Prod.ext h.1 h.2

theorem hypot_eq (x y : ℝ) : PyMath.hypot x y = ‖(⟨x, y⟩ : ℂ)‖ := by
  rw [Complex.norm_eq_sqrt_sq_add_sq]
  rfl

theorem hypot_sub (q r : ℝ × ℝ) :
    PyMath.hypot (q.1 - r.1) (q.2 - r.2) = ‖toPlane q - toPlane r‖ := by
  rw [hypot_eq]
  rfl

theorem toPlane_plateInBase (x y yaw px py : ℝ) :
    toPlane (Node.plateInBase x y yaw px py) =
      heading (-yaw) * (toPlane (px, py) - toPlane (x, y)) := by
  apply Complex.ext
  · simp [toPlane, Node.plateInBase, heading, PyMath.cos, PyMath.sin]
  · simp [toPlane, Node.plateInBase, heading, PyMath.cos, PyMath.sin]
    ring

theorem plateInBase_congr {yaw yaw' : ℝ} (h : heading yaw = heading yaw') (x y px py : ℝ) :
    Node.plateInBase x y yaw px py = Node.plateInBase x y yaw' px py := by
  obtain ⟨hcos, hsin⟩ := heading_eq_iff.1 h
  simp only [Node.plateInBase, PyMath.cos, PyMath.sin, Real.cos_neg, Real.sin_neg, hcos, hsin]

/-- Where the robot stands on the map. -/
structure Robot where
  x : ℝ
  y : ℝ
  yaw : ℝ

namespace Robot

/-- What TF reports of it. -/
noncomputable def transform (r : Robot) : Transform ℝ :=
  ⟨r.x, r.y, 0, 0, Real.sin (r.yaw / 2), Real.cos (r.yaw / 2)⟩

/-- A point of the map in `base_link`. -/
noncomputable def sees (r : Robot) (q : ℝ × ℝ) : ℂ :=
  toPlane (Node.plateInBase r.x r.y r.yaw q.1 q.2)

/-- The bearing of a point of the map. -/
noncomputable def bearing (r : Robot) (q : ℝ × ℝ) : ℝ :=
  PyMath.atan2 (Node.plateInBase r.x r.y r.yaw q.1 q.2).2
    (Node.plateInBase r.x r.y r.yaw q.1 q.2).1

variable (r : Robot) (q : ℝ × ℝ)

theorem bearing_eq : r.bearing q = (r.sees q).arg := rfl

theorem sees_eq : r.sees q = heading (-r.yaw) * (toPlane q - toPlane (r.x, r.y)) :=
  toPlane_plateInBase r.x r.y r.yaw q.1 q.2

/-- The yaw that the quaternion decodes to has the robot's heading. -/
theorem getRobotPose_transform :
    getRobotPose (some r.transform) = some (r.x, r.y, (heading r.yaw).arg) := by
  have hsin : 2.0 * (Real.cos (r.yaw / 2) * Real.sin (r.yaw / 2) + 0 * 0) = Real.sin r.yaw := by
    have hdouble := Real.sin_two_mul (r.yaw / 2)
    rw [mul_div_cancel₀ r.yaw two_ne_zero] at hdouble
    norm_num
    linarith
  have hcos : 1.0 - 2.0 * (0 ^ 2 + Real.sin (r.yaw / 2) ^ 2) = Real.cos r.yaw := by
    have hdouble := Real.cos_two_mul (r.yaw / 2)
    rw [mul_div_cancel₀ r.yaw two_ne_zero, Real.cos_sq'] at hdouble
    norm_num
    linarith
  simp only [getRobotPose, Option.map_some, transform, hsin, hcos]
  rfl

end Robot

/-- What a tick is told when TF reports the robot at `r`. -/
noncomputable def TickIn.standing (i : TickIn ℝ) (r : Robot) : TickIn ℝ :=
  { i with mapTf := some r.transform }

/-- A robot at the map's origin, and nothing to report but that. -/
noncomputable def standingAtOrigin : TickIn ℝ :=
  TickIn.standing ⟨true, none, none, 0, none⟩ ⟨0, 0, 0⟩

end EscapeRoom
