import EscapeRoom.Pinhole

namespace EscapeRoom
set_option autoImplicit true
set_option linter.unusedSectionVars false

open Matrix

/-- The height in the image of an object that stands at `q`. -/
noncomputable def pixelHeight (fov heightM : ℝ) (w h : Nat) (q : Point ℝ) : ℝ :=
  fPix fov w h * heightM / q.z

/-- `found` is on the viewing ray of `q`, and off by no more than one part in `hPx`. -/
structure NearAlongRay (fov : ℝ) (w h hPx : Nat) (q found : Point ℝ) : Prop where
  ray : ∃ s : ℝ, 0 < s ∧ found = .ofVec (s • q.vec)
  pixel : project fov w h found = project fov w h q
  x : |found.x - q.x| ≤ 1 / hPx * |q.x|
  y : |found.y - q.y| ≤ 1 / hPx * |q.y|
  z : |found.z - q.z| ≤ 1 / hPx * |q.z|
  depth : |found.z - q.z| / q.z ≤ 1 / hPx

section depth

variable {fov heightM : ℝ} {w h : Nat} {q : Point ℝ}

theorem project_smul_point {s : ℝ} (hs : s ≠ 0) (q : Point ℝ) :
    project fov w h (.ofVec (s • q.vec)) = project fov w h q := by
  have hcancel : ∀ a : ℝ, s * a / (s * q.z) = a / q.z := fun a => mul_div_mul_left a q.z hs
  simp only [project, Point.ofVec, Point.vec, Pi.smul_apply, smul_eq_mul, cons_val_zero,
    cons_val_one, cons_val, hcancel]

/-- The returned point is the true one scaled by true over measured height. -/
theorem monoAt_project (hf : fPix fov w h ≠ 0) (hz : q.z ≠ 0) (hPx : ℝ) :
    monoAt fov (project fov w h q).1 (project fov w h q).2 hPx heightM w h =
      .ofVec ((pixelHeight fov heightM w h q / hPx) • q.vec) := by
  have hdepth : pixelHeight fov heightM w h q / hPx * q.z = heightM * fPix fov w h / hPx := by
    rw [pixelHeight, div_mul_eq_mul_div, div_mul_cancel₀ _ hz, mul_comm]
  have hcoord : ∀ a : ℝ, fPix fov w h * (a / q.z) / fPix fov w h *
      (heightM * fPix fov w h / hPx) = pixelHeight fov heightM w h q / hPx * a := by
    intro a
    rw [mul_div_cancel_left₀ _ hf, ← hdepth]
    field_simp
  simp only [monoAt, project, add_sub_cancel_right, hcoord, Point.ofVec, Point.vec, Pi.smul_apply,
    smul_eq_mul, cons_val_zero, cons_val_one, cons_val, hdepth]

theorem pixelHeight_pos (hf : 0 < fPix fov w h) (hheight : 0 < heightM) (hz : 0 < q.z) :
    0 < pixelHeight fov heightM w h q := div_pos (mul_pos hf hheight) hz

theorem abs_scale_sub_le {s ε : ℝ} (hs : |s - 1| ≤ ε) (a : ℝ) : |s * a - a| ≤ ε * |a| := by
  have hsub : s * a - a = (s - 1) * a := by ring
  rw [hsub, abs_mul]
  exact mul_le_mul_of_nonneg_right hs (abs_nonneg a)

theorem nearAlongRay_smul {s : ℝ} {hPx : Nat} (hs : 0 < s) (hnear : |s - 1| ≤ 1 / hPx)
    (hz : 0 < q.z) : NearAlongRay fov w h hPx q (.ofVec (s • q.vec)) where
  ray := ⟨s, hs, rfl⟩
  pixel := project_smul_point hs.ne' q
  x := abs_scale_sub_le hnear q.x
  y := abs_scale_sub_le hnear q.y
  z := abs_scale_sub_le hnear q.z
  depth := by
    have hdepth := abs_scale_sub_le hnear q.z
    rw [abs_of_pos hz] at hdepth
    exact (div_le_iff₀ hz).2 hdepth

end depth

/-- For every camera, object and point in front of the camera: the exact height in pixels gives
the point back, a whole number of pixels within one of it a point close by on the same ray. -/
theorem mono_inverts {fov heightM : ℝ} {w h : Nat} {q : Point ℝ} (hfov : 0 < fov)
    (hfov' : fov < Real.pi) (hw : 0 < w) (hheight : 0 < heightM) (hz : 0 < q.z) :
    monoAt fov (project fov w h q).1 (project fov w h q).2 (pixelHeight fov heightM w h q) heightM
        w h = q ∧
      ∀ d : Detection ℝ, (d.cx, d.cy) = project fov w h q → 0 < d.hPx →
        |d.hPx - pixelHeight fov heightM w h q| ≤ 1 →
          NearAlongRay fov w h d.hPx q (mono fov d heightM w h) := by
  have hf : 0 < fPix fov w h := fPix_pos hfov hfov' hw
  have hpx : 0 < pixelHeight fov heightM w h q := pixelHeight_pos hf hheight hz
  constructor
  · rw [monoAt_project hf.ne' hz.ne', div_self hpx.ne', one_smul, Point.ofVec_vec]
  · intro d hd hpos herr
    have hpos' : (0 : ℝ) < d.hPx := Nat.cast_pos.2 hpos
    have hnear : |pixelHeight fov heightM w h q / d.hPx - 1| ≤ 1 / d.hPx := by
      rw [div_sub_one hpos'.ne', abs_div, abs_of_pos hpos', abs_sub_comm]
      exact div_le_div_of_nonneg_right herr hpos'.le
    have hmono : mono fov d heightM w h =
        .ofVec ((pixelHeight fov heightM w h q / d.hPx) • q.vec) := by
      rw [← monoAt_project hf.ne' hz.ne', ← hd, mono_eq]
    rw [hmono]
    exact nearAlongRay_smul (div_pos hpx hpos') hnear hz

theorem mono_inverts_cube :
    monoAt (Real.pi / 2) (project (Real.pi / 2) 640 480 ⟨0.5, 0, 2⟩).1
        (project (Real.pi / 2) 640 480 ⟨0.5, 0, 2⟩).2
        (pixelHeight (Real.pi / 2) cubeTarget.heightM 640 480 ⟨0.5, 0, 2⟩) cubeTarget.heightM
        640 480 = ⟨0.5, 0, 2⟩ ∧
      ∀ d : Detection ℝ, (d.cx, d.cy) = project (Real.pi / 2) 640 480 ⟨0.5, 0, 2⟩ → 0 < d.hPx →
        |d.hPx - pixelHeight (Real.pi / 2) cubeTarget.heightM 640 480 ⟨0.5, 0, 2⟩| ≤ 1 →
          NearAlongRay (Real.pi / 2) 640 480 d.hPx ⟨0.5, 0, 2⟩
            (mono (Real.pi / 2) d cubeTarget.heightM 640 480) := by
  apply mono_inverts
  · exact div_pos Real.pi_pos two_pos
  · exact half_lt_self Real.pi_pos
  · decide
  · norm_num [cubeTarget]
  · exact two_pos

end EscapeRoom
