import EscapeRoom.Release

namespace EscapeRoom
set_option autoImplicit true

open Planar

/-- `_drop_align` hands over, with the robot at the pose it is told and the plate stored at `q`. -/
structure HandsOver (s : Node ℝ) (i : TickIn ℝ) (x y yaw : ℝ) (q : ℝ × ℝ) : Prop where
  pose : getRobotPose i.mapTf = some (x, y, yaw)
  plate : s.targets .plate = some q
  mode : s.mode = .dropAlign
  opens : (s.dropAlign .default i).node.mode = .dropOpen

/-- How far the carried key is from the stored plate. -/
noncomputable def keyError (x y yaw : ℝ) (q : ℝ × ℝ) : ℝ :=
  ‖toPlane q - toPlane (carriedKey .default x y yaw)‖

/-- The error with both tests at their limits. -/
noncomputable def cornerError : ℝ := √(0.03 ^ 2 + 2.0 * (0.237 * 0.207) * (1 - Real.cos 0.08))

theorem cornerError_eq :
    cornerError = √(0.03 ^ 2 + 2 * (0.237 * 0.207) * (1 - Real.cos 0.08)) := by
  have htwo : (2.0 : ℝ) = 2 := by norm_num
  rw [cornerError, htwo]

section handsOver

variable {s : Node ℝ} {i : TickIn ℝ} {x y yaw : ℝ} {q : ℝ × ℝ}

theorem HandsOver.tests (h : HandsOver s i x y yaw q) :
    |(toPlane (Node.plateInBase x y yaw q.1 q.2)).arg| ≤ 0.08 ∧
      |‖toPlane (Node.plateInBase x y yaw q.1 q.2)‖ - 0.207| ≤ 0.03 := by
  obtain ⟨_, _, _, _, _, _, hpose, hplate, htests⟩ :=
    (tickStep_dropAlign .default i s h.mode).release h.mode h.opens
  cases h.pose.symm.trans hpose
  cases h.plate.symm.trans hplate
  exact dropTests_iff.1 htests

theorem handsOver_of_tests (hpose : getRobotPose i.mapTf = some (x, y, yaw))
    (hplate : s.targets .plate = some q) (hm : s.mode = .dropAlign)
    (hb : |(toPlane (Node.plateInBase x y yaw q.1 q.2)).arg| ≤ 0.08)
    (he : |‖toPlane (Node.plateInBase x y yaw q.1 q.2)‖ - 0.207| ≤ 0.03) :
    HandsOver s i x y yaw q := by
  obtain ⟨hb, he⟩ := dropTests_iff.2 ⟨hb, he⟩
  refine ⟨hpose, hplate, hm, ?_⟩
  simp only [Node.dropAlign, hpose, hplate]
  rw [if_neg hb.not_gt, if_pos he]
  rfl

theorem keyError_sq (x y yaw : ℝ) (q : ℝ × ℝ) : keyError x y yaw q ^ 2 =
    (‖toPlane (Node.plateInBase x y yaw q.1 q.2)‖ - 0.207) ^ 2 +
      2 * (‖toPlane (Node.plateInBase x y yaw q.1 q.2)‖ * 0.207) *
        (1 - Real.cos (toPlane (Node.plateInBase x y yaw q.1 q.2)).arg) := by
  rw [keyError, norm_sub_carriedKey, norm_sub_ofReal_sq]

/-- Of all points that pass both tests those at the limits are the farthest off. -/
theorem HandsOver.keyError_le (h : HandsOver s i x y yaw q) :
    keyError x y yaw q ≤ cornerError := by
  obtain ⟨hb, he⟩ := h.tests
  rw [cornerError_eq]
  apply Real.le_sqrt_of_sq_le
  rw [keyError_sq]
  generalize toPlane (Node.plateInBase x y yaw q.1 q.2) = b at hb he
  have hrange : ‖b‖ ≤ 0.237 := by linarith [(abs_le.1 he).2]
  have herr : (‖b‖ - 0.207) ^ 2 ≤ 0.03 ^ 2 := sq_le_sq' (abs_le.1 he).1 (abs_le.1 he).2
  have hcos : Real.cos 0.08 ≤ Real.cos b.arg := by
    rw [← Real.cos_abs b.arg]
    apply Real.cos_le_cos_of_nonneg_of_le_pi (abs_nonneg _) _ hb
    linarith [Real.two_le_pi]
  have hone : 0 ≤ 1 - Real.cos b.arg := sub_nonneg.2 (Real.cos_le_one _)
  have hmul : 2 * (‖b‖ * 0.207) * (1 - Real.cos b.arg) ≤
      2 * (0.237 * 0.207) * (1 - Real.cos 0.08) := by gcongr
  linarith

end handsOver

theorem cornerError_lt : cornerError < 0.035 := by
  have hcos : 1 - (0.08 : ℝ) ^ 2 / 2 ≤ Real.cos 0.08 := Real.one_sub_sq_div_two_le_cos
  rw [cornerError_eq]
  apply (Real.sqrt_lt' (by norm_num)).2
  linarith

theorem lt_cornerError : 0.03 < cornerError := by
  have hcos : Real.cos 0.08 < Real.cos 0 :=
    Real.cos_lt_cos_of_nonneg_of_le_pi le_rfl (by linarith [Real.two_le_pi]) (by norm_num)
  rw [Real.cos_zero] at hcos
  rw [cornerError_eq]
  apply Real.lt_sqrt_of_sq_lt
  linarith

/-- Seen from the origin, as far and as far to the left as both tests allow. -/
noncomputable def cornerPlate : ℝ × ℝ := (0.237 * Real.cos 0.08, 0.237 * Real.sin 0.08)

noncomputable def atCorner : Node ℝ :=
  { Node.init with targets := fun _ => some cornerPlate, mode := .dropAlign }

theorem cornerPlate_seen : toPlane (Node.plateInBase 0 0 0 cornerPlate.1 cornerPlate.2) =
    (0.237 : ℝ) * heading 0.08 := by
  apply Complex.ext
  · simp [toPlane, Node.plateInBase, cornerPlate, heading, PyMath.cos, PyMath.sin]
  · simp [toPlane, Node.plateInBase, cornerPlate, heading, PyMath.cos, PyMath.sin]

theorem cornerPlate_arg :
    (toPlane (Node.plateInBase 0 0 0 cornerPlate.1 cornerPlate.2)).arg = 0.08 := by
  have hpi := Real.two_le_pi
  rw [cornerPlate_seen, Complex.arg_real_mul _ (by norm_num)]
  exact arg_heading ⟨by linarith, by linarith⟩

theorem cornerPlate_norm :
    ‖toPlane (Node.plateInBase 0 0 0 cornerPlate.1 cornerPlate.2)‖ = 0.237 := by
  rw [cornerPlate_seen, norm_mul, norm_heading, mul_one, Complex.norm_real]
  exact abs_of_nonneg (by norm_num)

theorem pose_standingAtOrigin : getRobotPose standingAtOrigin.mapTf = some (0, 0, 0) := by
  have hzero : (heading 0).arg = 0 := arg_heading ⟨neg_neg_of_pos Real.pi_pos, Real.pi_pos.le⟩
  have hpose := (Robot.mk 0 0 0).getRobotPose_transform
  rwa [hzero] at hpose

theorem handsOver_corner : HandsOver atCorner standingAtOrigin 0 0 0 cornerPlate := by
  apply handsOver_of_tests pose_standingAtOrigin rfl rfl
  · rw [cornerPlate_arg, abs_of_nonneg (by norm_num)]
  · rw [cornerPlate_norm]
    norm_num

theorem keyError_corner : keyError 0 0 0 cornerPlate = cornerError := by
  have hsq := keyError_sq 0 0 0 cornerPlate
  rw [cornerPlate_arg, cornerPlate_norm] at hsq
  have hlimit : (0.237 - 0.207 : ℝ) = 0.03 := by norm_num
  rw [hlimit] at hsq
  rw [cornerError_eq, ← hsq]
  exact (Real.sqrt_sq (norm_nonneg _)).symm

/-- At a hand-over the key is within `cornerError`, and no smaller bound will do. -/
theorem drop_accuracy :
    (∀ s i x y yaw q, HandsOver s i x y yaw q → keyError x y yaw q ≤ cornerError) ∧
      (∃ s i x y yaw q, HandsOver s i x y yaw q ∧ keyError x y yaw q = cornerError) ∧
        cornerError < 0.035 :=
  ⟨fun _ _ _ _ _ _ h => h.keyError_le, ⟨_, _, _, _, _, _, handsOver_corner, keyError_corner⟩,
    cornerError_lt⟩

/-- The corner of both tests is farther than 0.03 from where the key is. -/
theorem not_drop_accuracy : ¬ ∀ s i x y yaw q, HandsOver s i x y yaw q →
    keyError x y yaw q ≤ 0.03 := by
  intro h
  have hcorner := h _ _ _ _ _ _ handsOver_corner
  rw [keyError_corner] at hcorner
  exact hcorner.not_gt lt_cornerError

end EscapeRoom
