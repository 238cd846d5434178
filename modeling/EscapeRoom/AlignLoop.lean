import EscapeRoom.Release
import EscapeRoom.Velocity

namespace EscapeRoom
set_option autoImplicit true

open Planar

namespace Robot

/-- A tick's time under one command: along the heading, then the turn. -/
noncomputable def follow (r : Robot) (t : Twist ℝ) : Robot where
  x := r.x + t.linearX / 4 * Real.cos r.yaw
  y := r.y + t.linearX / 4 * Real.sin r.yaw
  yaw := r.yaw + t.angularZ / 4

/-- How much farther away than the carried cube a point of the map is. -/
noncomputable def excess (r : Robot) (q : ℝ × ℝ) : ℝ :=
  PyMath.hypot (Node.plateInBase r.x r.y r.yaw q.1 q.2).1
      (Node.plateInBase r.x r.y r.yaw q.1 q.2).2 -
    ((Params.default : Params ℝ).pickupEngageDist + Params.default.pickupLungeMargin)

variable (r : Robot) (q : ℝ × ℝ)

theorem excess_eq : r.excess q = ‖r.sees q‖ - 0.207 := by
  have hcarried : (Params.default : Params ℝ).pickupEngageDist + Params.default.pickupLungeMargin =
      0.207 := by norm_num [Params.default]
  rw [excess, hypot_eq, hcarried]
  rfl

theorem toPlane_follow (t : Twist ℝ) : toPlane ((r.follow t).x, (r.follow t).y) =
    toPlane (r.x, r.y) + (t.linearX / 4 : ℝ) * heading r.yaw := by
  apply Complex.ext
  · simp [toPlane, follow, heading]
  · simp [toPlane, follow, heading]

theorem sees_follow (t : Twist ℝ) : (r.follow t).sees q =
    heading (-(t.angularZ / 4)) * (r.sees q - (t.linearX / 4 : ℝ)) := by
  have hturned : heading (-(r.follow t).yaw) = heading (-(t.angularZ / 4)) * heading (-r.yaw) := by
    rw [heading_mul, follow]
    congr 1
    ring
  rw [sees_eq, sees_eq, toPlane_follow, hturned]
  linear_combination (-heading (-(t.angularZ / 4)) * (t.linearX / 4 : ℝ)) * heading_mul_neg r.yaw

end Robot

/-- The node in `DROP_ALIGN` and the robot it drives. -/
structure AlignLoop where
  node : Node ℝ
  robot : Robot

namespace AlignLoop

/-- One tick of `_drop_align`, and the time until the next one under the last command. -/
noncomputable def tick (w : AlignLoop) (i : TickIn ℝ) : AlignLoop where
  node := (w.node.dropAlign .default { i with mapTf := some w.robot.transform }).node
  robot := w.robot.follow ((lastTwist
    (w.node.dropAlign .default { i with mapTf := some w.robot.transform }).node.out).getD .zero)

noncomputable def after (w : AlignLoop) (ins : Nat → TickIn ℝ) : Nat → AlignLoop
  | 0 => w
  | n + 1 => (w.after ins n).tick (ins n)

end AlignLoop

theorem dropAlign_eq {s : Node ℝ} {q : ℝ × ℝ} (hplate : s.targets .plate = some q) (r : Robot)
    (i : TickIn ℝ) : s.dropAlign .default { i with mapTf := some r.transform } =
      if |r.bearing q| > 0.08 then .ok (s.drive .default 0 (1.5 * r.bearing q) true)
      else if |r.excess q| ≤ 0.03 then
        .ok { s.stop.transition .dropOpen with actionT := i.clock }.gripperOpen
      else .ok (s.drive .default (0.5 * r.excess q) (0.5 * r.bearing q) true) := by
  simp only [Node.dropAlign, r.getRobotPose_transform, hplate,
    plateInBase_congr (heading_arg_heading r.yaw)]
  rfl

/-- Smaller in size, and of the same sign. -/
def Shrinks (a a' : ℝ) : Prop := (0 < a' ∧ a' < a) ∨ (a < a' ∧ a' < 0)

theorem clamp_of_nonneg {x m : ℝ} (hm : 0 ≤ m) (hx : 0 ≤ x) : clamp x (-m) m = min m x := by
  apply max_eq_right
  exact (neg_nonpos.2 hm).trans (le_min hm hx)

theorem clamp_of_nonpos {x m : ℝ} (hm : 0 ≤ m) (hx : x ≤ 0) : clamp x (-m) m = max (-m) x := by
  rw [clamp, min_eq_right (hx.trans hm)]

theorem shrinks_turn {β : ℝ} (hβ : |β| > 0.08) :
    Shrinks β (β - clamp (1.5 * β) (-0.6) 0.6 / 4) ∧
      |β - clamp (1.5 * β) (-0.6) 0.6 / 4| + 0.003 ≤ |β| := by
  obtain hpos | hneg := le_total 0 β
  · rw [abs_of_nonneg hpos] at hβ
    rw [clamp_of_nonneg (by norm_num) (by positivity)]
    have hlow : 0.12 ≤ min 0.6 (1.5 * β) := le_min (by norm_num) (by linarith)
    have hhigh : min 0.6 (1.5 * β) ≤ 1.5 * β := min_le_right _ _
    have hrest : 0 < β - min 0.6 (1.5 * β) / 4 := by linarith
    refine ⟨.inl ⟨hrest, by linarith⟩, ?_⟩
    rw [abs_of_pos hrest, abs_of_nonneg hpos]
    linarith
  · rw [abs_of_nonpos hneg] at hβ
    rw [clamp_of_nonpos (by norm_num) (by linarith)]
    have hlow : 1.5 * β ≤ max (-0.6) (1.5 * β) := le_max_right _ _
    have hhigh : max (-0.6) (1.5 * β) ≤ -0.12 := max_le (by norm_num) (by linarith)
    have hrest : β - max (-0.6) (1.5 * β) / 4 < 0 := by linarith
    refine ⟨.inr ⟨by linarith, hrest⟩, ?_⟩
    rw [abs_of_neg hrest, abs_of_nonpos hneg]
    linarith

/-- The advance of one tick on a distance error. -/
noncomputable def advance (e : ℝ) : ℝ := clamp (0.5 * e) (-0.06) 0.06 / 4

theorem advance_of_pos {e : ℝ} (h : 0.03 < e) :
    0.00375 ≤ advance e ∧ advance e ≤ 0.015 ∧ advance e ≤ e / 8 := by
  have hlow : 0.015 ≤ min 0.06 (0.5 * e) := le_min (by norm_num) (by linarith)
  have hhigh : min 0.06 (0.5 * e) ≤ 0.5 * e := min_le_right _ _
  have hcap : min 0.06 (0.5 * e) ≤ 0.06 := min_le_left _ _
  rw [advance, clamp_of_nonneg (by norm_num) (by linarith)]
  exact ⟨by linarith, by linarith, by linarith⟩

theorem advance_of_neg {e : ℝ} (h : e < -0.03) :
    advance e ≤ -0.00375 ∧ e / 8 ≤ advance e := by
  have hlow : 0.5 * e ≤ max (-0.06) (0.5 * e) := le_max_right _ _
  have hhigh : max (-0.06) (0.5 * e) ≤ -0.015 := max_le (by norm_num) (by linarith)
  rw [advance, clamp_of_nonpos (by norm_num) (by linarith)]
  exact ⟨by linarith, by linarith⟩

theorem advance_short {ρ : ℝ} (hρ : 0 ≤ ρ) (he : ¬ |ρ - 0.207| ≤ 0.03) :
    10 * advance (ρ - 0.207) ≤ ρ ∧ (advance (ρ - 0.207) < 0 ∨ 0 < ρ) := by
  obtain hlt | hlt := lt_abs.1 (not_le.1 he)
  · obtain ⟨_, hcap, _⟩ := advance_of_pos hlt
    exact ⟨by linarith, .inr (by linarith)⟩
  · obtain ⟨hback, _⟩ := advance_of_neg (by linarith : ρ - 0.207 < -0.03)
    exact ⟨by linarith, .inl (by linarith)⟩

theorem norm_sub_le_of_ahead {z : ℂ} {d : ℝ} (hz : |z.arg| ≤ 0.08) (hd : 0 ≤ d)
    (hfar : 10 * d ≤ ‖z‖) : ‖z - d‖ ≤ ‖z‖ - 0.9 * d := by
  have hsq := norm_sub_ofReal_sq_le z hd
  have harg : z.arg ^ 2 ≤ 0.08 ^ 2 := sq_le_sq' (abs_le.1 hz).1 (abs_le.1 hz).2
  have hprod : 0 ≤ ‖z‖ * d := mul_nonneg (norm_nonneg z) hd
  have hmul : ‖z‖ * d * z.arg ^ 2 ≤ ‖z‖ * d * 0.08 ^ 2 := mul_le_mul_of_nonneg_left harg hprod
  have hdsq : 10 * d * d ≤ ‖z‖ * d := mul_le_mul_of_nonneg_right hfar hd
  apply abs_le_of_sq_le_sq' _ (by linarith) |>.2
  nlinarith

theorem le_norm_add_of_ahead {z : ℂ} {d : ℝ} (hz : |z.arg| ≤ 0.08) :
    0.99 * ‖z‖ + d ≤ ‖z + d‖ := by
  have hcos : 1 - z.arg ^ 2 / 2 ≤ Real.cos z.arg := Real.one_sub_sq_div_two_le_cos
  have harg : z.arg ^ 2 ≤ 0.08 ^ 2 := sq_le_sq' (abs_le.1 hz).1 (abs_le.1 hz).2
  have hre : ‖z‖ * Real.cos z.arg = z.re := Complex.norm_mul_cos_arg z
  have hlow : ‖z‖ * 0.99 ≤ ‖z‖ * Real.cos z.arg :=
    mul_le_mul_of_nonneg_left (by linarith) (norm_nonneg z)
  have hnorm := Complex.re_le_norm (z + d)
  rw [Complex.add_re, Complex.ofReal_re] at hnorm
  linarith

/-- The advance takes at least 0.001 off the distance error. -/
theorem shrinks_advance {z : ℂ} (hz : |z.arg| ≤ 0.08) (he : ¬ |‖z‖ - 0.207| ≤ 0.03) :
    Shrinks (‖z‖ - 0.207) (‖z - (advance (‖z‖ - 0.207) : ℝ)‖ - 0.207) ∧
      |‖z - (advance (‖z‖ - 0.207) : ℝ)‖ - 0.207| + 0.001 ≤ |‖z‖ - 0.207| := by
  have htriangle := abs_norm_sub_norm_le z (z - (advance (‖z‖ - 0.207) : ℝ))
  rw [sub_sub_cancel, Complex.norm_real, Real.norm_eq_abs, abs_le] at htriangle
  obtain hpos | hneg := le_total 0 (‖z‖ - 0.207)
  · rw [abs_of_nonneg hpos, not_le] at he
    obtain ⟨hlow, hcap, hhigh⟩ := advance_of_pos he
    have hcloser := norm_sub_le_of_ahead hz (by linarith) (by linarith : 10 * advance _ ≤ ‖z‖)
    rw [abs_of_nonneg (by linarith : 0 ≤ advance (‖z‖ - 0.207))] at htriangle
    have hrest : 0 < ‖z - (advance (‖z‖ - 0.207) : ℝ)‖ - 0.207 := by linarith
    refine ⟨.inl ⟨hrest, by linarith⟩, ?_⟩
    rw [abs_of_pos hrest, abs_of_nonneg hpos]
    linarith
  · rw [abs_of_nonpos hneg, not_le] at he
    obtain ⟨hlow, hhigh⟩ := advance_of_neg (by linarith : ‖z‖ - 0.207 < -0.03)
    have hfarther := le_norm_add_of_ahead (d := -advance (‖z‖ - 0.207)) hz
    rw [Complex.ofReal_neg, ← sub_eq_add_neg z] at hfarther
    rw [abs_of_neg (by linarith : advance (‖z‖ - 0.207) < 0)] at htriangle
    have hrest : ‖z - (advance (‖z‖ - 0.207) : ℝ)‖ - 0.207 < 0 := by linarith
    refine ⟨.inr ⟨by linarith, hrest⟩, ?_⟩
    rw [abs_of_neg hrest, abs_of_nonpos hneg]
    linarith

/-- The inequality behind the next lemma, for an angle of an eighth of the bearing. -/
theorem advance_inside {ρ d x : ℝ} (hρ : 0 ≤ ρ) (hd : 10 * d ≤ ρ) (hx : 0 ≤ x) (hx' : x ≤ 1 / 16) :
    |ρ * Real.sin (7 * x) + d * Real.sin x| * Real.cos (8 * x) ≤
      (ρ * Real.cos (7 * x) - d * Real.cos x) * Real.sin (8 * x) := by
  have hpi := Real.two_le_pi
  have hsin : 0 ≤ Real.sin x := Real.sin_nonneg_of_nonneg_of_le_pi hx (by linarith)
  have hsin7 : 0 ≤ Real.sin (7 * x) :=
    Real.sin_nonneg_of_nonneg_of_le_pi (by linarith) (by linarith)
  have hcos8 : 0 ≤ Real.cos (8 * x) := Real.cos_nonneg_of_mem_Icc ⟨by linarith, by linarith⟩
  have hone : Real.sin (8 * x) * Real.cos (7 * x) - Real.cos (8 * x) * Real.sin (7 * x) =
      Real.sin x := by
    rw [← Real.sin_sub]
    congr 1
    ring
  have habs : |ρ * Real.sin (7 * x) + d * Real.sin x| ≤
      ρ * Real.sin (7 * x) + |d| * Real.sin x := by
    apply (abs_add_le _ _).trans
    rw [abs_mul, abs_mul, abs_of_nonneg hρ, abs_of_nonneg hsin7, abs_of_nonneg hsin]
  apply (mul_le_mul_of_nonneg_right habs hcos8).trans
  obtain hneg | hpos := le_total d 0
  · have hseven : Real.sin (8 * x) * Real.cos x - Real.cos (8 * x) * Real.sin x =
        Real.sin (7 * x) := by
      rw [← Real.sin_sub]
      congr 1
      ring
    have hgain : 0 ≤ ρ * Real.sin x + (-d) * Real.sin (7 * x) := by
      have hd' : 0 ≤ -d := by linarith
      positivity
    rw [abs_of_nonpos hneg]
    linear_combination hgain - ρ * hone + d * hseven
  · have hnine : Real.sin (8 * x) * Real.cos x + Real.cos (8 * x) * Real.sin x =
        Real.sin (9 * x) := by
      rw [← Real.sin_add]
      congr 1
      ring
    have hgain : d * Real.sin (9 * x) ≤ ρ * Real.sin x := by
      have hsin9 : Real.sin (9 * x) ≤ 9 * x := Real.sin_le (by linarith)
      have hslope : 9 / 10 * x ≤ Real.sin x := by
        obtain rfl | hlt := hx.eq_or_lt
        · simp
        · have hcube := Real.sin_gt_sub_cube hlt
          have hsq : x ^ 2 ≤ (1 / 16) ^ 2 := pow_le_pow_left₀ hx hx' 2
          have hpow : x ^ 3 = x ^ 2 * x := by ring
          have hmul := mul_le_mul_of_nonneg_right hsq hx
          linarith
      calc d * Real.sin (9 * x) ≤ d * (9 * x) := mul_le_mul_of_nonneg_left hsin9 hpos
        _ = 10 * d * (9 / 10 * x) := by ring
        _ ≤ ρ * (9 / 10 * x) := mul_le_mul_of_nonneg_right hd (by linarith)
        _ ≤ ρ * Real.sin x := mul_le_mul_of_nonneg_left hslope hρ
    rw [abs_of_nonneg hpos]
    linear_combination hgain - ρ * hone + d * hnine

/-- Advancing by `d` and turning by an eighth of the bearing does not lose a point that is nearly
straight ahead, unless the advance is too long for its distance. -/
theorem abs_arg_advance_le {z : ℂ} {d : ℝ} (hz : |z.arg| ≤ 1 / 2) (hd : 10 * d ≤ ‖z‖)
    (hne : d < 0 ∨ 0 < ‖z‖) :
    |(heading (-(z.arg / 8)) * (z - d)).arg| ≤ |z.arg| := by
  generalize hy : z.arg / 8 = y
  have harg : z.arg = 8 * y := by linarith
  have hzre : ‖z‖ * Real.cos (8 * y) = z.re := by
    rw [← harg]
    exact Complex.norm_mul_cos_arg z
  have hzim : ‖z‖ * Real.sin (8 * y) = z.im := by
    rw [← harg]
    exact Complex.norm_mul_sin_arg z
  have hcos : Real.cos (7 * y) = Real.cos (8 * y) * Real.cos y + Real.sin (8 * y) * Real.sin y := by
    rw [← Real.cos_sub]
    congr 1
    ring
  have hsin : Real.sin (7 * y) = Real.sin (8 * y) * Real.cos y - Real.cos (8 * y) * Real.sin y := by
    rw [← Real.sin_sub]
    congr 1
    ring
  have hre : (heading (-y) * (z - d)).re = ‖z‖ * Real.cos (7 * y) - d * Real.cos y := by
    simp only [heading, Complex.mul_re, Complex.sub_re, Complex.sub_im, Complex.ofReal_re,
      Complex.ofReal_im, Real.cos_neg, Real.sin_neg]
    rw [hcos, ← hzre, ← hzim]
    ring
  have him : (heading (-y) * (z - d)).im = ‖z‖ * Real.sin (7 * y) + d * Real.sin y := by
    simp only [heading, Complex.mul_im, Complex.sub_re, Complex.sub_im, Complex.ofReal_re,
      Complex.ofReal_im, Real.cos_neg, Real.sin_neg]
    rw [hsin, ← hzre, ← hzim]
    ring
  have hsmall : |y| ≤ 1 / 16 := by
    rw [harg, abs_mul, abs_of_nonneg (by norm_num : (0 : ℝ) ≤ 8)] at hz
    linarith
  have hpi := Real.two_le_pi
  have hcos7 : 9 / 10 ≤ Real.cos (7 * y) := by
    have hcos := Real.one_sub_sq_div_two_le_cos (x := 7 * y)
    have hsq := sq_le_sq' (abs_le.1 hsmall).1 (abs_le.1 hsmall).2
    nlinarith
  rw [harg, abs_mul, abs_of_nonneg (by norm_num : (0 : ℝ) ≤ 8)]
  apply abs_arg_le
  · rw [hre]
    have hcos1 : 0 < Real.cos y := by
      have hy' := abs_le.1 hsmall
      exact Real.cos_pos_of_mem_Ioo ⟨by linarith [hy'.1], by linarith [hy'.2]⟩
    have hfar : ‖z‖ * (9 / 10) ≤ ‖z‖ * Real.cos (7 * y) :=
      mul_le_mul_of_nonneg_left hcos7 (norm_nonneg z)
    obtain hneg | hpos := lt_or_ge d 0
    · have hback := mul_pos (neg_pos.2 hneg) hcos1
      linarith [norm_nonneg z]
    · have hnorm := hne.resolve_left hpos.not_gt
      have hstep := mul_le_mul_of_nonneg_left (Real.cos_le_one y) hpos
      linarith
  · positivity
  · linarith
  · rw [hre, him]
    have hinside := advance_inside (norm_nonneg z) hd (abs_nonneg y) hsmall
    obtain hle | hle := le_total 0 y
    · rw [abs_of_nonneg hle] at hinside ⊢
      exact hinside
    · rw [abs_of_nonpos hle] at hinside ⊢
      simp only [mul_neg, Real.sin_neg, Real.cos_neg] at hinside ⊢
      rw [← neg_add, abs_neg] at hinside
      linarith

/-- The robot faces the plate and carries the cube over it: `_drop_align` hands over. -/
def Robot.Arrived (r : Robot) (q : ℝ × ℝ) : Prop :=
  |r.bearing q| ≤ (Params.default : Params ℝ).alignYawTol ∧ |r.excess q| ≤ 0.03

/-- A turning tick takes off bearing, a driving one distance to where the cube can be dropped. -/
def Robot.Approaches (q : ℝ × ℝ) (r r' : Robot) : Prop :=
  (|r.bearing q| > (Params.default : Params ℝ).alignYawTol →
    Shrinks (r.bearing q) (r'.bearing q)) ∧
  (|r.bearing q| ≤ (Params.default : Params ℝ).alignYawTol →
    Shrinks (r.excess q) (r'.excess q))

/-- What both kinds of tick bring down: neither makes the other's part larger. -/
noncomputable def Robot.toGo (q : ℝ × ℝ) (r : Robot) : ℝ := |r.bearing q| + |r.excess q|

theorem approaches_turn {q : ℝ × ℝ} {r r' : Robot} (h : |r.bearing q| > 0.08)
    (hr' : r' = r.follow (driveTwist .default 0 (1.5 * r.bearing q) true)) :
    r.Approaches q r' ∧ r'.toGo q + 0.001 ≤ r.toGo q := by
  obtain ⟨hshrinks, hless⟩ := shrinks_turn h
  generalize hφ : clamp (1.5 * r.bearing q) (-0.6) 0.6 / 4 = φ at hshrinks hless
  have hsees : r'.sees q = heading (-φ) * r.sees q := by
    have hstill : clamp (0 : ℝ) (-0.06) 0.06 = 0 := by norm_num [clamp]
    have hlinear : (driveTwist .default 0 (1.5 * r.bearing q) true).linearX = 0 := hstill
    have hangular : (driveTwist .default 0 (1.5 * r.bearing q) true).angularZ / 4 = φ := hφ
    rw [hr', Robot.sees_follow, hlinear, hangular, zero_div, Complex.ofReal_zero, sub_zero]
  have hbearing : r'.bearing q = r.bearing q - φ := by
    have hz : r.sees q ≠ 0 := by
      intro hzero
      rw [Robot.bearing_eq, hzero, Complex.arg_zero, abs_zero] at h
      linarith
    have hrange : r.bearing q - φ ∈ Set.Ioc (-Real.pi) Real.pi := by
      have hpi := Real.pi_pos
      have hlow := Complex.neg_pi_lt_arg (r.sees q)
      have hhigh := Complex.arg_le_pi (r.sees q)
      rw [← Robot.bearing_eq] at hlow hhigh
      obtain ⟨hrest, hlt⟩ | ⟨hlt, hrest⟩ := hshrinks
      · exact ⟨by linarith, by linarith⟩
      · exact ⟨by linarith, by linarith⟩
    rw [Robot.bearing_eq, hsees]
    exact arg_heading_mul hz hrange
  have hexcess : r'.excess q = r.excess q := by
    rw [Robot.excess_eq, Robot.excess_eq, hsees, norm_mul, norm_heading, one_mul]
  refine ⟨⟨fun _ => hbearing ▸ hshrinks, fun hsmall => (hsmall.not_gt h).elim⟩, ?_⟩
  rw [Robot.toGo, Robot.toGo, hbearing, hexcess]
  linarith

theorem approaches_drive {q : ℝ × ℝ} {r r' : Robot} (h : |r.bearing q| ≤ 0.08)
    (he : ¬ |r.excess q| ≤ 0.03)
    (hr' : r' = r.follow (driveTwist .default (0.5 * r.excess q) (0.5 * r.bearing q) true)) :
    r.Approaches q r' ∧ r'.toGo q + 0.001 ≤ r.toGo q := by
  have hz : |(r.sees q).arg| ≤ 0.08 := h
  have hexcess := r.excess_eq q
  rw [hexcess] at he
  obtain ⟨hshrinks, hless⟩ := shrinks_advance hz he
  obtain ⟨hfar, hne⟩ := advance_short (norm_nonneg (r.sees q)) he
  rw [← hexcess] at hshrinks hless hfar hne
  have hsees : r'.sees q =
      heading (-(r.bearing q / 8)) * (r.sees q - (advance (r.excess q) : ℝ)) := by
    -- facing the plate, neither clamp of the turn is reached
    have hturn : clamp (0.5 * r.bearing q) (-0.6) 0.6 = 0.5 * r.bearing q := by
      have hb := abs_le.1 h
      rw [clamp, min_eq_right (by linarith), max_eq_right (by linarith)]
    have hangular : (driveTwist .default (0.5 * r.excess q) (0.5 * r.bearing q) true).angularZ =
        0.5 * r.bearing q := hturn
    have hlinear : (driveTwist .default (0.5 * r.excess q) (0.5 * r.bearing q) true).linearX / 4 =
        advance (r.excess q) := rfl
    have heighth : 0.5 * r.bearing q / 4 = r.bearing q / 8 := by ring
    rw [hr', Robot.sees_follow, hlinear, hangular, heighth]
  have hbearing : |r'.bearing q| ≤ |r.bearing q| := by
    rw [Robot.bearing_eq, hsees]
    exact abs_arg_advance_le (hz.trans (by norm_num)) hfar hne
  have hexcess' : r'.excess q = ‖r.sees q - (advance (r.excess q) : ℝ)‖ - 0.207 := by
    rw [Robot.excess_eq, hsees, norm_mul, norm_heading, one_mul]
  refine ⟨⟨fun hlarge => (h.not_gt hlarge).elim, fun _ => hexcess' ▸ hshrinks⟩, ?_⟩
  rw [Robot.toGo, Robot.toGo, hexcess']
  linarith

namespace AlignLoop

variable {w : AlignLoop} {q : ℝ × ℝ}

theorem tick_arrived (hplate : w.node.targets .plate = some q) (h : w.robot.Arrived q)
    (i : TickIn ℝ) : (w.tick i).node.mode = .dropOpen := by
  have hb : ¬ |w.robot.bearing q| > 0.08 := h.1.not_gt
  rw [tick, dropAlign_eq hplate, if_neg hb, if_pos h.2]
  rfl

theorem tick_drive (hplate : w.node.targets .plate = some q) {linear angular : ℝ} {i : TickIn ℝ}
    (h : w.node.dropAlign .default { i with mapTf := some w.robot.transform } =
      .ok (w.node.drive .default linear angular true)) :
    (w.tick i).node.mode = w.node.mode ∧ (w.tick i).node.targets .plate = some q ∧
      (w.tick i).robot = w.robot.follow (driveTwist .default linear angular true) := by
  have hlast : lastTwist (w.node.drive .default linear angular true).out =
      some (driveTwist .default linear angular true) := lastTwist_append rfl
  rw [tick, h]
  refine ⟨rfl, hplate, ?_⟩
  rw [Outcome.ok, hlast]
  rfl

theorem tick_approaches (hplate : w.node.targets .plate = some q) (h : ¬ w.robot.Arrived q)
    (i : TickIn ℝ) : (w.tick i).node.mode = w.node.mode ∧
      (w.tick i).node.targets .plate = some q ∧ w.robot.Approaches q (w.tick i).robot ∧
        (w.tick i).robot.toGo q + 0.001 ≤ w.robot.toGo q := by
  by_cases hb : |w.robot.bearing q| > 0.08
  · have hdrive := dropAlign_eq hplate w.robot i
    rw [if_pos hb] at hdrive
    obtain ⟨hmode, htargets, hrobot⟩ := tick_drive hplate hdrive
    exact ⟨hmode, htargets, approaches_turn hb hrobot⟩
  · have he : ¬ |w.robot.excess q| ≤ 0.03 := fun he => h ⟨not_lt.1 hb, he⟩
    have hdrive := dropAlign_eq hplate w.robot i
    rw [if_neg hb, if_neg he] at hdrive
    obtain ⟨hmode, htargets, hrobot⟩ := tick_drive hplate hdrive
    exact ⟨hmode, htargets, approaches_drive (not_lt.1 hb) he hrobot⟩

theorem after_kept (ins : Nat → TickIn ℝ) (hm : w.node.mode = .dropAlign)
    (hplate : w.node.targets .plate = some q) {n : Nat}
    (h : ∀ k < n, ¬ (w.after ins k).robot.Arrived q) :
    (w.after ins n).node.mode = .dropAlign ∧ (w.after ins n).node.targets .plate = some q := by
  induction n with
  | zero => exact ⟨hm, hplate⟩
  | succ n ih =>
    obtain ⟨hmode, htargets⟩ := ih fun k hk => h k (hk.trans (Nat.lt_succ_self n))
    obtain ⟨hmode', htargets', _⟩ := tick_approaches htargets (h n (Nat.lt_succ_self n)) (ins n)
    exact ⟨hmode'.trans hmode, htargets'⟩

/-- From wherever the robot stands, `_drop_align` hands over after finitely many ticks. -/
theorem dropAlign_hands_over (ins : Nat → TickIn ℝ) (hm : w.node.mode = .dropAlign)
    (hplate : w.node.targets .plate = some q) :
    ∃ n, (w.after ins (n + 1)).node.mode = .dropOpen ∧
      (∀ k ≤ n, (w.after ins k).node.mode = .dropAlign) ∧
      ∀ k < n, (w.after ins k).robot.Approaches q (w.after ins (k + 1)).robot := by
  have hnonneg : ∀ n, 0 ≤ (w.after ins n).robot.toGo q := fun n =>
    add_nonneg (abs_nonneg _) (abs_nonneg _)
  obtain ⟨n, harrived, hbefore⟩ := Runs.exists_first (P := fun w : AlignLoop => w.robot.Arrived q)
    (x := w.after ins) (μ := fun w => w.robot.toGo q) (δ := 0.001) (by norm_num) hnonneg (by
      intro n hn
      obtain ⟨_, htargets⟩ := after_kept ins hm hplate fun k hk => hn k hk.le
      exact (tick_approaches htargets (hn n le_rfl) (ins n)).2.2.2)
  refine ⟨n, ?_, fun k hk => ?_, fun k hk => ?_⟩
  · exact tick_arrived (after_kept ins hm hplate hbefore).2 harrived (ins n)
  · exact (after_kept ins hm hplate fun j hj => hbefore j (hj.trans_le hk)).1
  · have hkept := after_kept ins hm hplate fun j hj => hbefore j (hj.trans hk)
    exact (tick_approaches hkept.2 (hbefore k hk) (ins k)).2.2.1

/-- The robot stands on the plate's centre. -/
noncomputable def onPlate : AlignLoop :=
  ⟨{ Node.init with targets := fun _ => some (0, 1), mode := .dropAlign }, ⟨0, 1, 0⟩⟩

theorem dropAlign_hands_over_onPlate :
    ∃ n, (onPlate.after (fun _ => tickAtOrigin) (n + 1)).node.mode = .dropOpen ∧
      (∀ k ≤ n, (onPlate.after (fun _ => tickAtOrigin) k).node.mode = .dropAlign) ∧
      ∀ k < n, (onPlate.after (fun _ => tickAtOrigin) k).robot.Approaches (0, 1)
        (onPlate.after (fun _ => tickAtOrigin) (k + 1)).robot :=
  dropAlign_hands_over (fun _ => tickAtOrigin) rfl rfl

end AlignLoop

end EscapeRoom
