import Mathlib.Analysis.SpecialFunctions.Complex.Arg
import Mathlib.Analysis.SpecialFunctions.Trigonometric.Bounds

namespace Planar
set_option autoImplicit true

/-- The unit vector in direction `θ`. -/
noncomputable def heading (θ : ℝ) : ℂ := ⟨Real.cos θ, Real.sin θ⟩

theorem heading_mul_neg (θ : ℝ) : heading θ * heading (-θ) = 1 := by
  have h := Real.cos_sq_add_sin_sq θ
  apply Complex.ext
  · simp only [heading, Complex.mul_re, Real.cos_neg, Real.sin_neg, Complex.one_re]
    linear_combination h
  · simp only [heading, Complex.mul_im, Real.cos_neg, Real.sin_neg, Complex.one_im]
    ring

theorem norm_heading (θ : ℝ) : ‖heading θ‖ = 1 := by
  have h : ‖heading θ‖ ^ 2 = 1 := by
    rw [Complex.sq_norm, Complex.normSq_apply, heading]
    linear_combination Real.cos_sq_add_sin_sq θ
  exact (pow_eq_one_iff_of_nonneg (norm_nonneg _) two_ne_zero).1 h

theorem norm_mul_heading_arg (z : ℂ) : (‖z‖ : ℂ) * heading z.arg = z := by
  apply Complex.ext
  · rw [Complex.re_ofReal_mul, heading, Complex.norm_mul_cos_arg]
  · rw [Complex.im_ofReal_mul, heading, Complex.norm_mul_sin_arg]

theorem heading_mul (θ φ : ℝ) : heading θ * heading φ = heading (θ + φ) := by
  apply Complex.ext
  · simp only [heading, Complex.mul_re, Real.cos_add]
  · simp only [heading, Complex.mul_im, Real.sin_add]
    ring

theorem heading_eq (θ : ℝ) : heading θ = Complex.cos θ + Complex.sin θ * Complex.I := by
  apply Complex.ext
  · simp only [heading, Complex.add_re, Complex.mul_re, Complex.cos_ofReal_re,
      Complex.sin_ofReal_im, Complex.I_re, Complex.I_im]
    ring
  · simp only [heading, Complex.add_im, Complex.mul_im, Complex.cos_ofReal_im,
      Complex.sin_ofReal_re, Complex.I_re, Complex.I_im]
    ring

theorem heading_arg_heading (θ : ℝ) : heading (heading θ).arg = heading θ := by
  have h := norm_mul_heading_arg (heading θ)
  rwa [norm_heading, Complex.ofReal_one, one_mul] at h

theorem arg_heading {θ : ℝ} (h : θ ∈ Set.Ioc (-Real.pi) Real.pi) : (heading θ).arg = θ := by
  rw [heading_eq]
  exact Complex.arg_cos_add_sin_mul_I h

theorem heading_eq_iff {θ φ : ℝ} :
    heading θ = heading φ ↔ Real.cos θ = Real.cos φ ∧ Real.sin θ = Real.sin φ := Complex.ext_iff

theorem heading_congr {θ φ : ℝ} (h : (θ : Real.Angle) = φ) : heading θ = heading φ := by
  apply Complex.ext
  · simp only [heading, ← Real.Angle.cos_coe, h]
  · simp only [heading, ← Real.Angle.sin_coe, h]

theorem arg_heading_coe (θ : ℝ) : ((heading θ).arg : Real.Angle) = θ := by
  have h := Complex.arg_cos_add_sin_mul_I_coe_angle θ
  rwa [Real.Angle.cos_coe, Real.Angle.sin_coe, Complex.ofReal_cos, Complex.ofReal_sin,
    ← heading_eq] at h

theorem arg_heading_mul {z : ℂ} {φ : ℝ} (hz : z ≠ 0)
    (h : z.arg + φ ∈ Set.Ioc (-Real.pi) Real.pi) : (heading φ * z).arg = z.arg + φ := by
  have hturn : heading φ * z = (‖z‖ : ℂ) * heading (z.arg + φ) := by
    calc heading φ * z = heading φ * ((‖z‖ : ℂ) * heading z.arg) := by rw [norm_mul_heading_arg]
      _ = (‖z‖ : ℂ) * heading (z.arg + φ) := by
        rw [← heading_mul]
        ring
  rw [hturn, heading_eq]
  exact Complex.arg_mul_cos_add_sin_mul_I (norm_pos_iff.2 hz) h

theorem abs_arg_le {z : ℂ} {α : ℝ} (hz : 0 < z.re) (hα : 0 ≤ α) (hα' : α ≤ Real.pi / 2)
    (h : |z.im| * Real.cos α ≤ z.re * Real.sin α) : |z.arg| ≤ α := by
  have hnorm : 0 < ‖z‖ := by
    apply norm_pos_iff.2
    intro hzero
    rw [hzero] at hz
    exact lt_irrefl _ hz
  have hrange := abs_lt.1 (Complex.abs_arg_lt_pi_div_two_iff.2 (.inl hz))
  have hcos : 0 ≤ Real.cos α := Real.cos_nonneg_of_mem_Icc ⟨by linarith, hα'⟩
  have hre : ‖z‖ * Real.cos z.arg = z.re := Complex.norm_mul_cos_arg z
  have him : ‖z‖ * Real.sin z.arg = z.im := Complex.norm_mul_sin_arg z
  have him' := mul_le_mul_of_nonneg_right (abs_le.1 (le_refl |z.im|)).1 hcos
  have him'' := mul_le_mul_of_nonneg_right (le_abs_self z.im) hcos
  apply abs_le.2
  constructor
  · by_contra! hlt
    have hpos : 0 < Real.sin (-α - z.arg) :=
      Real.sin_pos_of_pos_of_lt_pi (by linarith) (by linarith)
    have hsin : ‖z‖ * Real.sin (-α - z.arg) = -(z.re * Real.sin α) - z.im * Real.cos α := by
      rw [Real.sin_sub, Real.sin_neg, Real.cos_neg]
      linear_combination (-Real.sin α) * hre - Real.cos α * him
    linarith [mul_pos hnorm hpos]
  · by_contra! hlt
    have hpos : 0 < Real.sin (z.arg - α) := Real.sin_pos_of_pos_of_lt_pi (by linarith) (by linarith)
    have hsin : ‖z‖ * Real.sin (z.arg - α) = z.im * Real.cos α - z.re * Real.sin α := by
      rw [Real.sin_sub]
      linear_combination Real.cos α * him - Real.sin α * hre
    linarith [mul_pos hnorm hpos]

/-- The law of cosines, for a point and one on the positive real axis. -/
theorem norm_sub_ofReal_sq (z : ℂ) (d : ℝ) :
    ‖z - d‖ ^ 2 = (‖z‖ - d) ^ 2 + 2 * (‖z‖ * d) * (1 - Real.cos z.arg) := by
  have hre : ‖z‖ * Real.cos z.arg = z.re := Complex.norm_mul_cos_arg z
  have hz : ‖z‖ ^ 2 = z.re ^ 2 + z.im ^ 2 := by
    rw [Complex.sq_norm, Complex.normSq_apply]
    ring
  have hsub : ‖z - d‖ ^ 2 = (z.re - d) ^ 2 + z.im ^ 2 := by
    rw [Complex.sq_norm, Complex.normSq_apply, Complex.sub_re, Complex.sub_im, Complex.ofReal_re,
      Complex.ofReal_im]
    ring
  rw [hsub]
  linear_combination (2 * d) * hre - hz

/-- How far a point seen at distance `‖z‖` under a small angle is from the one straight ahead. -/
theorem norm_sub_ofReal_sq_le (z : ℂ) {d : ℝ} (hd : 0 ≤ d) :
    ‖z - d‖ ^ 2 ≤ (‖z‖ - d) ^ 2 + ‖z‖ * d * z.arg ^ 2 := by
  have hcos : 1 - z.arg ^ 2 / 2 ≤ Real.cos z.arg := Real.one_sub_sq_div_two_le_cos
  have hmul : 0 ≤ ‖z‖ * d := mul_nonneg (norm_nonneg z) hd
  rw [norm_sub_ofReal_sq]
  nlinarith

theorem norm_turned (o z w : ℂ) (θ : ℝ) :
    ‖heading (-θ) * (z - o) - w‖ = ‖z - (o + w * heading θ)‖ := by
  have hcancel := heading_mul_neg θ
  calc ‖heading (-θ) * (z - o) - w‖ = ‖heading θ * (heading (-θ) * (z - o) - w)‖ := by
        rw [norm_mul, norm_heading, one_mul]
    _ = ‖z - (o + w * heading θ)‖ := by
        congr 1
        linear_combination (z - o) * hcancel

/-- A rotation about the origin, then a translation. -/
structure Motion where
  angle : ℝ
  shift : ℂ

namespace Motion

variable (g : Motion)

noncomputable def apply (z : ℂ) : ℂ := heading g.angle * z + g.shift

theorem apply_sub (z w : ℂ) : g.apply z - g.apply w = heading g.angle * (z - w) := by
  simp only [apply]
  ring

theorem apply_sub_heading (z : ℂ) (d θ : ℝ) :
    g.apply (z - d * heading θ) = g.apply z - d * heading (θ + g.angle) := by
  rw [← heading_mul, apply, apply]
  ring

/-- What is seen from a frame that is moved along with it looks the same. -/
theorem seen_apply (o z : ℂ) (θ : ℝ) :
    heading (-(θ + g.angle)) * (g.apply z - g.apply o) = heading (-θ) * (z - o) := by
  have hturn : heading (-(θ + g.angle)) = heading (-θ) * heading (-g.angle) := by
    rw [heading_mul, neg_add]
  rw [apply_sub, hturn]
  linear_combination heading (-θ) * (z - o) * heading_mul_neg g.angle

theorem arg_apply_sub {o z : ℂ} (h : z ≠ o) :
    ((g.apply z - g.apply o).arg : Real.Angle) = (z - o).arg + g.angle := by
  have hturn : heading g.angle ≠ 0 := by
    rw [← norm_ne_zero_iff, norm_heading]
    exact one_ne_zero
  rw [apply_sub, Complex.arg_mul_coe_angle hturn (sub_ne_zero.2 h), arg_heading_coe, add_comm]

end Motion

/-- A walk in steps of at most `δ` whose earlier points stay within `D` of its start ends within
`D + δ` of it. -/
theorem last_le_of_chain {d : α → α → ℝ} (htriangle : ∀ a b c, d a c ≤ d a b + d b c)
    {start last : α} {xs : List α} {D δ : ℝ} (hstart : d start start ≤ D)
    (hxs : ∀ x ∈ xs, d x start ≤ D)
    (h : (start :: xs ++ [last]).IsChain fun a b => d b a ≤ δ) : d last start ≤ D + δ := by
  obtain ⟨x, hx⟩ : ∃ x, (start :: xs).getLast? = some x :=
    ⟨_, List.getLast?_eq_some_getLast (by simp)⟩
  have hstep : d last x ≤ δ := (List.isChain_append.1 h).2.2 x hx last rfl
  have hback : d x start ≤ D := by
    rcases List.mem_cons.1 (List.mem_of_getLast? hx) with rfl | hmem
    · exact hstart
    · exact hxs x hmem
  have hwhole := htriangle last x start
  linarith

end Planar
