import Mathlib.Algebra.BigOperators.Group.List.Basic
import Mathlib.Data.Int.Log
import Mathlib.Data.Rat.Floor
import Mathlib.Tactic.FieldSimp
import Mathlib.Tactic.Linarith
import Mathlib.Tactic.Ring

namespace Rounding
set_option autoImplicit true

/-- To the nearest integer, and from half way to the even one. -/
def toEven (x : ℚ) : ℤ :=
  if x - ⌊x⌋ < 1 / 2 then ⌊x⌋
  else if 1 / 2 < x - ⌊x⌋ then ⌊x⌋ + 1
  else if ⌊x⌋ % 2 = 0 then ⌊x⌋ else ⌊x⌋ + 1

theorem abs_toEven_sub_le (x : ℚ) : |(toEven x : ℚ) - x| ≤ 1 / 2 := by
  have hfloor := Int.floor_le x
  have hlt := Int.lt_floor_add_one x
  rw [toEven, abs_le]
  split
  · constructor <;> linarith
  split
  · push_cast
    constructor <;> linarith
  split
  · constructor <;> linarith
  · push_cast
    constructor <;> linarith

theorem toEven_le {x : ℚ} {k : ℤ} (h : x ≤ k) : toEven x ≤ k := by
  have hfloor := Int.floor_le x
  obtain hlt | rfl := h.lt_or_eq
  · have hk : ⌊x⌋ + 1 ≤ k := Int.floor_lt.2 hlt
    rw [toEven]
    split
    · omega
    split
    · omega
    split
    · omega
    · omega
  · rw [toEven, if_pos (by rw [Int.floor_intCast]; norm_num), Int.floor_intCast]

theorem toEven_nonpos {x : ℚ} (h : x ≤ 0) : toEven x ≤ 0 := toEven_le (by rwa [Int.cast_zero])

/-- The last place of the numbers of `p` binary digits around `x`. -/
def ulp (p : Nat) (x : ℚ) : ℚ := 2 ^ (Int.log 2 |x| + 1 - p)

/-- Rounding to `p` binary digits, with no bounds on the exponent. -/
def toDigits (p : Nat) (x : ℚ) : ℚ := toEven (x / ulp p x) * ulp p x

/-- The standard model of a rounding: it is off by at most a share of the exact value. -/
def Within (u : ℚ) (fl : ℚ → ℚ) : Prop := ∀ x, |fl x - x| ≤ u * |x|

theorem toDigits_within (p : Nat) : Within (2 ^ (-p : ℤ)) (toDigits p) := by
  intro x
  have hulp : 0 < ulp p x := zpow_pos (by norm_num) _
  have herr : |toDigits p x - x| ≤ 1 / 2 * ulp p x := by
    have hx : toDigits p x - x = (toEven (x / ulp p x) - x / ulp p x) * ulp p x := by
      rw [toDigits, sub_mul, div_mul_cancel₀ x hulp.ne']
    rw [hx, abs_mul, abs_of_pos hulp]
    exact mul_le_mul_of_nonneg_right (abs_toEven_sub_le _) hulp.le
  obtain rfl | hne := eq_or_ne x 0
  · simp [toDigits, toEven]
  · have hlog : (2 : ℚ) ^ Int.log 2 |x| ≤ |x| := Int.zpow_log_le_self one_lt_two (abs_pos.2 hne)
    have hhalf : 1 / 2 * ulp p x = 2 ^ (-p : ℤ) * 2 ^ Int.log 2 |x| := by
      rw [ulp, add_sub_right_comm, zpow_add_one₀ two_ne_zero, zpow_sub₀ two_ne_zero, zpow_neg]
      field_simp
    rw [hhalf] at herr
    exact herr.trans (mul_le_mul_of_nonneg_left hlog (zpow_pos two_pos _).le)

/-- The numbers of `p` digits stand on the grid of every number up to them. -/
theorem toDigits_on_ulp {p : Nat} (hp : 0 < p) {x y : ℚ} (hx : 0 < x) (h : x ≤ toDigits p y) :
    ∃ k : ℤ, toDigits p y = k * ulp p x := by
  have hulp : 0 < ulp p y := zpow_pos two_pos _
  have hy : 0 < y := by
    by_contra hy
    have hle : toEven (y / ulp p y) ≤ 0 :=
      toEven_nonpos (div_nonpos_of_nonpos_of_nonneg (not_lt.1 hy) hulp.le)
    have hneg : toDigits p y ≤ 0 :=
      mul_nonpos_of_nonpos_of_nonneg (by exact_mod_cast hle) hulp.le
    linarith
  obtain hlog | hlog := le_or_gt (Int.log 2 x) (Int.log 2 y)
  · obtain ⟨n, hn⟩ := Int.le.dest hlog
    refine ⟨toEven (y / ulp p y) * 2 ^ n, ?_⟩
    have hpow : ulp p y = 2 ^ n * ulp p x := by
      rw [ulp, ulp, abs_of_pos hx, abs_of_pos hy, ← zpow_natCast, ← zpow_add₀ two_ne_zero]
      congr 1
      omega
    rw [toDigits, hpow]
    push_cast
    ring
  · have hlt : y < 2 ^ (Int.log 2 y + 1) := Int.lt_zpow_succ_log_self one_lt_two y
    have hdigits : y / ulp p y ≤ ((2 ^ p : ℤ) : ℚ) := by
      rw [div_le_iff₀ hulp, ulp, abs_of_pos hy]
      push_cast
      rw [← zpow_natCast, ← zpow_add₀ two_ne_zero, add_sub_cancel]
      exact hlt.le
    have hpow : toDigits p y ≤ 2 ^ (Int.log 2 y + 1) := by
      have hle : (toEven (y / ulp p y) : ℚ) ≤ 2 ^ p := by exact_mod_cast toEven_le hdigits
      refine (mul_le_mul_of_nonneg_right hle hulp.le).trans_eq ?_
      rw [ulp, abs_of_pos hy, ← zpow_natCast, ← zpow_add₀ two_ne_zero, add_sub_cancel]
    have hself : (2 : ℚ) ^ Int.log 2 x ≤ x := Int.zpow_log_le_self one_lt_two hx
    have hup : (2 : ℚ) ^ (Int.log 2 y + 1) ≤ 2 ^ Int.log 2 x :=
      zpow_le_zpow_right₀ one_le_two (by omega)
    have hgrid : (2 : ℚ) ^ Int.log 2 x = ((2 ^ (p - 1) : ℤ) : ℚ) * ulp p x := by
      rw [ulp, abs_of_pos hx]
      push_cast
      rw [← zpow_natCast, ← zpow_add₀ two_ne_zero]
      congr 1
      omega
    exact ⟨2 ^ (p - 1), hgrid ▸ le_antisymm (hpow.trans hup) (hself.trans h)⟩

theorem toDigits_le {p : Nat} (hp : 0 < p) {x y : ℚ} (hx : 0 < x) (h : x ≤ toDigits p y) :
    toDigits p x ≤ toDigits p y := by
  have hulp : 0 < ulp p x := zpow_pos two_pos _
  obtain ⟨k, hk⟩ := toDigits_on_ulp hp hx h
  rw [hk] at h ⊢
  have hle : toEven (x / ulp p x) ≤ k := toEven_le ((div_le_iff₀ hulp).2 h)
  exact mul_le_mul_of_nonneg_right (by exact_mod_cast hle) hulp.le

section sums

variable {u : ℚ} {fl : ℚ → ℚ}

/-- How far a rounded sum of `n` summands may be off its exact value. -/
def drift (u : ℚ) (n : Nat) (exact : ℚ) : ℚ := ((1 + u) ^ n - 1) * exact

theorem drift_mono (hu : 0 ≤ u) {m n : Nat} (h : m ≤ n) {s t : ℚ} (hs : 0 ≤ s) (hst : s ≤ t) :
    drift u m s ≤ drift u n t := by
  have hone : 1 ≤ (1 + u) ^ n := one_le_pow₀ (by linarith)
  have hpow : (1 + u) ^ m ≤ (1 + u) ^ n := pow_le_pow_right₀ (by linarith) h
  exact mul_le_mul (by linarith) hst hs (by linarith)

theorem Within.add_near (h : Within u fl) (hu : 0 ≤ u) {s t x : ℚ} {n : Nat} (ht : 0 ≤ t)
    (hx : 0 ≤ x) (hnear : |s - t| ≤ drift u n t) :
    |fl (s + x) - (t + x)| ≤ drift u (n + 1) (t + x) := by
  have hround := h (s + x)
  have hone : 1 ≤ (1 + u) ^ n := one_le_pow₀ (by linarith)
  have hsize : |s + x| ≤ (1 + u) ^ n * (t + x) := by
    rw [drift, abs_le] at hnear
    have hgrown : x ≤ (1 + u) ^ n * x := le_mul_of_one_le_left hx hone
    rw [abs_le]
    constructor <;> nlinarith
  have herr := (mul_le_mul_of_nonneg_left hsize hu)
  have hsplit := abs_add_le (fl (s + x) - (s + x)) (s - t)
  have hsame : fl (s + x) - (s + x) + (s - t) = fl (s + x) - (t + x) := by ring
  rw [hsame] at hsplit
  have hgrow : drift u n t ≤ drift u n (t + x) := drift_mono hu le_rfl ht (by linarith)
  calc |fl (s + x) - (t + x)|
      ≤ u * ((1 + u) ^ n * (t + x)) + drift u n (t + x) := by linarith
    _ = drift u (n + 1) (t + x) := by
      rw [drift, drift, pow_succ]
      ring

end sums

end Rounding
