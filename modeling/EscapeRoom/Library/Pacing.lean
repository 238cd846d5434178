import EscapeRoom.Library.Rounding

namespace Pacing
set_option autoImplicit true

open Rounding

variable {u i b d t dt : ℚ} {fl : ℚ → ℚ} {fuel n steps : Nat}

/-- A timer fires once for every interval its deadline is overdue, which puts that off. -/
def catchUp (fl : ℚ → ℚ) (i : ℚ) : Nat → ℚ → Nat × ℚ
  | 0, d => (0, d)
  | fuel + 1, d =>
    if d ≤ 0 then
      let due := catchUp fl i fuel (fl (d + i))
      (due.1 + 1, due.2)
    else (0, d)

/-- What the intervals and the rounding are to each other: none of the deadlines down to `-b` is so
long ago that an interval more would not count. -/
structure Countable (u i b : ℚ) (fl : ℚ → ℚ) : Prop where
  within : Within u fl
  passes_none : ∀ x y, 0 < x → x ≤ fl y → fl x ≤ fl y
  nonneg : 0 ≤ u
  small : u ≤ 1 / 2
  interval : 0 < i
  counts : u * b ≤ i / 2

/-- One interval more is at least half of one, and misses a whole one by little. -/
theorem Countable.later (h : Countable u i b fl) (hlow : -b ≤ d) (hd : d ≤ 0) :
    d + i / 2 ≤ fl (d + i) ∧ fl (d + i) ≤ (1 + u) * i ∧ |fl (d + i) - (d + i)| ≤ u * (b + i) := by
  obtain ⟨hwithin, -, hu, hsmall, hi, hcounts⟩ := h
  have hround := hwithin (d + i)
  have hui : 0 ≤ u * i := mul_nonneg hu hi.le
  have hb : 0 ≤ b := by linarith
  have hub : 0 ≤ u * b := mul_nonneg hu hb
  have hud : u * d ≤ 0 := mul_nonpos_of_nonneg_of_nonpos hu hd
  have hlow' : u * -b ≤ u * d := mul_le_mul_of_nonneg_left hlow hu
  obtain hneg | hpos := le_total (d + i) 0
  · rw [abs_of_nonpos hneg] at hround
    have hbounds := abs_le.1 hround
    refine ⟨by linarith, by linarith, hround.trans ?_⟩
    linarith
  · rw [abs_of_nonneg hpos] at hround
    have hbounds := abs_le.1 hround
    have hhalf : u * i ≤ i / 2 := by
      have := mul_le_mul_of_nonneg_right hsmall hi.le
      linarith
    refine ⟨by linarith, by linarith, hround.trans ?_⟩
    linarith

/-- A number that the rounding gives. -/
def Rounded (fl : ℚ → ℚ) (d : ℚ) : Prop := ∃ x, fl x = d

theorem catchUp_rounded (i : ℚ) (h : Rounded fl d) : Rounded fl (catchUp fl i fuel d).2 := by
  induction fuel generalizing d with
  | zero => exact h
  | succ fuel ih =>
    rw [catchUp]
    split
    · exact ih ⟨_, rfl⟩
    · exact h

theorem catchUp_spec (h : Countable u i b fl) (hlow : -b ≤ d) (hd : d ≤ (1 + u) * i)
    (hfuel : -d < fuel * (i / 2)) :
    0 < (catchUp fl i fuel d).2 ∧ (catchUp fl i fuel d).2 ≤ (1 + u) * i ∧
      |(catchUp fl i fuel d).2 - (d + (catchUp fl i fuel d).1 * i)| ≤
        u * (b + i) * (catchUp fl i fuel d).1 := by
  induction fuel generalizing d with
  | zero =>
    rw [Nat.cast_zero, zero_mul, neg_lt_zero] at hfuel
    exact ⟨hfuel, hd, by simp [catchUp]⟩
  | succ fuel ih =>
    rw [catchUp]
    split
    · rename_i hdue
      obtain ⟨hmore, hle, herr⟩ := h.later hlow hdue
      have hi := h.interval
      rw [Nat.cast_succ] at hfuel
      obtain ⟨hpos, hdue', herr'⟩ := ih (by linarith) hle (by linarith)
      refine ⟨hpos, hdue', ?_⟩
      dsimp only
      rw [Nat.cast_succ, mul_add_one]
      have hsplit := abs_add_le
        ((catchUp fl i fuel (fl (d + i))).2 - (fl (d + i) + (catchUp fl i fuel (fl (d + i))).1 * i))
        (fl (d + i) - (d + i))
      refine le_trans (le_of_eq ?_) (hsplit.trans (add_le_add herr' herr))
      congr 1
      ring
    · rename_i hdue
      exact ⟨not_le.1 hdue, hd, by simp⟩

/-- Where a timer with no deadline at first stands when it has run for `t` in `steps` steps and has
fired `n` times. -/
structure At (fl : ℚ → ℚ) (u i b t : ℚ) (steps n : Nat) (d : ℚ) : Prop where
  near : |d - (n * i - t)| ≤ u * (b + 2 * i) * (steps + n)
  rounded : Rounded fl d
  due : d ≤ (1 + u) * i
  nonneg : 0 ≤ d

theorem at_start (h : Countable u i b fl) : At fl u i b 0 0 0 0 := by
  have hzero := h.within 0
  rw [abs_zero, mul_zero, sub_zero, abs_nonpos_iff] at hzero
  exact ⟨by simp, ⟨0, hzero⟩, mul_nonneg (by linarith [h.nonneg]) h.interval.le, le_rfl⟩

/-- Taking a step of at most `b / 2` off the deadline leaves it in range and nearly right. -/
theorem Countable.earlier (h : Countable u i b fl) (hrounded : Rounded fl d) (hd : 0 ≤ d)
    (hdue : d ≤ (1 + u) * i) (hdt : 0 ≤ dt) (hstep : dt ≤ b / 2) :
    -b ≤ fl (d - dt) ∧ fl (d - dt) ≤ (1 + u) * i ∧
      |fl (d - dt) - (d - dt)| ≤ u * (b + 2 * i) := by
  have hround := h.within (d - dt)
  have hu := h.nonneg
  have hui : u * i ≤ 1 / 2 * i := mul_le_mul_of_nonneg_right h.small h.interval.le
  have hi := h.interval
  have hsize : |d - dt| ≤ b / 2 + 3 / 2 * i := by
    rw [abs_le]
    constructor <;> linarith
  have herr : |fl (d - dt) - (d - dt)| ≤ u * (b + 2 * i) :=
    hround.trans (mul_le_mul_of_nonneg_left (by linarith) hu)
  obtain hneg | hpos := le_or_gt (d - dt) 0
  · rw [abs_of_nonpos hneg] at hround
    have hhalf := mul_le_mul_of_nonneg_right h.small (neg_nonneg.2 hneg)
    have hbounds := abs_le.1 hround
    exact ⟨by linarith, by linarith, herr⟩
  · rw [abs_of_pos hpos] at hround
    have hhalf := mul_le_mul_of_nonneg_right h.small hpos.le
    have hbounds := abs_le.1 hround
    obtain ⟨x, rfl⟩ := hrounded
    have hle : fl (fl x - dt) ≤ fl x := h.passes_none _ _ hpos (by linarith)
    exact ⟨by linarith, hle.trans hdue, herr⟩

theorem At.step (hat : At fl u i b t steps n d) (h : Countable u i b fl) (hdt : 0 ≤ dt)
    (hstep : dt ≤ b / 2) (hfuel : b < fuel * (i / 2)) :
    At fl u i b (t + dt) (steps + 1) (n + (catchUp fl i fuel (fl (d - dt))).1)
        (catchUp fl i fuel (fl (d - dt))).2 ∧
      0 < (catchUp fl i fuel (fl (d - dt))).2 := by
  obtain ⟨hnear, hrounded, hdue, hnonneg⟩ := hat
  obtain ⟨hlow, hup, herr⟩ := h.earlier hrounded hnonneg hdue hdt hstep
  obtain ⟨hpos, hdue', herr'⟩ := catchUp_spec h hlow hup ((neg_le.1 hlow).trans_lt hfuel)
  refine ⟨⟨?_, catchUp_rounded i ⟨_, rfl⟩, hdue', hpos.le⟩, hpos⟩
  have hmore : u * (b + i) * (catchUp fl i fuel (fl (d - dt))).1 ≤
      u * (b + 2 * i) * (catchUp fl i fuel (fl (d - dt))).1 := by
    have hi := h.interval
    exact mul_le_mul_of_nonneg_right (mul_le_mul_of_nonneg_left (by linarith) h.nonneg)
      (Nat.cast_nonneg _)
  have hsplit := abs_add_three
    ((catchUp fl i fuel (fl (d - dt))).2 -
      (fl (d - dt) + (catchUp fl i fuel (fl (d - dt))).1 * i))
    (fl (d - dt) - (d - dt)) (d - (n * i - t))
  rw [Nat.cast_add, Nat.cast_add, Nat.cast_one]
  calc |(catchUp fl i fuel (fl (d - dt))).2 -
        ((n + (catchUp fl i fuel (fl (d - dt))).1) * i - (t + dt))|
      = |(catchUp fl i fuel (fl (d - dt))).2 -
            (fl (d - dt) + (catchUp fl i fuel (fl (d - dt))).1 * i) +
          (fl (d - dt) - (d - dt)) + (d - (n * i - t))| := by
        congr 1
        ring
    _ ≤ u * (b + 2 * i) * (catchUp fl i fuel (fl (d - dt))).1 + u * (b + 2 * i) +
          u * (b + 2 * i) * (steps + n) := by linarith
    _ = u * (b + 2 * i) * (steps + 1 + (n + (catchUp fl i fuel (fl (d - dt))).1)) := by ring

/-- When a timer has fired `n` times its `n`th interval is under way, up to the rounding errors. -/
theorem At.count (hat : At fl u i b t steps n d) (h : Countable u i b fl) (hb : 0 ≤ b)
    (hpos : 0 < d) :
    (n - 1) * i - u * (b + 2 * i) * (steps + n + 1) ≤ t ∧
      t < n * i + u * (b + 2 * i) * (steps + n) := by
  have hbounds := abs_le.1 hat.near
  have hdue := hat.due
  have hi := h.interval
  have hub : 0 ≤ u * (b + i) := mul_nonneg h.nonneg (by linarith)
  constructor
  · linarith
  · linarith

end Pacing
