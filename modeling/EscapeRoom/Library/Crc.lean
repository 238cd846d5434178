import Mathlib.Data.BitVec

namespace Crc
set_option autoImplicit true

/-- One shift of a reflected remainder. -/
def shift (poly c : BitVec w) : BitVec w := if c.getLsbD 0 then (c >>> 1) ^^^ poly else c >>> 1

def shifts (poly : BitVec w) : Nat → BitVec w → BitVec w
  | 0, c => c
  | n + 1, c => shifts poly n (shift poly c)

/-- The remainder after one more byte, a bit at a time. -/
def feed (poly c : BitVec w) (b : BitVec 8) : BitVec w := shifts poly 8 (c ^^^ b.setWidth w)

def remainder (poly seed : BitVec w) (data : List (BitVec 8)) : BitVec w :=
  data.foldl (feed poly) seed

variable {poly : BitVec w}

theorem shift_xor (a b : BitVec w) : shift poly (a ^^^ b) = shift poly a ^^^ shift poly b := by
  simp only [shift, BitVec.getLsbD_xor, BitVec.ushiftRight_xor_distrib]
  cases a.getLsbD 0 with
  | false =>
    cases b.getLsbD 0 with
    | false => rfl
    | true => exact BitVec.xor_assoc _ _ _
  | true =>
    cases b.getLsbD 0 with
    | false =>
      change _ ^^^ _ ^^^ poly = _ ^^^ poly ^^^ (b >>> 1)
      rw [BitVec.xor_assoc, BitVec.xor_assoc, BitVec.xor_comm poly]
    | true =>
      change _ ^^^ _ = _ ^^^ poly ^^^ (_ ^^^ poly)
      rw [BitVec.xor_comm (b >>> 1), BitVec.xor_assoc, ← BitVec.xor_assoc poly, BitVec.xor_self,
        BitVec.zero_xor]

/-- The bit shifted out shows in the top bit of the result. -/
theorem msb_shift (hp : poly.msb = true) (c : BitVec w) : (shift poly c).msb = c.getLsbD 0 := by
  have htop : (c >>> 1).msb = false := by simp [BitVec.msb_ushiftRight]
  rw [shift]
  split
  · rename_i hc
    rw [BitVec.msb_xor, htop, hp, hc]
    rfl
  · rename_i hc
    rw [htop]
    simpa using hc

theorem shift_injective (hp : poly.msb = true) : Function.Injective (shift poly) := by
  intro a b h
  have hlow : a.getLsbD 0 = b.getLsbD 0 := by
    rw [← msb_shift hp, h, msb_shift hp]
  have hhigh : a >>> 1 = b >>> 1 := by
    simp only [shift, hlow] at h
    split at h
    · exact (BitVec.xor_left_inj _).1 h
    · exact h
  apply BitVec.eq_of_getLsbD_eq
  intro i _
  cases i with
  | zero => exact hlow
  | succ i =>
    have hbit := congrArg (fun c => c.getLsbD i) hhigh
    simpa [Nat.add_comm 1 i] using hbit

theorem shifts_xor (n : Nat) (a b : BitVec w) :
    shifts poly n (a ^^^ b) = shifts poly n a ^^^ shifts poly n b := by
  induction n generalizing a b with
  | zero => rfl
  | succ n ih =>
    simp only [shifts, shift_xor]
    exact ih _ _

theorem shifts_injective (hp : poly.msb = true) (n : Nat) :
    Function.Injective (shifts poly n) := by
  induction n with
  | zero => exact Function.injective_id
  | succ n ih => exact ih.comp (shift_injective hp)

theorem shifts_add (m n : Nat) (c : BitVec w) :
    shifts poly (m + n) c = shifts poly n (shifts poly m c) := by
  induction m generalizing c with
  | zero => rw [Nat.zero_add, shifts]
  | succ m ih =>
    rw [Nat.add_right_comm, shifts, shifts]
    exact ih _

variable (poly) in
/-- While only zeros are shifted out, the remainder just moves down. -/
theorem shifts_of_low {n : Nat} {c : BitVec w} (h : ∀ i < n, c.getLsbD i = false) :
    shifts poly n c = c >>> n := by
  induction n generalizing c with
  | zero => simp [shifts]
  | succ n ih =>
    have hzero := h 0 (Nat.succ_pos n)
    have hrest : ∀ i < n, (c >>> 1).getLsbD i = false := by
      intro i hi
      rw [BitVec.getLsbD_ushiftRight]
      exact h (1 + i) (by omega)
    rw [shifts, shift, hzero, if_neg (by simp), ih hrest, ← BitVec.shiftRight_add, Nat.add_comm]

theorem byte_getLsbD (b : BitVec 8) {i : Nat} (h : 8 ≤ i) : (b.setWidth w).getLsbD i = false := by
  rw [BitVec.getLsbD_setWidth, BitVec.getLsbD_of_ge b i h, Bool.and_false]

theorem byte_ushiftRight (b : BitVec 8) : b.setWidth w >>> 8 = 0 := by
  apply BitVec.eq_of_getLsbD_eq
  intro i _
  rw [BitVec.getLsbD_ushiftRight, byte_getLsbD b (by omega), BitVec.ofNat_eq_ofNat,
    BitVec.getLsbD_zero]

/-- A byte at a time, from a table of the remainders of all bytes. -/
theorem feed_eq_table {table : BitVec 8 → BitVec w}
    (ht : ∀ i, table i = shifts poly 8 (i.setWidth w)) (c : BitVec w) (b : BitVec 8) :
    feed poly c b = (c >>> 8) ^^^ table ((c ^^^ b.setWidth w).setWidth 8) := by
  generalize hx : c ^^^ b.setWidth w = x
  -- the low byte goes through the table, the rest moves down
  have hlow : ∀ i < 8, (x ^^^ (x.setWidth 8).setWidth w).getLsbD i = false := by
    intro i hi
    rw [BitVec.getLsbD_xor, BitVec.getLsbD_setWidth, BitVec.getLsbD_setWidth]
    by_cases hw : i < w
    · simp [hi, hw]
    · simp [BitVec.getLsbD_of_ge x i (not_lt.1 hw)]
  have hhigh := shifts_of_low poly hlow
  have hdown : x >>> 8 = c >>> 8 := by
    rw [← hx, BitVec.ushiftRight_xor_distrib, byte_ushiftRight, BitVec.ofNat_eq_ofNat,
      BitVec.xor_zero]
  rw [BitVec.ushiftRight_xor_distrib, byte_ushiftRight, BitVec.ofNat_eq_ofNat, BitVec.xor_zero,
    hdown, shifts_xor, ← ht] at hhigh
  rw [feed, hx, ← hhigh, BitVec.xor_assoc, BitVec.xor_self, BitVec.xor_zero]

theorem feed_injective (hp : poly.msb = true) (b : BitVec 8) :
    Function.Injective fun c => feed poly c b := by
  intro c d h
  exact (BitVec.xor_left_inj _).1 (shifts_injective hp 8 h)

theorem remainder_injective (hp : poly.msb = true) (data : List (BitVec 8)) :
    Function.Injective fun seed => remainder poly seed data := by
  induction data with
  | nil => exact Function.injective_id
  | cons b data ih => exact ih.comp (feed_injective hp b)

theorem remainder_append (seed : BitVec w) (data data' : List (BitVec 8)) :
    remainder poly seed (data ++ data') = remainder poly (remainder poly seed data) data' :=
  List.foldl_append

/-- A block of bytes as one number, its first byte lowest. -/
def pack (w : Nat) : List (BitVec 8) → BitVec w
  | [] => 0
  | b :: bs => b.setWidth w ^^^ (pack w bs <<< 8)

theorem pack_getLsbD (bs : List (BitVec 8)) {i : Nat} (h : 8 * bs.length ≤ i) :
    (pack w bs).getLsbD i = false := by
  induction bs generalizing i with
  | nil => rw [pack, BitVec.ofNat_eq_ofNat, BitVec.getLsbD_zero]
  | cons b bs ih =>
    rw [List.length_cons] at h
    rw [pack, BitVec.getLsbD_xor, byte_getLsbD b (by omega), BitVec.getLsbD_shiftLeft,
      ih (by omega), Bool.and_false, Bool.xor_false]

theorem pack_shift (bs : List (BitVec 8)) (h : 8 * (bs.length + 1) ≤ w) :
    (pack w bs <<< 8) >>> 8 = pack w bs := by
  apply BitVec.eq_of_getLsbD_eq
  intro i hi
  by_cases hlow : 8 * bs.length ≤ i
  · rw [BitVec.getLsbD_ushiftRight, BitVec.getLsbD_shiftLeft, pack_getLsbD bs hlow,
      pack_getLsbD bs (by omega), Bool.and_false]
  · rw [BitVec.getLsbD_ushiftRight, BitVec.getLsbD_shiftLeft, Nat.add_sub_cancel_left]
    simp
    omega

/-- A block that fits the remainder enters it as one number. -/
theorem remainder_eq_pack (seed : BitVec w) (bs : List (BitVec 8)) (h : 8 * bs.length ≤ w) :
    remainder poly seed bs = shifts poly (8 * bs.length) (seed ^^^ pack w bs) := by
  induction bs generalizing seed with
  | nil =>
    rw [pack, BitVec.ofNat_eq_ofNat, BitVec.xor_zero]
    rfl
  | cons b bs ih =>
    rw [List.length_cons] at h
    have hlow : ∀ i < 8, (pack w bs <<< 8).getLsbD i = false := by
      intro i hi
      simp [BitVec.getLsbD_shiftLeft, hi]
    have henter : feed poly seed b ^^^ pack w bs = shifts poly 8 (seed ^^^ pack w (b :: bs)) := by
      have hpack : shifts poly 8 (pack w bs <<< 8) = pack w bs := by
        rw [shifts_of_low _ hlow, pack_shift bs h]
      rw [feed, pack, ← BitVec.xor_assoc, shifts_xor _ _ (pack w bs <<< 8), hpack]
    have hstart : remainder poly seed (b :: bs) = remainder poly (feed poly seed b) bs := rfl
    rw [hstart, ih _ (by omega), henter, ← shifts_add, List.length_cons]
    congr 1
    omega

theorem pack_injective {bs bs' : List (BitVec 8)} (hlen : bs.length = bs'.length)
    (hw : 8 * bs.length ≤ w) (h : pack w bs = pack w bs') : bs = bs' := by
  induction bs generalizing bs' with
  | nil => exact (List.eq_nil_of_length_eq_zero hlen.symm).symm
  | cons b bs ih =>
    cases bs' with
    | nil => cases hlen
    | cons b' bs' =>
      rw [List.length_cons] at hw
      have hlen : bs.length = bs'.length := Nat.succ.inj hlen
      have hrest : pack w bs = pack w bs' := by
        have hdown := congrArg (fun c : BitVec w => c >>> 8) h
        simp only [pack, BitVec.ushiftRight_xor_distrib, byte_ushiftRight, BitVec.ofNat_eq_ofNat,
          BitVec.zero_xor] at hdown
        rwa [pack_shift bs hw, pack_shift bs' (by omega)] at hdown
      have hbyte : b = b' := by
        apply BitVec.eq_of_getLsbD_eq
        intro i hi
        have hbit := congrArg (fun c => c.getLsbD i) h
        simpa [pack, hi, (by omega : i < w)] using hbit
      rw [hbyte, ih hlen (by omega) hrest]

/-- A changed block that fits the remainder changes it, whatever comes before and after. -/
theorem remainder_ne_of_burst (hp : poly.msb = true) {bs bs' : List (BitVec 8)}
    (hlen : bs.length = bs'.length) (hw : 8 * bs.length ≤ w) (hne : bs ≠ bs') (seed : BitVec w)
    (pre post : List (BitVec 8)) :
    remainder poly seed (pre ++ bs ++ post) ≠ remainder poly seed (pre ++ bs' ++ post) := by
  intro h
  rw [remainder_append, remainder_append, remainder_append, remainder_append] at h
  have hblock := remainder_injective hp post h
  rw [remainder_eq_pack _ bs hw, remainder_eq_pack _ bs' (hlen ▸ hw), hlen] at hblock
  exact hne (pack_injective hlen hw
    ((BitVec.xor_right_inj _).1 (shifts_injective hp _ hblock)))

end Crc
