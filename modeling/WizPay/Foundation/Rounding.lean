import Mathlib.Algebra.Order.Floor.Div
import Mathlib.Data.Nat.Notation

/-!
# Rounded quotients

A quotient rounded up is the least number whose multiple covers the dividend. The
order of ceilings, their sums and what a rounded-down part leaves all follow from
that, without looking at a remainder.
-/

namespace WizPay.Foundation

theorem le_mul_ceilDiv {divisor : ℕ} (hpos : 0 < divisor) (dividend : ℕ) :
    dividend ≤ divisor * (dividend ⌈/⌉ divisor) :=
  (ceilDiv_le_iff_le_mul hpos).mp le_rfl

theorem ceilDiv_mono {first second divisor : ℕ} (hpos : 0 < divisor) (hle : first ≤ second) :
    first ⌈/⌉ divisor ≤ second ⌈/⌉ divisor := by
  rw [ceilDiv_le_iff_le_mul hpos]
  exact hle.trans (le_mul_ceilDiv hpos second)

/-- Two parts, each rounded up, are no less than the whole. -/
theorem ceilDiv_add_le {divisor : ℕ} (hpos : 0 < divisor) (first second : ℕ) :
    (first + second) ⌈/⌉ divisor ≤ first ⌈/⌉ divisor + second ⌈/⌉ divisor := by
  rw [ceilDiv_le_iff_le_mul hpos, Nat.mul_add]
  exact Nat.add_le_add (le_mul_ceilDiv hpos first) (le_mul_ceilDiv hpos second)

theorem ceilDiv_eq_zero_iff {dividend divisor : ℕ} (hpos : 0 < divisor) :
    dividend ⌈/⌉ divisor = 0 ↔ dividend = 0 := by
  rw [← Nat.le_zero, ceilDiv_le_iff_le_mul hpos, Nat.mul_zero, Nat.le_zero]

/-- The quotient, and one more when something remains. -/
theorem div_add_one_eq_ceilDiv {divisor : ℕ} (hpos : 0 < divisor) (dividend : ℕ) :
    dividend / divisor + (if dividend % divisor = 0 then 0 else 1) = dividend ⌈/⌉ divisor := by
  have hdivision := Nat.div_add_mod dividend divisor
  have hremainder := Nat.mod_lt dividend hpos
  apply Nat.le_antisymm
  · have hcovers := le_mul_ceilDiv hpos dividend
    split
    next hexact =>
      rw [hexact] at hdivision
      rw [Nat.add_zero]
      exact Nat.le_of_mul_le_mul_left (by omega) hpos
    next hrest =>
      have hless : divisor * (dividend / divisor) < divisor * (dividend ⌈/⌉ divisor) := by omega
      exact Nat.lt_of_mul_lt_mul_left hless
  · rw [ceilDiv_le_iff_le_mul hpos, Nat.mul_add]
    split
    next hexact => omega
    next hrest => omega

/-- What is left of an amount when a share of it, rounded down, is taken away is the other
share rounded up. -/
theorem sub_share_eq_ceilDiv {share whole : ℕ} (hpos : 0 < whole) (hshare : share ≤ whole)
    (amount : ℕ) : amount - amount * share / whole = amount * (whole - share) ⌈/⌉ whole := by
  have hdivision := Nat.div_add_mod (amount * share) whole
  have hremainder := Nat.mod_lt (amount * share) hpos
  have hsplit : amount * (whole - share) + amount * share = whole * amount := by
    rw [← Nat.mul_add, Nat.sub_add_cancel hshare, Nat.mul_comm]
  apply Nat.le_antisymm
  · have hcovers := le_mul_ceilDiv hpos (amount * (whole - share))
    -- the two shares, one rounded each way, make up the amount
    have hwhole : whole * amount < whole *
        (amount * (whole - share) ⌈/⌉ whole + amount * share / whole + 1) := by
      rw [Nat.mul_add, Nat.mul_add]
      omega
    have hless := Nat.lt_of_mul_lt_mul_left hwhole
    omega
  · rw [ceilDiv_le_iff_le_mul hpos, Nat.mul_sub whole]
    omega

/-! ## Two scales -/

/-- On a scale no coarser than the price, one more unit is one more at least. -/
theorem scaled_floor_succ_le {scale price : ℕ} (hpos : 0 < price) (hscale : price ≤ scale)
    (output : ℕ) : output * scale / price + 1 ≤ (output + 1) * scale / price := by
  rw [← Nat.add_div_right _ hpos, Nat.add_mul, Nat.one_mul]
  exact Nat.div_le_div_right (Nat.add_le_add_left hscale _)

/-- A floor taken on the finer scale is reached only from the floor itself on. -/
theorem floor_le_of_scaled_floor_le {part whole scale price output : ℕ} (hwhole : 0 < whole)
    (hpos : 0 < price) (hscale : price ≤ scale)
    (hreached : part * scale / (price * whole) ≤ output * scale / price) :
    part / whole ≤ output := by
  by_contra hbelow
  have hpart : (output + 1) * whole ≤ part :=
    (Nat.le_div_iff_mul_le hwhole).mp (Nat.lt_of_not_le hbelow)
  have hscaled : (output + 1) * scale / price ≤ part * scale / (price * whole) := by
    calc
      (output + 1) * scale / price = (output + 1) * scale * whole / (price * whole) :=
        (Nat.mul_div_mul_right _ _ hwhole).symm
      _ = (output + 1) * whole * scale / (price * whole) := by rw [Nat.mul_right_comm]
      _ ≤ part * scale / (price * whole) := Nat.div_le_div_right (Nat.mul_le_mul_right _ hpart)
  have hsucc := scaled_floor_succ_le hpos hscale output
  omega

/-- Above the floor, the floor on the other scale is reached. -/
theorem scaled_floor_le_of_floor_lt {part whole scale price output : ℕ} (hwhole : 0 < whole)
    (habove : part / whole < output) :
    part * scale / (price * whole) ≤ output * scale / price := by
  have hpart : part ≤ output * whole := ((Nat.div_lt_iff_lt_mul hwhole).mp habove).le
  calc
    part * scale / (price * whole) ≤ output * whole * scale / (price * whole) :=
      Nat.div_le_div_right (Nat.mul_le_mul_right _ hpart)
    _ = output * scale * whole / (price * whole) := by rw [Nat.mul_right_comm]
    _ = output * scale / price := Nat.mul_div_mul_right _ _ hwhole

end WizPay.Foundation
