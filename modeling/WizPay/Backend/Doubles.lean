import Mathlib.Tactic.IntervalCases
import WizPay.Backend.Number

/-!
# Doubles

Rounding to doubles is monotone and changes no double. From `2 ^ 53` on a double is
a significand of fifty-three bits times a power of two, and rounding is read off the
distance to the double below.
-/

namespace WizPay.Backend

/-! ## Significand and unit -/

/-- From `2 ^ 53` on a number is a significand, a unit and a rest below the unit. -/
theorem exists_significand {n : ℕ} (hle : 2 ^ 53 ≤ n) :
    ∃ low shift rest, 2 ^ 52 ≤ low ∧ low < 2 ^ 53 ∧ 0 < shift ∧ rest < 2 ^ shift ∧
      n = low * 2 ^ shift + rest := by
  have hne : n ≠ 0 := by
    rintro rfl
    exact absurd hle (by decide)
  have hlog : 53 ≤ n.log2 := (Nat.le_log2 hne).mpr hle
  have hunit : 0 < 2 ^ (n.log2 - 52) := Nat.two_pow_pos _
  refine ⟨n / 2 ^ (n.log2 - 52), n.log2 - 52, n % 2 ^ (n.log2 - 52), ?_, ?_, by omega,
    Nat.mod_lt _ hunit, (Nat.div_add_mod' _ _).symm⟩
  · rw [Nat.le_div_iff_mul_le hunit, ← Nat.pow_add, show 52 + (n.log2 - 52) = n.log2 by omega]
    exact Nat.log2_self_le hne
  · rw [Nat.div_lt_iff_lt_mul hunit, ← Nat.pow_add,
      show 53 + (n.log2 - 52) = n.log2 + 1 by omega]
    exact Nat.lt_log2_self

section Rounding

variable {low shift rest : ℕ} (hlow : 2 ^ 52 ≤ low) (hhigh : low < 2 ^ 53)

include hlow in
theorem two_pow_le_significand : 2 ^ (52 + shift) ≤ low * 2 ^ shift + rest := by
  rw [Nat.pow_add]
  exact (Nat.mul_le_mul_right _ hlow).trans (Nat.le_add_right _ _)

include hhigh in
theorem significand_lt (hrest : rest < 2 ^ shift) :
    low * 2 ^ shift + rest < 2 ^ (53 + shift) := by
  have hstep : (low + 1) * 2 ^ shift ≤ 2 ^ 53 * 2 ^ shift := Nat.mul_le_mul_right _ hhigh
  rw [Nat.pow_add]
  rw [Nat.add_mul, Nat.one_mul] at hstep
  omega

include hlow hhigh in
/-- Rounding a number of known significand and unit. -/
theorem toDouble_significand (hshift : 0 < shift) (hrest : rest < 2 ^ shift) :
    toDouble (low * 2 ^ shift + rest) = min infinity
      (if 2 ^ shift < 2 * rest ∨ (2 ^ shift = 2 * rest ∧ low % 2 = 1)
        then (low + 1) * 2 ^ shift else low * 2 ^ shift) := by
  have hle : 2 ^ (52 + shift) ≤ low * 2 ^ shift + rest := two_pow_le_significand hlow
  have hlarge : ¬ low * 2 ^ shift + rest < 2 ^ 53 :=
    Nat.not_lt.mpr ((Nat.pow_le_pow_right (by decide) (by omega)).trans hle)
  have hlog : (low * 2 ^ shift + rest).log2 = 52 + shift := by
    rw [Nat.log2_eq_iff (by omega)]
    refine ⟨hle, ?_⟩
    rw [show 52 + shift + 1 = 53 + shift by omega]
    exact significand_lt hhigh hrest
  have hdiv : (low * 2 ^ shift + rest) / 2 ^ shift = low := by
    rw [Nat.mul_comm, Nat.mul_add_div (Nat.two_pow_pos _), Nat.div_eq_of_lt hrest, Nat.add_zero]
  have hmod : (low * 2 ^ shift + rest) % 2 ^ shift = rest := by
    rw [Nat.mul_comm, Nat.mul_add_mod, Nat.mod_eq_of_lt hrest]
  rw [toDouble, if_neg hlarge, hlog, show 52 + shift - 52 = shift by omega]
  simp only [hdiv, hmod]

end Rounding

theorem toDouble_le_infinity (n : ℕ) : toDouble n ≤ infinity := by
  rw [toDouble]
  split
  · next hlt => exact hlt.le.trans (two_pow_le_infinity (by decide))
  · exact Nat.min_le_left _ _

/-- A significand of at most fifty-three bits times a power of two is a double. -/
theorem toDouble_mul_two_pow {low shift : ℕ} (hlow : 2 ^ 52 ≤ low) (hhigh : low ≤ 2 ^ 53) :
    toDouble (low * 2 ^ shift) = min infinity (low * 2 ^ shift) := by
  have hrest (shift : ℕ) : ¬ (2 ^ shift < 2 * 0 ∨ (2 ^ shift = 2 * 0 ∧ low % 2 = 1)) := by
    have hunit := Nat.two_pow_pos shift
    omega
  rcases Nat.lt_or_eq_of_le hhigh with hlt | rfl
  · cases shift with
    | zero =>
        rw [Nat.pow_zero, Nat.mul_one, toDouble_of_lt hlt,
          Nat.min_eq_right (hlt.le.trans (two_pow_le_infinity (by decide)))]
    | succ shift =>
        have hround := toDouble_significand hlow hlt (Nat.succ_pos shift)
          (Nat.two_pow_pos (shift + 1))
        rw [Nat.add_zero] at hround
        rw [hround, if_neg (hrest _)]
  · -- the next power of two, whose significand is half of that
    have hround := toDouble_significand (Nat.le_refl (2 ^ 52)) (by decide) (Nat.succ_pos shift)
      (Nat.two_pow_pos (shift + 1))
    have hunit := Nat.two_pow_pos (shift + 1)
    have hdouble : 2 ^ 53 * 2 ^ shift = 2 ^ 52 * 2 ^ (shift + 1) := by
      rw [← Nat.pow_add, ← Nat.pow_add]
      congr 1
      omega
    rw [Nat.add_zero, if_neg (by omega)] at hround
    rw [hdouble, hround]

@[simp] theorem toDouble_infinity : toDouble infinity = infinity := by
  obtain ⟨shift, -, hshift⟩ := infinity_eq
  rw [hshift, toDouble_mul_two_pow (Nat.le_refl _) (by decide), hshift, Nat.min_self]

/-- Rounding changes no double. -/
@[simp] theorem toDouble_toDouble (n : ℕ) : toDouble (toDouble n) = toDouble n := by
  by_cases hlt : n < 2 ^ 53
  · rw [toDouble_of_lt hlt, toDouble_of_lt hlt]
  · obtain ⟨low, shift, rest, hlow, hhigh, hshift, hrest, rfl⟩ :=
      exists_significand (Nat.not_lt.mp hlt)
    have hmin {value : ℕ} (hdouble : toDouble value = min infinity value) :
        toDouble (min infinity value) = min infinity value := by
      rcases Nat.le_total infinity value with hle | hle
      · rw [Nat.min_eq_left hle, toDouble_infinity]
      · rw [Nat.min_eq_right hle, hdouble, Nat.min_eq_right hle]
    rw [toDouble_significand hlow hhigh hshift hrest]
    split
    · exact hmin (toDouble_mul_two_pow (by omega) hhigh)
    · exact hmin (toDouble_mul_two_pow hlow hhigh.le)

/-- Rounding keeps the order. -/
theorem toDouble_mono {n m : ℕ} (hle : n ≤ m) : toDouble n ≤ toDouble m := by
  rcases Nat.lt_or_ge n (2 ^ 53) with hn | hn
  · rw [toDouble_of_lt hn]
    rcases Nat.lt_or_ge m (2 ^ 53) with hm | hm
    · rwa [toDouble_of_lt hm]
    · exact hn.le.trans (le_toDouble hm)
  · obtain ⟨low, shift, rest, hlow, hhigh, hshift, hrest, rfl⟩ := exists_significand hn
    obtain ⟨low', shift', rest', hlow', hhigh', hshift', hrest', rfl⟩ :=
      exists_significand (hn.trans hle)
    rw [toDouble_significand hlow hhigh hshift hrest,
      toDouble_significand hlow' hhigh' hshift' hrest']
    refine min_le_min (Nat.le_refl _) ?_
    have hstep : (low + 1) * 2 ^ shift ≤ 2 ^ (53 + shift) := by
      rw [Nat.pow_add]
      exact Nat.mul_le_mul_right _ hhigh
    have hgap : low * 2 ^ shift ≤ (low + 1) * 2 ^ shift := Nat.mul_le_mul_right _ (Nat.le_succ _)
    have hgap' : low' * 2 ^ shift' ≤ (low' + 1) * 2 ^ shift' :=
      Nat.mul_le_mul_right _ (Nat.le_succ _)
    rcases Nat.lt_trichotomy shift shift' with hshifts | rfl | hshifts
    · -- a larger unit starts where the smaller ends
      have hstart : 2 ^ (53 + shift) ≤ low' * 2 ^ shift' :=
        (Nat.pow_le_pow_right (by decide) (by omega)).trans
          (@two_pow_le_significand low' shift' 0 hlow')
      split <;> split <;> omega
    · rcases Nat.lt_trichotomy low low' with hlows | rfl | hlows
      · have hnext : (low + 1) * 2 ^ shift ≤ low' * 2 ^ shift := Nat.mul_le_mul_right _ hlows
        split <;> split <;> omega
      · -- in one interval the rests decide
        split <;> split <;> omega
      · have hnext : (low' + 1) * 2 ^ shift ≤ low * 2 ^ shift := Nat.mul_le_mul_right _ hlows
        rw [Nat.add_mul, Nat.one_mul] at hnext
        omega
    · have hstart : 2 ^ (53 + shift') ≤ low * 2 ^ shift + rest :=
        (Nat.pow_le_pow_right (by decide) (by omega)).trans (two_pow_le_significand hlow)
      have hend := significand_lt hhigh' hrest'
      omega

theorem toDouble_of_le {n : ℕ} (hle : n ≤ 2 ^ 53) : toDouble n = n := by
  rcases Nat.lt_or_eq_of_le hle with hlt | rfl
  · exact toDouble_of_lt hlt
  · decide +kernel

/-- From `2 ^ 53` on a double is a significand times a unit. -/
theorem exists_of_double {value : ℕ} (hdouble : toDouble value = value)
    (hle : 2 ^ 53 ≤ value) :
    ∃ low shift, 2 ^ 52 ≤ low ∧ low < 2 ^ 53 ∧ 0 < shift ∧ value = low * 2 ^ shift := by
  obtain ⟨low, shift, rest, hlow, hhigh, hshift, hrest, rfl⟩ := exists_significand hle
  rw [toDouble_significand hlow hhigh hshift hrest] at hdouble
  rcases Nat.lt_or_ge (low * 2 ^ shift + rest) infinity with hfinite | hinfinity
  · refine ⟨low, shift, hlow, hhigh, hshift, ?_⟩
    have hgap : (low + 1) * 2 ^ shift = low * 2 ^ shift + 2 ^ shift := by
      rw [Nat.add_mul, Nat.one_mul]
    by_cases hup : 2 ^ shift < 2 * rest ∨ (2 ^ shift = 2 * rest ∧ low % 2 = 1)
    · rw [if_pos hup] at hdouble
      omega
    · rw [if_neg hup] at hdouble
      omega
  · -- only infinity itself is not changed
    have hvalue : low * 2 ^ shift + rest = infinity :=
      Nat.le_antisymm (hdouble ▸ Nat.min_le_left _ _) hinfinity
    obtain ⟨shift', hpositive, hshift'⟩ := infinity_eq
    exact ⟨2 ^ 52, shift', Nat.le_refl _, by decide, hpositive, hvalue.trans hshift'⟩

/-! ## Counting from a double -/

/-- The next `n - 1` numbers after a double round to different doubles: they end by `2 ^ 53`,
or there are at most three of them in the next two binades and none falls between two. -/
def CountersDistinct (start n : ℕ) : Prop :=
  n ≤ 2 ∨ start + (n - 1) ≤ 2 ^ 53 ∨
    (n ≤ 4 ∧ 2 ^ 53 ≤ start ∧ start < 2 ^ 54 ∧ 4 ∣ start) ∨
    (n = 3 ∧ 2 ^ 54 ≤ start ∧ start < 2 ^ 55 ∧ start % 8 = 4)

/-- Counting up by one from a double gives it again: beyond `2 ^ 54`, or at an even
significand. -/
def CountsInPlace (start : ℕ) : Prop := 2 ^ 54 ≤ start ∨ (2 ^ 53 ≤ start ∧ 4 ∣ start)

section Counting

variable {low : ℕ} (hlow : 2 ^ 52 ≤ low) (hhigh : low < 2 ^ 53)
include hlow hhigh

/-- One unit of two apart: the number between two doubles goes to the even significand. -/
theorem toDouble_unit_two :
    toDouble (low * 2 + 1) = (if low % 2 = 1 then low * 2 + 2 else low * 2) ∧
      toDouble (low * 2 + 2) = low * 2 + 2 := by
  have hinfinity : 2 ^ 54 ≤ infinity := two_pow_le_infinity (by decide)
  have hone := toDouble_significand hlow hhigh (by decide : 0 < 1) (by decide : 1 < 2 ^ 1)
  have htwo : toDouble ((low + 1) * 2 ^ 1) = _ := toDouble_mul_two_pow (by omega) hhigh
  rw [Nat.pow_one] at hone htwo
  constructor
  · rw [hone, Nat.min_eq_right (by split <;> omega)]
    split <;> split <;> omega
  · rw [show low * 2 + 2 = (low + 1) * 2 by omega, htwo]
    omega

/-- Units of four: one above stays, two above go to the even significand, three above go up. -/
theorem toDouble_unit_four :
    toDouble (low * 4 + 1) = low * 4 ∧
      toDouble (low * 4 + 2) = (if low % 2 = 1 then low * 4 + 4 else low * 4) ∧
      toDouble (low * 4 + 3) = low * 4 + 4 := by
  have hinfinity : 2 ^ 55 ≤ infinity := two_pow_le_infinity (by decide)
  have hone := toDouble_significand hlow hhigh (by decide : 0 < 2) (by decide : 1 < 2 ^ 2)
  have htwo := toDouble_significand hlow hhigh (by decide : 0 < 2) (by decide : 2 < 2 ^ 2)
  have hthree := toDouble_significand hlow hhigh (by decide : 0 < 2) (by decide : 3 < 2 ^ 2)
  rw [show 2 ^ 2 = 4 from rfl] at hone htwo hthree
  refine ⟨?_, ?_, ?_⟩
  · rw [hone, if_neg (by omega)]
    omega
  · rw [htwo, Nat.min_eq_right (by split <;> omega)]
    split <;> split <;> omega
  · rw [hthree, if_pos (by omega)]
    omega

/-- Larger units: one and two above stay. -/
theorem toDouble_unit_large {shift rest : ℕ} (hshift : 3 ≤ shift) (hrest : rest ≤ 2) :
    toDouble (low * 2 ^ shift + rest) = min infinity (low * 2 ^ shift) := by
  have hunit : 8 ≤ 2 ^ shift :=
    Nat.pow_le_pow_right (by decide : 0 < 2) hshift
  rw [toDouble_significand hlow hhigh (by omega) (by omega), if_neg (by omega)]

end Counting

/-- Counting in place is what it says. -/
theorem countsInPlace_iff {start : ℕ} (hdouble : toDouble start = start) :
    toDouble (start + 1) = start ↔ CountsInPlace start := by
  rw [CountsInPlace]
  rcases Nat.lt_or_ge start (2 ^ 53) with hlt | hle
  · rw [toDouble_of_le hlt]
    omega
  · obtain ⟨low, shift, hlow, hhigh, hshift, rfl⟩ := exists_of_double hdouble hle
    rcases Nat.lt_or_ge shift 3 with hsmall | hlarge
    · interval_cases shift
      · have hone := (toDouble_unit_two hlow hhigh).1
        rw [Nat.pow_one, hone]
        split <;> omega
      · have hone := (toDouble_unit_four hlow hhigh).1
        rw [show 2 ^ 2 = 4 from rfl, hone]
        omega
    · have hstart : 2 ^ (52 + shift) ≤ low * 2 ^ shift :=
        @two_pow_le_significand low shift 0 hlow
      have hbound : 2 ^ 55 ≤ 2 ^ (52 + shift) := Nat.pow_le_pow_right (by decide) (by omega)
      rw [toDouble_unit_large hlow hhigh hlarge (by decide),
        ← toDouble_mul_two_pow hlow hhigh.le, hdouble]
      omega

/-- Which runs of numbers after a double stay apart. -/
theorem countersDistinct_iff {start n : ℕ} (hdouble : toDouble start = start) :
    (∀ i j, 1 ≤ i → i < j → j < n → toDouble (start + i) ≠ toDouble (start + j)) ↔
      CountersDistinct start n := by
  rw [CountersDistinct]
  rcases Nat.lt_or_ge start (2 ^ 53) with hlt | hle
  · constructor
    · intro hdistinct
      by_contra hlong
      -- `2 ^ 53` and the number after it round to one double
      refine hdistinct (2 ^ 53 - start) (2 ^ 53 + 1 - start) (by omega) (by omega) (by omega) ?_
      rw [show start + (2 ^ 53 - start) = 2 ^ 53 by omega,
        show start + (2 ^ 53 + 1 - start) = 2 ^ 53 + 1 by omega]
      decide +kernel
    · intro hshort i j hi hij hj
      rw [toDouble_of_le (by omega), toDouble_of_le (by omega)]
      omega
  · obtain ⟨low, shift, hlow, hhigh, hshift, rfl⟩ := exists_of_double hdouble hle
    rcases Nat.lt_or_ge shift 3 with hsmall | hlarge
    · interval_cases shift
      · obtain ⟨hone, htwo⟩ := toDouble_unit_two hlow hhigh
        rw [Nat.pow_one]
        constructor
        · intro hdistinct
          by_contra hlong
          by_cases hodd : low % 2 = 1
          · refine hdistinct 1 2 (by omega) (by omega) (by omega) ?_
            rw [hone, htwo, if_pos hodd]
          · obtain ⟨hthree, hfour⟩ :=
              @toDouble_unit_two (low + 1) (by omega) (by omega)
            refine hdistinct 3 4 (by omega) (by omega) (by omega) ?_
            rw [show low * 2 + 3 = (low + 1) * 2 + 1 by omega,
              show low * 2 + 4 = (low + 1) * 2 + 2 by omega, hthree, hfour, if_pos (by omega)]
        · intro hshort i j hi hij hj
          have heven : low % 2 = 0 := by omega
          have hthree := (@toDouble_unit_two (low + 1) (by omega) (by omega)).1
          rw [show (low + 1) * 2 + 1 = low * 2 + 3 by omega, if_pos (by omega)] at hthree
          rw [if_neg (by omega)] at hone
          have hcases : (i = 1 ∧ j = 2) ∨ (i = 1 ∧ j = 3) ∨ (i = 2 ∧ j = 3) := by omega
          rcases hcases with ⟨rfl, rfl⟩ | ⟨rfl, rfl⟩ | ⟨rfl, rfl⟩ <;> omega
      · obtain ⟨hone, htwo, hthree⟩ := toDouble_unit_four hlow hhigh
        rw [show 2 ^ 2 = 4 from rfl]
        constructor
        · intro hdistinct
          by_contra hlong
          by_cases hodd : low % 2 = 1
          · refine hdistinct 2 3 (by omega) (by omega) (by omega) ?_
            rw [htwo, hthree, if_pos hodd]
          · refine hdistinct 1 2 (by omega) (by omega) (by omega) ?_
            rw [hone, htwo, if_neg hodd]
        · intro hshort i j hi hij hj
          rw [if_pos (by omega)] at htwo
          have hcases : i = 1 ∧ j = 2 := by omega
          obtain ⟨rfl, rfl⟩ := hcases
          omega
    · have hstart : 2 ^ (52 + shift) ≤ low * 2 ^ shift :=
        @two_pow_le_significand low shift 0 hlow
      have hbound : 2 ^ 55 ≤ 2 ^ (52 + shift) := Nat.pow_le_pow_right (by decide) (by omega)
      constructor
      · intro hdistinct
        by_contra hlong
        refine hdistinct 1 2 (by omega) (by omega) (by omega) ?_
        rw [toDouble_unit_large hlow hhigh hlarge (by decide),
          toDouble_unit_large hlow hhigh hlarge (by decide)]
      · intro hshort i j hi hij hj
        omega

end WizPay.Backend
