import Mathlib.Data.Rat.Floor
import Mathlib.Tactic.Linarith
import Mathlib.Tactic.Positivity
import Mathlib.Tactic.Ring
import WizPay.Bridge.Creation
import WizPay.Foundation.Rounding

/-!
# The fee of a fast transfer

The rate of Circle is rounded to hundredths of a basis point, the fee is rounded up,
and so is the buffer of a fifth on it. The buffer covers what the rounding of the
rate took away, except for some of the lowest rates.
-/

namespace WizPay.Bridge

open Foundation

/-! ## The fee and the suggested maximum -/

/-- `Math.round`: a half goes up. -/
def mathRound (value : ℚ) : ℤ := ⌊value + 1 / 2⌋

def isSafeInteger (value : ℤ) : Bool := value.natAbs < 2 ^ 53

/-- The fee of an amount. The product of the rate is a parameter: the processor rounds it. -/
def calculateFastProtocolFee (product : ℚ → ℚ → ℚ) (amountUnits : ℕ) (feeBps : ℚ) :
    Except String ℕ :=
  if amountUnits = 0 then return 0
  else
    let hundredths := mathRound (product feeBps 100)
    if isSafeInteger hundredths = false ∨ hundredths < 0 then throw "Circle Fast fee is malformed."
    else if hundredths = 0 then return 0
    else return protocolFee amountUnits hundredths.toNat

/-- The fee with a buffer of a fifth, rounded up. -/
def calculateFastMaxFee (protocolFee : ℕ) : ℕ :=
  if protocolFee = 0 then 0 else (protocolFee * 120 + 99) / 100

theorem protocolFee_zero (amount : ℕ) : protocolFee amount 0 = 0 := by
  rw [protocolFee, Nat.mul_zero]

theorem protocolFee_eq (amount hundredths : ℕ) :
    protocolFee amount hundredths = (amount * hundredths) ⌈/⌉ 1000000 := by
  rw [protocolFee, Nat.ceilDiv_eq_add_pred_div, Nat.add_sub_assoc (by decide)]

theorem le_mul_protocolFee (amount hundredths : ℕ) :
    amount * hundredths ≤ 1000000 * protocolFee amount hundredths := by
  rw [protocolFee_eq]
  exact le_mul_ceilDiv (by decide) _

theorem le_mul_maxFee (fee : ℕ) : 6 * fee ≤ 5 * calculateFastMaxFee fee := by
  rw [calculateFastMaxFee]
  split
  · omega
  · omega

/-- The fee of a rate within the range is always computed. -/
theorem calculateFastProtocolFee_ok {amount hundredths : ℕ} {rate : ℚ} (hamount : 0 < amount)
    (hround : mathRound (rate * 100) = hundredths) (hbound : hundredths ≤ 10000) :
    calculateFastProtocolFee (· * ·) amount rate = .ok (protocolFee amount hundredths) := by
  have hsafe : isSafeInteger hundredths = true := by
    rw [isSafeInteger, Int.natAbs_natCast, decide_eq_true_eq]
    exact hbound.trans_lt (by decide)
  have hrange : ¬ (isSafeInteger hundredths = false ∨ (hundredths : ℤ) < 0) := by
    rw [hsafe]
    simp
  rw [calculateFastProtocolFee, if_neg hamount.ne']
  simp only [hround]
  rw [if_neg hrange]
  split
  next hzero =>
    rw [Int.natCast_eq_zero.mp hzero, protocolFee_zero]
    rfl
  next => rfl

/-! ## Which rates the buffer covers -/

/-- The maximum for an amount whose rate was rounded to some hundredths. -/
def suggested (amount hundredths : ℕ) : ℕ := calculateFastMaxFee (protocolFee amount hundredths)

/-- The minimum of Circle is reached when rounding took at most a sixth of the rate. -/
theorem suggested_covers {amount hundredths : ℕ} {rate : ℚ}
    (hrate : 5 * (rate * 100) ≤ 6 * hundredths) :
    (amount : ℚ) * rate / 10000 ≤ suggested amount hundredths := by
  have hfee : (amount * hundredths : ℚ) ≤ 1000000 * protocolFee amount hundredths := by
    exact_mod_cast le_mul_protocolFee amount hundredths
  have hbuffer : (6 * protocolFee amount hundredths : ℚ) ≤ 5 * suggested amount hundredths := by
    exact_mod_cast le_mul_maxFee (protocolFee amount hundredths)
  have hshare : (amount : ℚ) * (5 * (rate * 100)) ≤ amount * (6 * hundredths) :=
    mul_le_mul_of_nonneg_left hrate (Nat.cast_nonneg amount)
  rw [div_le_iff₀ (by norm_num)]
  linarith

/-- The amount times a rate in hundredths of a basis point, against the buffered number
of parts of a given size that the amount starts. -/
def WithinBuffer (amount part : ℕ) (rate : ℚ) : Prop :=
  (amount : ℚ) * (100 * rate) ≤ 1000000 * ((6 * (amount ⌈/⌉ part)) ⌈/⌉ 5 : ℕ)

/-- The rates that the buffer covers: all of them but those that are rounded to zero,
and, for some amounts, those just below a half hundredth. -/
def BufferCovers (amount : ℕ) (rate : ℚ) : Prop :=
  rate = 0 ∨ (5 / 1000 ≤ rate ∧ rate ≤ 12 / 1000) ∨ (15 / 1000 ≤ rate ∧ rate ≤ 24 / 1000) ∨
    25 / 1000 ≤ rate ∨
    (12 / 1000 < rate ∧ rate < 15 / 1000 ∧ WithinBuffer amount 1000000 rate) ∨
    (24 / 1000 < rate ∧ rate < 25 / 1000 ∧ WithinBuffer amount 500000 rate)

theorem maxFee_eq (fee : ℕ) : calculateFastMaxFee fee = (6 * fee) ⌈/⌉ 5 := by
  rw [calculateFastMaxFee, Nat.ceilDiv_eq_add_pred_div]
  split
  · omega
  · omega

theorem protocolFee_one (amount : ℕ) : protocolFee amount 1 = amount ⌈/⌉ 1000000 := by
  rw [protocolFee_eq, Nat.mul_one]

theorem protocolFee_two (amount : ℕ) : protocolFee amount 2 = amount ⌈/⌉ 500000 := by
  rw [protocolFee, Nat.ceilDiv_eq_add_pred_div]
  omega

theorem withinBuffer_iff {amount hundredths part : ℕ} {rate : ℚ}
    (hfee : protocolFee amount hundredths = amount ⌈/⌉ part) :
    WithinBuffer amount part rate ↔ (amount : ℚ) * rate / 10000 ≤ suggested amount hundredths := by
  rw [WithinBuffer, suggested, maxFee_eq, hfee, div_le_iff₀ (by norm_num)]
  constructor
  · intro hwithin
    linarith
  · intro hcovers
    linarith

/-- The suggested maximum covers the minimum of Circle exactly for the rates that the
buffer covers. -/
theorem fastMaxFee_covers_iff {amount : ℕ} {rate : ℚ} (hamount : 0 < amount) (hlow : 0 ≤ rate)
    (hhigh : rate ≤ 100) :
    (∃ fee, calculateFastProtocolFee (· * ·) amount rate = .ok fee ∧
        (amount : ℚ) * rate / 10000 ≤ calculateFastMaxFee fee) ↔ BufferCovers amount rate := by
  obtain ⟨hundredths, hround⟩ : ∃ hundredths : ℕ, mathRound (rate * 100) = hundredths :=
    Int.eq_ofNat_of_zero_le (Int.floor_nonneg.mpr (by linarith))
  obtain ⟨hbelow, habove⟩ := Int.floor_eq_iff.mp hround
  rw [Int.cast_natCast] at hbelow habove
  have hbound : hundredths ≤ 10000 := by
    have hlt : (hundredths : ℚ) < 10001 := by linarith
    exact Nat.lt_succ_iff.mp (by exact_mod_cast hlt)
  have hfee := calculateFastProtocolFee_ok hamount hround hbound
  have hcovers : (∃ fee, calculateFastProtocolFee (· * ·) amount rate = .ok fee ∧
      (amount : ℚ) * rate / 10000 ≤ calculateFastMaxFee fee) ↔
        (amount : ℚ) * rate / 10000 ≤ suggested amount hundredths := by
    constructor
    · rintro ⟨fee, hok, hle⟩
      obtain rfl := Except.ok.inj (hfee.symm.trans hok)
      exact hle
    · exact fun hle => ⟨_, hfee, hle⟩
  rw [hcovers, BufferCovers]
  -- The rounded rate decides: nothing is left of it, one or two hundredths, or more.
  match hundredths, hbelow, habove with
  | 0, hbelow, habove =>
      norm_num at hbelow habove
      have hzero : suggested amount 0 = 0 := by
        rw [suggested, protocolFee_zero]
        rfl
      rw [hzero, Nat.cast_zero]
      constructor
      · intro hle
        have hproduct : (amount : ℚ) * rate ≤ 0 := by linarith
        have hpositive : (0 : ℚ) < amount := by exact_mod_cast hamount
        exact .inl (le_antisymm (nonpos_of_mul_nonpos_right hproduct hpositive) hlow)
      · rintro (rfl | ⟨hrate, -⟩ | ⟨hrate, -⟩ | hrate | ⟨hrate, -⟩ | ⟨hrate, -⟩)
        · simp
        all_goals linarith
  | 1, hbelow, habove =>
      norm_num at hbelow habove
      rw [← withinBuffer_iff (protocolFee_one amount)]
      by_cases hsafe : rate ≤ 12 / 1000
      · refine iff_of_true ?_ (.inr (.inl ⟨by linarith, hsafe⟩))
        rw [withinBuffer_iff (protocolFee_one amount)]
        exact suggested_covers (by norm_num; linarith)
      · constructor
        · intro hwithin
          refine .inr (.inr (.inr (.inr (.inl ⟨?_, ?_, hwithin⟩)))) <;> linarith
        · rintro (rfl | ⟨-, hrate⟩ | ⟨hrate, -⟩ | hrate | ⟨-, -, hwithin⟩ | ⟨hrate, -⟩)
          · norm_num at hsafe
          · exact absurd hrate hsafe
          · linarith
          · linarith
          · exact hwithin
          · linarith
  | 2, hbelow, habove =>
      norm_num at hbelow habove
      rw [← withinBuffer_iff (protocolFee_two amount)]
      by_cases hsafe : rate ≤ 24 / 1000
      · refine iff_of_true ?_ (.inr (.inr (.inl ⟨by linarith, hsafe⟩)))
        rw [withinBuffer_iff (protocolFee_two amount)]
        exact suggested_covers (by norm_num; linarith)
      · constructor
        · intro hwithin
          refine .inr (.inr (.inr (.inr (.inr ⟨?_, ?_, hwithin⟩)))) <;> linarith
        · rintro (rfl | ⟨-, hrate⟩ | ⟨-, hrate⟩ | hrate | ⟨-, hrate, -⟩ | ⟨-, -, hwithin⟩)
          · norm_num at hsafe
          · linarith
          · exact absurd hrate hsafe
          · linarith
          · linarith
          · exact hwithin
  | more + 3, hbelow, habove =>
      push_cast at hbelow habove
      have hmore : (0 : ℚ) ≤ more := Nat.cast_nonneg more
      refine iff_of_true (suggested_covers ?_) (.inr (.inr (.inr (.inl ?_))))
      · push_cast
        linarith
      · linarith

/-- 5000 units at 0.325 basis points. -/
theorem fastMaxFee_covers_iff_quarter :
    (∃ fee, calculateFastProtocolFee (· * ·) 5000 (325 / 1000) = .ok fee ∧
        ((5000 : ℕ) : ℚ) * (325 / 1000) / 10000 ≤ calculateFastMaxFee fee) ↔
      BufferCovers 5000 (325 / 1000) :=
  fastMaxFee_covers_iff (by decide) (by norm_num) (by norm_num)

/-- At 0.0149 basis points Circle asks for 14.9 units of ten dollars. The suggested
maximum is 12. -/
theorem low_rate_uncovered :
    ¬ ∀ (amount : ℕ) (rate : ℚ), 0 < amount → 0 ≤ rate → rate ≤ 100 →
      ∃ fee, calculateFastProtocolFee (· * ·) amount rate = .ok fee ∧
        (amount : ℚ) * rate / 10000 ≤ calculateFastMaxFee fee := by
  intro hall
  obtain ⟨fee, hok, hcovers⟩ := hall 10000000 (149 / 10000) (by decide) (by norm_num) (by norm_num)
  have hround : mathRound (149 / 10000 * 100) = (1 : ℕ) := by
    rw [mathRound, Int.floor_eq_iff]
    norm_num
  have hfee := @calculateFastProtocolFee_ok 10000000 1 (149 / 10000) (by decide) hround (by decide)
  obtain rfl := Except.ok.inj (hfee.symm.trans hok)
  have hmax : calculateFastMaxFee (protocolFee 10000000 1) = 12 := by decide
  rw [hmax] at hcovers
  norm_num at hcovers

end WizPay.Bridge
