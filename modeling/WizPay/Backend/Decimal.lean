import Mathlib.Data.List.TakeWhile
import Mathlib.Tactic.Linarith
import Mathlib.Tactic.Positivity
import WizPay.Backend.Conversion

/-!
# Decimal texts

The texts that are plain decimals, with or without a point, and the numbers they stand
for. `Number` makes of such a text the nearest double, which is positive for every number
that is not vanishingly small.
-/

namespace WizPay.Backend

/-- The number of digits with at most one point among them. -/
def unsignedDecimal (chars : List Char) : Option ℚ :=
  let whole := chars.takeWhile isDigit
  let fraction := match chars.dropWhile isDigit with
    | '.' :: rest => rest
    | rest => rest
  if fraction.all isDigit = true then
    some ((digitsValue 10 (whole ++ fraction) : ℚ) / 10 ^ fraction.length)
  else none

/-- The number of a text of the shape `/^(-?)([0-9]*)\.?([0-9]*)$/`. -/
def decimalValue (text : String) : Option ℚ :=
  match text.toList with
  | '-' :: rest => (unsignedDecimal rest).map fun value => -value
  | chars => unsignedDecimal chars

/-- What is relied on of a parser of decimal amounts: it refuses every other text, and is off
by half a unit at most, up to the rounding of the processor. -/
structure ParsesUnits (parseUnits : String → ℕ → Option ℤ) : Prop where
  refused : ∀ text decimals, decimalValue text = none → parseUnits text decimals = none
  rounded : ∀ text decimals value, decimalValue text = some value →
    ∃ units : ℤ, parseUnits text decimals = some units ∧ |units - value * 10 ^ decimals| ≤ 51 / 100

/-- Decimal amounts rounded to the nearest unit, halves away from zero. -/
def roundedUnits (text : String) (decimals : ℕ) : Option ℤ :=
  (decimalValue text).map fun value =>
    if 0 ≤ value then ⌊value * 10 ^ decimals + 1 / 2⌋ else -⌊-value * 10 ^ decimals + 1 / 2⌋

theorem parsesUnits_roundedUnits : ParsesUnits roundedUnits where
  refused text decimals hnone := by
    rw [roundedUnits, hnone]
    rfl
  rounded text decimals value hvalue := by
    rw [roundedUnits, hvalue]
    refine ⟨_, rfl, ?_⟩
    dsimp only
    have hfloor : ∀ scaled : ℚ, |(⌊scaled + 1 / 2⌋ : ℚ) - scaled| ≤ 51 / 100 := by
      intro scaled
      have hlow := Int.floor_le (scaled + 1 / 2)
      have hhigh := Int.lt_floor_add_one (scaled + 1 / 2)
      rw [abs_le]
      constructor <;> linarith
    split
    next hpositive => exact hfloor _
    next hnegative =>
      have hneg := hfloor (-value * 10 ^ decimals)
      rw [← abs_neg] at hneg
      push_cast at hneg ⊢
      convert hneg using 2
      ring

/-! ## Nearest doubles -/

theorem roundEven_pos {value : ℚ} (hvalue : 1 / 2 < value) : 0 < roundEven value := by
  have hlow := Int.floor_le value
  have hnonneg : 0 ≤ ⌊value⌋ := Int.floor_nonneg.mpr (by linarith)
  -- below one the value is nearer to one than to zero
  have hone : ⌊value⌋ = 0 → (⌊value⌋ : ℚ) = 0 := fun hzero => by rw [hzero, Int.cast_zero]
  unfold roundEven
  dsimp only
  split
  next hnear =>
    rcases hnonneg.lt_or_eq with hpositive | hzero
    · exact hpositive
    · rw [hone hzero.symm] at hnear
      linarith
  next hfar =>
    split
    next habove => omega
    next htie =>
      rcases hnonneg.lt_or_eq with hpositive | hzero
      · omega
      · rw [hone hzero.symm] at htie
        linarith

/-- A power of two below the double of a number. -/
theorem two_zpow_binaryExponent_lt {value : ℚ} (hvalue : 0 < value) :
    (2 : ℚ) ^ binaryExponent value < 2 * value := by
  have hnum : value.num.natAbs ≠ 0 := by
    rw [Int.natAbs_ne_zero]
    exact (Rat.num_pos.mpr hvalue).ne'
  have hbelow : (2 : ℚ) ^ value.num.natAbs.log2 ≤ value.num.natAbs := by
    exact_mod_cast Nat.log2_self_le hnum
  have habove : (value.den : ℚ) < 2 ^ (value.den.log2 + 1) := by
    exact_mod_cast Nat.lt_log2_self
  have hden : (0 : ℚ) < value.den := by exact_mod_cast value.den_pos
  have hquotient : (value.num.natAbs : ℚ) = value * value.den := by
    have habs : ((value.num.natAbs : ℤ) : ℚ) = value.num := by
      rw [Int.natAbs_of_nonneg (Rat.num_pos.mpr hvalue).le]
    rw [← Int.cast_natCast, habs]
    exact (div_eq_iff hden.ne').mp (Rat.num_div_den value)
  have hfirst : (2 : ℚ) ^ ((value.num.natAbs.log2 : ℤ) - value.den.log2 : ℤ) < 2 * value := by
    rw [zpow_sub₀ two_ne_zero, zpow_natCast, zpow_natCast, div_lt_iff₀ (by positivity)]
    calc (2 : ℚ) ^ value.num.natAbs.log2 ≤ value.num.natAbs := hbelow
      _ = value * value.den := hquotient
      _ < value * 2 ^ (value.den.log2 + 1) := mul_lt_mul_of_pos_left habove hvalue
      _ = 2 * value * 2 ^ value.den.log2 := by ring
  unfold binaryExponent
  dsimp only
  split
  next hover =>
    refine lt_of_le_of_lt ?_ hfirst
    exact zpow_le_zpow_right₀ one_le_two (by omega)
  next => exact hfirst

theorem nearestDouble_pos {value : ℚ} (hvalue : 1 / 10 ^ 7 ≤ value) : 0 < nearestDouble value := by
  have hpositive : 0 < value := lt_of_lt_of_le (by norm_num) hvalue
  have hunit : (2 : ℚ) ^ max (binaryExponent value - 52) (-1074) < 2 * value := by
    rcases le_total (binaryExponent value - 52) (-1074) with hsubnormal | hnormal
    · rw [max_eq_right hsubnormal]
      calc (2 : ℚ) ^ (-1074 : ℤ) ≤ 2 ^ (-24 : ℤ) := zpow_le_zpow_right₀ one_le_two (by norm_num)
        _ < 2 * (1 / 10 ^ 7) := by norm_num
        _ ≤ 2 * value := mul_le_mul_of_nonneg_left hvalue zero_le_two
    · rw [max_eq_left hnormal]
      exact lt_of_le_of_lt (zpow_le_zpow_right₀ one_le_two (by omega))
        (two_zpow_binaryExponent_lt hpositive)
  have hpower : (0 : ℚ) < 2 ^ max (binaryExponent value - 52) (-1074) := zpow_pos two_pos _
  have hround : 0 < roundEven (value / 2 ^ max (binaryExponent value - 52) (-1074)) := by
    apply roundEven_pos
    rw [lt_div_iff₀ hpower]
    linarith
  refine lt_max_of_lt_right (lt_min (by positivity) ?_)
  exact mul_pos (Int.cast_pos.mpr hround) hpower

/-! ## What `Number` makes of a decimal text -/

/-- The digits of a positive decimal spell it as a literal. -/
theorem literal_of_digits {whole fraction : List Char}
    (hpositive : 0 < (digitsValue 10 (whole ++ fraction) : ℚ) / 10 ^ fraction.length) :
    (if whole = [] ∧ fraction = [] then none
      else (exponentOf []).map fun exponent =>
        (digitsValue 10 (whole ++ fraction) : ℚ) * 10 ^ (exponent - fraction.length : ℤ)) =
      some ((digitsValue 10 (whole ++ fraction) : ℚ) / 10 ^ fraction.length) := by
  have hdigits : ¬ (whole = [] ∧ fraction = []) := by
    rintro ⟨rfl, rfl⟩
    simp [digitsValue] at hpositive
  rw [if_neg hdigits, exponentOf, Option.map_some, zero_sub, zpow_neg, zpow_natCast,
    div_eq_mul_inv]

/-- A decimal goes on with a point behind its first digits, or ends there. -/
theorem unsignedDecimal_eq_none {chars rest : List Char} {c : Char}
    (hrest : chars.dropWhile isDigit = c :: rest) (hpoint : c ≠ '.') :
    unsignedDecimal chars = none := by
  have hhead : isDigit c = false := by
    have hnot := @List.head_dropWhile_not Char isDigit chars (by simp [hrest])
    simpa [hrest] using hnot
  have hfraction : (match c :: rest with
      | '.' :: rest => rest
      | rest => rest) = c :: rest := by
    split
    next heq => exact absurd (List.cons.inj heq).1 hpoint
    next => rfl
  unfold unsignedDecimal
  rw [hrest, hfraction]
  exact if_neg (by simp [hhead])

theorem unsignedLiteral_of_decimal {chars : List Char} {value : ℚ}
    (hvalue : unsignedDecimal chars = some value) (hpositive : 0 < value) :
    unsignedLiteral chars = some value := by
  have hinfinity : chars ≠ "Infinity".toList := by
    rintro rfl
    have hrefused : unsignedDecimal "Infinity".toList = none := by decide
    rw [hrefused] at hvalue
    cases hvalue
  unfold unsignedLiteral
  rw [if_neg hinfinity]
  cases hrest : chars.dropWhile isDigit with
  | nil =>
      unfold unsignedDecimal at hvalue
      rw [hrest] at hvalue
      obtain rfl := Option.some.inj hvalue
      exact literal_of_digits hpositive
  | cons c rest =>
      by_cases hpoint : c = '.'
      · subst hpoint
        unfold unsignedDecimal at hvalue
        rw [hrest] at hvalue
        have hread : (if rest.all isDigit = true then
            some ((digitsValue 10 (chars.takeWhile isDigit ++ rest) : ℚ) / 10 ^ rest.length)
          else none) = some value := hvalue
        split_ifs at hread with hdigits
        have hall := List.all_eq_true.mp hdigits
        change (if chars.takeWhile isDigit = [] ∧ rest.takeWhile isDigit = [] then none
          else (exponentOf (rest.dropWhile isDigit)).map fun exponent =>
            (digitsValue 10 (chars.takeWhile isDigit ++ rest.takeWhile isDigit) : ℚ) *
              10 ^ (exponent - (rest.takeWhile isDigit).length : ℤ)) = some value
        rw [List.takeWhile_eq_self_iff.mpr hall, List.dropWhile_eq_nil_iff.mpr hall]
        obtain rfl := Option.some.inj hread
        exact literal_of_digits hpositive
      · rw [unsignedDecimal_eq_none hrest hpoint] at hvalue
        cases hvalue

theorem unsignedDecimal_nonneg {chars : List Char} {value : ℚ}
    (hvalue : unsignedDecimal chars = some value) : 0 ≤ value := by
  unfold unsignedDecimal at hvalue
  dsimp only at hvalue
  split_ifs at hvalue
  obtain rfl := Option.some.inj hvalue
  positivity

/-- A positive decimal text has no sign. -/
theorem unsignedDecimal_of_pos {text : String} {value : ℚ} (hvalue : decimalValue text = some value)
    (hpositive : 0 < value) : unsignedDecimal text.toList = some value := by
  unfold decimalValue at hvalue
  split at hvalue
  next rest heq =>
    obtain ⟨magnitude, hmagnitude, rfl⟩ := Option.map_eq_some_iff.mp hvalue
    have hnonneg := unsignedDecimal_nonneg hmagnitude
    linarith
  next => exact hvalue

/-- `Number` reads a positive decimal text as the nearest double. -/
theorem numberOf_of_decimal {text : String} {value : ℚ}
    (hvalue : decimalValue (trim text) = some value) (hpositive : 0 < value) :
    numberOf text = some (nearestDouble value) := by
  have hunsigned := unsignedDecimal_of_pos hvalue hpositive
  have hliteral := unsignedLiteral_of_decimal hunsigned hpositive
  have hmark : ∀ {first c : Char} {rest : List Char}, (trim text).toList = first :: c :: rest →
      isDigit first = true → isDigit c = false → c ≠ '.' → False := by
    intro first c rest heq hfirst hc hpoint
    rw [heq, @unsignedDecimal_eq_none _ rest c (by simp [hfirst, hc]) hpoint] at hunsigned
    cases hunsigned
  have hsign : ∀ {c : Char} {rest : List Char}, (trim text).toList = c :: rest →
      isDigit c = false → c ≠ '.' → False := by
    intro c rest heq hc hpoint
    rw [heq, @unsignedDecimal_eq_none _ rest c (by simp [hc]) hpoint] at hunsigned
    cases hunsigned
  unfold numberOf
  split
  next heq =>
    rw [heq] at hunsigned
    obtain rfl := Option.some.inj hunsigned
    simp [digitsValue] at hpositive
  next heq => exact (hmark heq (by decide) (by decide) (by decide)).elim
  next heq => exact (hmark heq (by decide) (by decide) (by decide)).elim
  next heq => exact (hmark heq (by decide) (by decide) (by decide)).elim
  next heq => exact (hmark heq (by decide) (by decide) (by decide)).elim
  next heq => exact (hmark heq (by decide) (by decide) (by decide)).elim
  next heq => exact (hmark heq (by decide) (by decide) (by decide)).elim
  next heq => exact (hsign heq (by decide) (by decide)).elim
  next heq => exact (hsign heq (by decide) (by decide)).elim
  next => rw [hliteral, Option.map_some]

end WizPay.Backend
