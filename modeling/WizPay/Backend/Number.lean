import Mathlib.Algebra.GroupWithZero.Nat
import Mathlib.Data.List.DropRight
import Mathlib.Data.Nat.Notation

/-!
# Numbers

`Number` of a non-negative integer: the nearest double, ties to the even
significand. Integers below `2 ^ 53` are their own
double, and no larger one is rounded below that bound.
-/

namespace WizPay.Backend

/-- The first magnitude that no double reaches; it stands for `Infinity`. -/
def infinity : ℕ := 2 ^ 1024

/-- The double nearest to an integer. -/
def toDouble (n : ℕ) : ℕ :=
  if n < 2 ^ 53 then n
  else
    let unit := 2 ^ (n.log2 - 52)
    let low := n / unit
    let rest := n % unit
    min infinity
      (if unit < 2 * rest ∨ (unit = 2 * rest ∧ low % 2 = 1) then (low + 1) * unit else low * unit)

theorem two_pow_le_infinity {exponent : ℕ} (hle : exponent ≤ 1024) : 2 ^ exponent ≤ infinity := by
  rw [infinity]
  apply Nat.pow_le_pow_right
  · decide
  · exact hle

theorem infinity_eq : ∃ shift, 0 < shift ∧ infinity = 2 ^ 52 * 2 ^ shift := by
  have hsplit {exponent : ℕ} (hlt : 52 < exponent) :
      ∃ shift, 0 < shift ∧ 2 ^ exponent = 2 ^ 52 * 2 ^ shift :=
    ⟨exponent - 52, by omega, by rw [← Nat.pow_add, Nat.add_sub_cancel' hlt.le]⟩
  rw [infinity]
  apply hsplit
  decide

attribute [irreducible] infinity

theorem toDouble_of_lt {n : ℕ} (hlt : n < 2 ^ 53) : toDouble n = n := if_pos hlt

theorem le_toDouble {n : ℕ} (hle : 2 ^ 53 ≤ n) : 2 ^ 53 ≤ toDouble n := by
  have hne : n ≠ 0 := by
    rintro rfl
    exact absurd hle (by decide)
  have hlog : 53 ≤ n.log2 := (Nat.le_log2 hne).mpr hle
  have hunit : 0 < 2 ^ (n.log2 - 52) := Nat.two_pow_pos _
  have hlow : 2 ^ 52 ≤ n / 2 ^ (n.log2 - 52) := by
    rw [Nat.le_div_iff_mul_le hunit, ← Nat.pow_add,
      show 52 + (n.log2 - 52) = n.log2 by omega]
    exact Nat.log2_self_le hne
  have htwo : 2 ≤ 2 ^ (n.log2 - 52) := by
    calc 2 = 2 ^ 1 := rfl
      _ ≤ 2 ^ (n.log2 - 52) := Nat.pow_le_pow_right (by decide) (by omega)
  have hbound : ∀ low, 2 ^ 52 ≤ low → 2 ^ 53 ≤ low * 2 ^ (n.log2 - 52) := fun low hlow =>
    calc 2 ^ 53 = 2 ^ 52 * 2 := rfl
      _ ≤ low * 2 ^ (n.log2 - 52) := Nat.mul_le_mul hlow htwo
  rw [toDouble, if_neg (Nat.not_lt.mpr hle)]
  refine Nat.le_min.mpr ⟨two_pow_le_infinity (by decide), ?_⟩
  split
  · exact hbound _ (Nat.le_succ_of_le hlow)
  · exact hbound _ hlow

/-- Comparing with a bound below `2 ^ 53` may be done before the conversion. -/
theorem toDouble_lt_iff {n bound : ℕ} (hbound : bound ≤ 2 ^ 53) :
    toDouble n < bound ↔ n < bound := by
  by_cases hlt : n < 2 ^ 53
  · rw [toDouble_of_lt hlt]
  · have hle := le_toDouble (Nat.not_lt.mp hlt)
    omega

theorem toDouble_eq_of_lt {n bound : ℕ} (hbound : bound ≤ 2 ^ 53) (hlt : toDouble n < bound) :
    toDouble n = n :=
  toDouble_of_lt (Nat.lt_of_lt_of_le ((toDouble_lt_iff hbound).mp hlt) hbound)

/-! ## The text of a number -/

/-- The decimal with `shift` zeros at its end nearest to a double that still reads back
as it. -/
def roundTrip (value shift : ℕ) : Option ℕ :=
  let low := value / 10 ^ shift
  let nearest := if 2 * (value % 10 ^ shift) < 10 ^ shift then [low, low + 1] else [low + 1, low]
  (nearest.map fun digits => digits * 10 ^ shift).find? fun decimal => toDouble decimal = value

/-- The decimal of the fewest digits, zeros at the end aside, that reads back as a double. -/
def shortestDecimal (value : ℕ) : ℕ :=
  let size := (toString value).length
  ((List.range' 1 size).findSome? fun length => roundTrip value (size - length)).getD value

/-- A decimal as it is printed: in exponent form from `10 ^ 21` on. -/
def decimalText (decimal : ℕ) : String :=
  let digits := (toString decimal).toList
  if digits.length ≤ 21 then toString decimal
  else
    match digits.rdropWhile (· = '0') with
    | [first] => String.singleton first ++ "e+" ++ toString (digits.length - 1)
    | first :: rest =>
        String.singleton first ++ "." ++ String.ofList rest ++ "e+" ++ toString (digits.length - 1)
    | [] => ""

/-- `Number.prototype.toString` of a double that is an integer: from `2 ^ 53` on in the
fewest digits that read back as it. -/
def numberText (value : ℕ) : String :=
  if value < 2 ^ 53 then toString value
  else if value < infinity then decimalText (shortestDecimal value)
  else "Infinity"

/-- `parseInt(digits, 10) + offset`, as the number that is printed. -/
def addNumber (digits offset : ℕ) : String := numberText (toDouble (toDouble digits + offset))

example : numberText 1152921504606846976 = "1152921504606847000" := by decide +kernel
example : numberText (10 ^ 21) = "1e+21" := by decide +kernel
example : numberText (toDouble (10 ^ 23)) = "1e+23" := by decide +kernel

end WizPay.Backend
