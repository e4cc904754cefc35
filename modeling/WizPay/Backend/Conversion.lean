import Mathlib.Data.Rat.Floor
import WizPay.Backend.Json

/-!
# Conversion to a number

`Number` of a text and of a JSON value. A number is the rational that its double
stands for, and none for `NaN`; what no finite double reaches is `±2 ^ 1024`.
-/

namespace WizPay.Backend

/-! ## Doubles -/

/-- The nearest integer, ties to the even one. -/
def roundEven (value : ℚ) : ℤ :=
  let low := ⌊value⌋
  if value - low < 1 / 2 then low else if 1 / 2 < value - low then low + 1 else low + low % 2

/-- The greatest power of two that is not above a positive rational. -/
def binaryExponent (value : ℚ) : ℤ :=
  let exponent : ℤ := value.num.natAbs.log2 - value.den.log2
  if |value| < 2 ^ exponent then exponent - 1 else exponent

/-- The nearest double: 53 significant bits, and none below `2 ^ (-1074)`. -/
def nearestDouble (value : ℚ) : ℚ :=
  let unit : ℚ := 2 ^ max (binaryExponent value - 52) (-1074)
  max (-2 ^ 1024) (min (2 ^ 1024) (roundEven (value / unit) * unit))

/-! ## Texts -/

/-- The number that digits spell in a base. -/
def digitsValue (base : ℕ) (digits : List Char) : ℕ :=
  digits.foldl (fun value c => value * base + hexValue c) 0

/-- The exponent after the digits of a literal. -/
def exponentOf : List Char → Option ℤ
  | [] => some 0
  | mark :: rest =>
      let (negative, digits) := match rest with
        | '-' :: digits => (true, digits)
        | '+' :: digits => (false, digits)
        | digits => (false, digits)
      if (mark = 'e' ∨ mark = 'E') ∧ digits ≠ [] ∧ digits.all isDigit = true then
        some (if negative then -digitsValue 10 digits else digitsValue 10 digits)
      else none

/-- A decimal literal without a sign. -/
def unsignedLiteral (chars : List Char) : Option ℚ :=
  if chars = "Infinity".toList then some (2 ^ 1024)
  else
    let whole := chars.takeWhile isDigit
    let (fraction, rest) := match chars.dropWhile isDigit with
      | '.' :: rest => (rest.takeWhile isDigit, rest.dropWhile isDigit)
      | rest => ([], rest)
    if whole = [] ∧ fraction = [] then none
    else (exponentOf rest).map fun exponent =>
      (digitsValue 10 (whole ++ fraction) : ℚ) * 10 ^ (exponent - fraction.length : ℤ)

/-- A literal of another base, after its mark. -/
def radixLiteral (base : ℕ) (digits : List Char) : Option ℚ :=
  if digits ≠ [] ∧ digits.all (fun c => isHexDigit c && hexValue c < base) = true then
    some (digitsValue base digits)
  else none

/-- `Number` of a text. -/
def numberOf (text : String) : Option ℚ :=
  let literal : Option ℚ := match (trim text).toList with
    | [] => some 0
    | '0' :: 'x' :: digits | '0' :: 'X' :: digits => radixLiteral 16 digits
    | '0' :: 'o' :: digits | '0' :: 'O' :: digits => radixLiteral 8 digits
    | '0' :: 'b' :: digits | '0' :: 'B' :: digits => radixLiteral 2 digits
    | '-' :: rest => (unsignedLiteral rest).map fun value => -value
    | '+' :: rest => unsignedLiteral rest
    | rest => unsignedLiteral rest
  literal.map nearestDouble

/-! ## JSON values -/

namespace Json

mutual

/-- A value has a text unless an object hides the function that makes one. -/
def hasText : Json → Bool
  | array items => itemsHaveText items
  | object fields => fields.all fun field => field.1 ≠ "toString"
  | _ => true

def itemsHaveText : List Json → Bool
  | [] => true
  | item :: rest => item.hasText && itemsHaveText rest

end

/-- `Number` of a property, absent or not. -/
def toNumber : Option Json → Except String (Option ℚ)
  | none => return none
  | some null => return some 0
  | some (bool value) => return some (if value then 1 else 0)
  | some (number text) => return numberOf text
  | some (string text) => return numberOf text
  | some value => if value.hasText then return numberOf value.toText else throw "TypeError"

/-- `first ?? second` of two properties. -/
def orElse (first second : Option Json) : Option Json :=
  match first with
  | none | some null => second
  | some value => some value

def isObject : Json → Bool
  | array _ | object _ => true
  | _ => false

end Json

example : numberOf " 1.3e1\n" = some 13 := by decide +kernel
example : numberOf "0.1" = some (3602879701896397 / 2 ^ 55) := by decide +kernel
example : numberOf "1,5" = none := by decide +kernel

end WizPay.Backend
