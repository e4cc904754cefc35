import Mathlib.Data.List.Induction
import WizPay.Backend.Text

/-!
# Base64url and UTF-8

What `Buffer` makes of a text and of its base64url form. The decoder stops at the
first padding sign, skips what is no digit, and drops bits that fill no byte; what
was encoded is decoded to itself.
-/

namespace WizPay.Backend

/-! ## Digits -/

/-- The digit of a value below sixty-four. -/
def base64Digit (value : ℕ) : Char :=
  if value < 26 then Char.ofNat (value + 65)
  else if value < 52 then Char.ofNat (value + 71)
  else if value < 62 then Char.ofNat (value - 4)
  else if value = 62 then '-'
  else '_'

/-- The value of a digit of either base64 alphabet, by the low byte of its code. -/
def base64Value (unit : ℕ) : Option ℕ :=
  let code := unit % 256
  if 65 ≤ code ∧ code ≤ 90 then some (code - 65)
  else if 97 ≤ code ∧ code ≤ 122 then some (code - 71)
  else if 48 ≤ code ∧ code ≤ 57 then some (code + 4)
  else if code = 43 ∨ code = 45 then some 62
  else if code = 47 ∨ code = 95 then some 63
  else none

/-- The UTF-16 code units of a character. -/
def utf16Units (c : Char) : List ℕ :=
  let code := c.val.toNat
  if code < 0x10000 then [code]
  else [0xD800 + (code - 0x10000) / 0x400, 0xDC00 + (code - 0x10000) % 0x400]

/-! ## Bytes -/

/-- The base64url form of bytes, without padding. -/
def encodeBase64 : List UInt8 → List Char
  | first :: second :: third :: rest =>
      let group := first.toNat * 65536 + second.toNat * 256 + third.toNat
      base64Digit (group / 262144) :: base64Digit (group / 4096 % 64) ::
        base64Digit (group / 64 % 64) :: base64Digit (group % 64) :: encodeBase64 rest
  | [first, second] =>
      let group := (first.toNat * 256 + second.toNat) * 4
      [base64Digit (group / 4096), base64Digit (group / 64 % 64), base64Digit (group % 64)]
  | [first] => [base64Digit (first.toNat * 16 / 64), base64Digit (first.toNat * 16 % 64)]
  | [] => []

/-- The whole bytes in digits of six bits. -/
def joinSextets : List ℕ → List UInt8
  | first :: second :: third :: fourth :: rest =>
      let group := ((first * 64 + second) * 64 + third) * 64 + fourth
      .ofNat (group / 65536) :: .ofNat (group / 256 % 256) :: .ofNat (group % 256) ::
        joinSextets rest
  | [first, second, third] =>
      let group := ((first * 64 + second) * 64 + third) / 4
      [.ofNat (group / 256), .ofNat (group % 256)]
  | [first, second] => [.ofNat ((first * 64 + second) / 16)]
  | _ => []

/-- `Buffer.from(text, 'base64url')`. -/
def decodeBase64 (text : String) : List UInt8 :=
  joinSextets (((text.toList.takeWhile (· ≠ '=')).flatMap utf16Units).filterMap base64Value)

/-- `Buffer.from(text)`. -/
def utf8Bytes (text : String) : List UInt8 := text.toUTF8.data.toList

/-- `buffer.toString()`; how ill-formed bytes are replaced is left open. -/
def utf8Text (replaced : List UInt8 → String) (bytes : List UInt8) : String :=
  (String.fromUTF8? ⟨bytes.toArray⟩).getD (replaced bytes)

/-- `Buffer.from(text).toString('base64url')`. -/
def toBase64url (text : String) : String := String.ofList (encodeBase64 (utf8Bytes text))

/-- `Buffer.from(text, 'base64url').toString()`. -/
def fromBase64url (replaced : List UInt8 → String) (text : String) : String :=
  utf8Text replaced (decodeBase64 text)

/-! ## What was encoded is decoded to itself -/

theorem base64Digit_spec {value : ℕ} (hvalue : value < 64) : base64Digit value ≠ '=' ∧
    (utf16Units (base64Digit value)).filterMap base64Value = [value] := by
  have hall : ∀ value < 64, base64Digit value ≠ '=' ∧
      (utf16Units (base64Digit value)).filterMap base64Value = [value] := by decide +kernel
  exact hall value hvalue

/-- The values of digits, read as the decoder reads a text. -/
def sextets (chars : List Char) : List ℕ :=
  ((chars.takeWhile (· ≠ '=')).flatMap utf16Units).filterMap base64Value

theorem sextets_digit {value : ℕ} (hvalue : value < 64) (rest : List Char) :
    sextets (base64Digit value :: rest) = value :: sextets rest := by
  obtain ⟨hmark, hread⟩ := base64Digit_spec hvalue
  unfold sextets
  rw [List.takeWhile_cons_of_pos (by simpa using hmark), List.flatMap_cons,
    List.filterMap_append, hread, List.singleton_append]

theorem ofNat_toNat_eq {value : ℕ} {byte : UInt8} (hsame : value = byte.toNat) :
    UInt8.ofNat value = byte := by
  rw [hsame, UInt8.ofNat_toNat]

theorem joinSextets_encodeBase64 (bytes : List UInt8) :
    joinSextets (sextets (encodeBase64 bytes)) = bytes := by
  -- three bytes are four digits; one or two bytes at the end are two or three
  induction bytes using encodeBase64.induct with
  | case1 first second third rest ih =>
    have hfirst := first.toNat_lt
    have hsecond := second.toNat_lt
    have hthird := third.toNat_lt
    rw [encodeBase64, sextets_digit (by omega), sextets_digit (by omega),
      sextets_digit (by omega), sextets_digit (by omega), joinSextets, ih,
      @ofNat_toNat_eq _ first (by omega), @ofNat_toNat_eq _ second (by omega),
      @ofNat_toNat_eq _ third (by omega)]
  | case2 first second =>
    have hfirst := first.toNat_lt
    have hsecond := second.toNat_lt
    rw [encodeBase64, sextets_digit (by omega), sextets_digit (by omega),
      sextets_digit (by omega)]
    change [UInt8.ofNat _, UInt8.ofNat _] = _
    rw [@ofNat_toNat_eq _ first (by omega), @ofNat_toNat_eq _ second (by omega)]
  | case3 first =>
    have hfirst := first.toNat_lt
    rw [encodeBase64, sextets_digit (by omega), sextets_digit (by omega)]
    change [UInt8.ofNat _] = _
    rw [@ofNat_toNat_eq _ first (by omega)]
  | case4 => rfl

theorem utf8Text_utf8Bytes (replaced : List UInt8 → String) (text : String) :
    utf8Text replaced (utf8Bytes text) = text := by
  have hread : String.fromUTF8? text.toUTF8 = some text := dif_pos text.isValidUTF8
  change (String.fromUTF8? text.toUTF8).getD _ = text
  rw [hread, Option.getD_some]

/-- A text survives base64url. -/
theorem fromBase64url_toBase64url (replaced : List UInt8 → String) (text : String) :
    fromBase64url replaced (toBase64url text) = text := by
  unfold fromBase64url decodeBase64 toBase64url
  rw [String.toList_ofList]
  exact (congrArg (utf8Text replaced) (joinSextets_encodeBase64 _)).trans
    (utf8Text_utf8Bytes replaced text)

end WizPay.Backend
