import Mathlib.Algebra.GroupWithZero.Nat
import Mathlib.Data.List.Basic
import Mathlib.Data.Nat.Notation

/-!
# Text and addresses in the backend

The string operations the backend relies on, and the address helpers of its
Ethereum library. Hashes and full Unicode case mapping are parameters of the
runtime; everything else is computed as documented.
-/

namespace WizPay.Backend

/-- Runtime functions whose tables or rounds the model does not spell out. -/
structure Runtime where
  /-- The nibbles of `keccak256` of a text, by position. -/
  keccakNibble : String → ℕ → ℕ
  /-- `createHash('sha256').update(text).digest('hex')`. -/
  sha256 : String → String
  toLowerCase : String → String
  toUpperCase : String → String

/-! ## Character classes -/

/-- White space and line terminators, as `String.prototype.trim` removes them. -/
def isSpace (c : Char) : Bool :=
  (0x09 ≤ c.val && c.val ≤ 0x0D) || c.val = 0x20 || c.val = 0xA0 || c.val = 0x1680 ||
    (0x2000 ≤ c.val && c.val ≤ 0x200A) || c.val = 0x2028 || c.val = 0x2029 || c.val = 0x202F ||
    c.val = 0x205F || c.val = 0x3000 || c.val = 0xFEFF

def trim (text : String) : String :=
  String.ofList ((text.toList.dropWhile isSpace).reverse.dropWhile isSpace).reverse

def isDigit (c : Char) : Bool := '0' ≤ c && c ≤ '9'

def isHexDigit (c : Char) : Bool := isDigit c || ('a' ≤ c && c ≤ 'f') || ('A' ≤ c && c ≤ 'F')

/-- The value of a hex digit. -/
def hexValue (c : Char) : ℕ :=
  if isDigit c then c.val.toNat - 48
  else if 'a' ≤ c ∧ c ≤ 'f' then c.val.toNat - 87
  else if 'A' ≤ c ∧ c ≤ 'F' then c.val.toNat - 55
  else 0

/-- The lower-case digit of a value below sixteen. -/
def hexDigit (value : ℕ) : Char := (Nat.toDigits 16 value).headD '0'

/-- `String.prototype.length`: UTF-16 code units. -/
def utf16Length (text : String) : ℕ :=
  (text.toList.map fun c => if c.val < 0x10000 then 1 else 2).sum

/-- `toLowerCase` on a text of hex digits. -/
def asciiLower (text : String) : String := String.ofList (text.toList.map Char.toLower)

def asciiUpper (text : String) : String := String.ofList (text.toList.map Char.toUpper)

/-- The shape `/^0x[0-9a-fA-F]{n}$/`. -/
def isHexText (n : ℕ) (text : String) : Bool :=
  match text.toList with
  | '0' :: 'x' :: digits => digits.length = n && digits.all isHexDigit
  | _ => false

/-- The shape `/^[1-9]\d*$/` of positive base units. -/
def isBaseUnits (text : String) : Bool :=
  match text.toList with
  | first :: rest => isDigit first && first ≠ '0' && rest.all isDigit
  | [] => false

/-- `BigInt` of a text of decimal digits. -/
def bigInt (text : String) : ℕ :=
  text.toList.foldl (fun value c => value * 10 + (c.val.toNat - '0'.val.toNat)) 0

/-! ## Addresses -/

variable (runtime : Runtime)

/-- `checksumAddress`: letters are capital where the digest of the lower-case
digits has a nibble of at least eight. -/
def checksumAddress (address : String) : String :=
  let digits := (address.toList.drop 2).map Char.toLower
  String.ofList ('0' :: 'x' :: digits.mapIdx fun i c =>
    if 8 ≤ runtime.keccakNibble (String.ofList digits) i then c.toUpper else c)

/-- `isAddress`: forty hex digits, all lower case or correctly checksummed. -/
def isAddress (address : String) : Bool :=
  isHexText 40 address && (asciiLower address = address || checksumAddress runtime address = address)

/-- `getAddress` accepts any letter case and throws on anything else. -/
def getAddress (address : String) : Option String :=
  if isHexText 40 address then some (checksumAddress runtime address) else none

/-- `isAddressEqual` throws unless both texts are addresses. -/
def isAddressEqual (first second : String) : Option Bool :=
  if isHexText 40 first && isHexText 40 second then some (asciiLower first = asciiLower second) else none

/-- A digest as `digest('hex')` writes it. -/
def isHexDigest (text : String) : Bool :=
  text.toList.length = 64 && text.toList.all fun c => isHexDigit c && c.toLower = c

/-- What is documented of the runtime functions. -/
structure Runtime.Documented (runtime : Runtime) : Prop where
  sha256_hex : ∀ text, isHexDigest (runtime.sha256 text) = true
  toLowerCase_ascii : ∀ text, text.toList.all (·.val < 0x80) = true →
    runtime.toLowerCase text = asciiLower text

/-- What `toLowerCase` returns has no capital letter left. -/
def Runtime.LowerCases (runtime : Runtime) : Prop :=
  ∀ text, asciiLower (runtime.toLowerCase text) = runtime.toLowerCase text

/-- A runtime that knows the SHA-256 digests of finitely many texts, and the
Keccak digests of the address texts with letters. -/
def Runtime.ofTable (sha256 keccak : List (String × String)) : Runtime where
  keccakNibble := fun text i => hexValue (((keccak.lookup text).getD "").toList.getD i '0')
  sha256 := fun text => (sha256.lookup text).getD (String.ofList (List.replicate 64 '0'))
  toLowerCase := asciiLower
  toUpperCase := asciiUpper

theorem Runtime.ofTable_documented {sha256 keccak : List (String × String)}
    (hdigests : sha256.all (fun row => isHexDigest row.2) = true) :
    (Runtime.ofTable sha256 keccak).Documented where
  sha256_hex text := by
    simp only [Runtime.ofTable]
    cases hlookup : sha256.lookup text with
    | none => decide +kernel
    | some digest =>
        obtain ⟨_, _, rfl, -⟩ := List.lookup_eq_some_iff.mp hlookup
        exact List.all_eq_true.mp hdigests (text, digest) (by simp)
  toLowerCase_ascii _ _ := rfl

theorem asciiLower_asciiLower (text : String) : asciiLower (asciiLower text) = asciiLower text := by
  have hidempotent : Char.toLower ∘ Char.toLower = Char.toLower := by
    funext c
    delta Char.toLower
    simp only [Function.comp_apply]
    split <;> grind
  simp [asciiLower, hidempotent]

theorem trim_eq_self {text : String} (htext : ∀ c ∈ text.toList, isSpace c = false) :
    trim text = text := by
  have hdrop : ∀ {chars : List Char}, (∀ c ∈ chars, isSpace c = false) →
      chars.dropWhile isSpace = chars := by
    intro chars hchars
    cases chars with
    | nil => rfl
    | cons c rest => rw [List.dropWhile_cons_of_neg (by simp [hchars c List.mem_cons_self])]
  rw [trim, hdrop htext, hdrop (by simpa using htext), List.reverse_reverse, String.ofList_toList]

theorem Runtime.ofTable_lowerCases (sha256 keccak : List (String × String)) :
    (Runtime.ofTable sha256 keccak).LowerCases := asciiLower_asciiLower

def zeroAddress : String := "0x0000000000000000000000000000000000000000"

end WizPay.Backend
