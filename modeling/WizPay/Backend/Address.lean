import Mathlib.Data.Bool.AllAny
import Mathlib.Data.List.Induction
import Mathlib.Tactic.IntervalCases
import WizPay.Backend.Text
import WizPay.Evm.Contract

/-!
# Addresses between text and chain

An address text is forty hex digits in any letter case, and stands for the
number they spell. Two texts stand for one address exactly when they agree in
lower case.
-/

namespace WizPay.Backend

open Evm

/-- The number a list of hex digits spells. -/
def hexNat (digits : List Char) : ℕ := digits.foldl (fun value c => value * 16 + hexValue c) 0

/-- The last `n` lower-case hex digits of a number. -/
def hexDigits : ℕ → ℕ → List Char
  | 0, _ => []
  | n + 1, value => hexDigits n (value / 16) ++ [hexDigit (value % 16)]

/-- The address a text stands for. -/
def addressOf (text : String) : Option Address :=
  if isHexText 40 text then some (BitVec.ofNat 160 (hexNat (text.toList.drop 2))) else none

/-- The lower-case text of an address. -/
def addressText (address : Address) : String :=
  String.ofList ('0' :: 'x' :: hexDigits 40 address.toNat)

/-! ## One digit -/

theorem isHexDigit_cases {c : Char} (hdigit : isHexDigit c = true) :
    c ∈ "0123456789abcdefABCDEF".toList := by
  simp only [isHexDigit, isDigit, Bool.or_eq_true, Bool.and_eq_true, decide_eq_true_eq] at hdigit
  have hval : c = Char.ofNat c.toNat := (Char.ofNat_toNat c).symm
  have hbounds : (48 ≤ c.toNat ∧ c.toNat ≤ 57) ∨ (97 ≤ c.toNat ∧ c.toNat ≤ 102) ∨
      (65 ≤ c.toNat ∧ c.toNat ≤ 70) := by
    rcases hdigit with (⟨hlow, hhigh⟩ | ⟨hlow, hhigh⟩) | ⟨hlow, hhigh⟩
    · exact .inl ⟨hlow, hhigh⟩
    · exact .inr (.inl ⟨hlow, hhigh⟩)
    · exact .inr (.inr ⟨hlow, hhigh⟩)
  rw [hval]
  generalize c.toNat = n at hbounds
  rcases hbounds with ⟨hlow, hhigh⟩ | ⟨hlow, hhigh⟩ | ⟨hlow, hhigh⟩ <;>
    interval_cases n <;> decide

theorem hexValue_lt {c : Char} (hdigit : isHexDigit c = true) : hexValue c < 16 := by
  have hall : ∀ c ∈ "0123456789abcdefABCDEF".toList, hexValue c < 16 :=
    List.all_iff_forall_prop.mp (by decide)
  exact hall c (isHexDigit_cases hdigit)

theorem hexDigit_hexValue {c : Char} (hdigit : isHexDigit c = true) :
    hexDigit (hexValue c) = c.toLower := by
  have hall : ∀ c ∈ "0123456789abcdefABCDEF".toList, hexDigit (hexValue c) = c.toLower :=
    List.all_iff_forall_prop.mp (by decide)
  exact hall c (isHexDigit_cases hdigit)

theorem hexValue_toLower {c : Char} (hdigit : isHexDigit c = true) :
    hexValue c.toLower = hexValue c := by
  have hall : ∀ c ∈ "0123456789abcdefABCDEF".toList, hexValue c.toLower = hexValue c :=
    List.all_iff_forall_prop.mp (by decide)
  exact hall c (isHexDigit_cases hdigit)

theorem hexDigit_spec {value : ℕ} (hlt : value < 16) :
    isHexDigit (hexDigit value) = true ∧ hexValue (hexDigit value) = value := by
  interval_cases value <;> decide

/-! ## Many digits -/

theorem hexNat_append (digits : List Char) (c : Char) :
    hexNat (digits ++ [c]) = hexNat digits * 16 + hexValue c := by
  rw [hexNat, List.foldl_append]
  rfl

theorem hexNat_lt {digits : List Char} (hdigits : ∀ c ∈ digits, isHexDigit c = true) :
    hexNat digits < 16 ^ digits.length := by
  induction digits using List.reverseRecOn with
  | nil => exact Nat.one_pos
  | append_singleton digits c ih =>
      have hlast := hexValue_lt (hdigits c (by simp))
      have hrest := ih fun d hmember => hdigits d (by simp [hmember])
      rw [hexNat_append, List.length_append, List.length_singleton, Nat.pow_succ]
      omega

/-- The digits of the number a text spells are the text in lower case. -/
theorem hexDigits_hexNat {digits : List Char} (hdigits : ∀ c ∈ digits, isHexDigit c = true) :
    hexDigits digits.length (hexNat digits) = digits.map Char.toLower := by
  induction digits using List.reverseRecOn with
  | nil => rfl
  | append_singleton digits c ih =>
      have hlast := hexValue_lt (hdigits c (by simp))
      have hrest := ih fun d hmember => hdigits d (by simp [hmember])
      rw [List.length_append, List.length_singleton, hexDigits, hexNat_append,
        show (hexNat digits * 16 + hexValue c) / 16 = hexNat digits by omega,
        show (hexNat digits * 16 + hexValue c) % 16 = hexValue c by omega, hrest,
        hexDigit_hexValue (hdigits c (by simp)), List.map_append]
      rfl

theorem hexDigits_length (n value : ℕ) : (hexDigits n value).length = n := by
  induction n generalizing value with
  | zero => rfl
  | succ n ih => rw [hexDigits, List.length_append, ih]; rfl

theorem hexDigits_isHexDigit (n value : ℕ) : ∀ c ∈ hexDigits n value, isHexDigit c = true := by
  induction n generalizing value with
  | zero => exact fun c hmember => nomatch hmember
  | succ n ih =>
      intro c hmember
      rcases List.mem_append.mp hmember with hmember | hmember
      · exact ih _ c hmember
      · rw [List.mem_singleton.mp hmember]
        exact (hexDigit_spec (Nat.mod_lt _ (by decide))).1

theorem hexNat_hexDigits {n value : ℕ} (hlt : value < 16 ^ n) :
    hexNat (hexDigits n value) = value := by
  induction n generalizing value with
  | zero => exact (Nat.lt_one_iff.mp hlt).symm
  | succ n ih =>
      rw [hexDigits, hexNat_append, (hexDigit_spec (Nat.mod_lt _ (by decide))).2,
        ih (by rw [Nat.pow_succ] at hlt; omega)]
      omega

/-! ## Address texts -/

/-- A well-formed address text, by its digits. -/
theorem isHexText_iff {n : ℕ} {text : String} : isHexText n text = true ↔
    ∃ digits, text = String.ofList ('0' :: 'x' :: digits) ∧ digits.length = n ∧
      ∀ c ∈ digits, isHexDigit c = true := by
  unfold isHexText
  constructor
  · intro htext
    split at htext
    · next digits hchars =>
        simp only [Bool.and_eq_true, decide_eq_true_eq, List.all_eq_true] at htext
        exact ⟨digits, by rw [← hchars, String.ofList_toList], htext.1, htext.2⟩
    · cases htext
  · rintro ⟨digits, rfl, hlength, hdigits⟩
    simpa [hlength] using hdigits

theorem addressOf_ofList {digits : List Char} (hlength : digits.length = 40)
    (hdigits : ∀ c ∈ digits, isHexDigit c = true) :
    addressOf (String.ofList ('0' :: 'x' :: digits)) = some (BitVec.ofNat 160 (hexNat digits)) := by
  rw [addressOf, if_pos (isHexText_iff.mpr ⟨digits, rfl, hlength, hdigits⟩)]
  simp

theorem addressOf_isSome {text : String} : (addressOf text).isSome = isHexText 40 text := by
  unfold addressOf
  split <;> simp_all

/-- Reading a text and writing the address back gives the text in lower case. -/
theorem addressText_addressOf {text : String} {address : Address}
    (htext : addressOf text = some address) : addressText address = asciiLower text := by
  have hvalid : isHexText 40 text = true := by rw [← addressOf_isSome, htext]; rfl
  obtain ⟨digits, rfl, hlength, hdigits⟩ := isHexText_iff.mp hvalid
  rw [addressOf_ofList hlength hdigits, Option.some.injEq] at htext
  have hlt : hexNat digits < 2 ^ 160 :=
    calc hexNat digits < 16 ^ digits.length := hexNat_lt hdigits
      _ = 2 ^ 160 := by rw [hlength]; rfl
  rw [← htext, addressText, BitVec.toNat_ofNat, Nat.mod_eq_of_lt hlt, ← hlength,
    hexDigits_hexNat hdigits, asciiLower, String.toList_ofList]
  rfl

@[simp] theorem addressOf_addressText (address : Address) :
    addressOf (addressText address) = some address := by
  rw [addressText, addressOf_ofList (hexDigits_length _ _) (hexDigits_isHexDigit _ _),
    hexNat_hexDigits address.isLt, BitVec.ofNat_toNat, BitVec.setWidth_eq]

/-- Letter case does not matter. -/
theorem addressOf_eq_iff {first second : String} {address : Address}
    (hfirst : addressOf first = some address) (hsecond : isHexText 40 second = true) :
    addressOf second = some address ↔ asciiLower first = asciiLower second := by
  rw [← addressOf_isSome, Option.isSome_iff_exists] at hsecond
  obtain ⟨other, hother⟩ := hsecond
  rw [hother, Option.some.injEq, ← addressText_addressOf hfirst, ← addressText_addressOf hother]
  constructor
  · rintro rfl
    rfl
  · intro htexts
    have hsame := congrArg addressOf htexts
    rw [addressOf_addressText, addressOf_addressText, Option.some.injEq] at hsame
    exact hsame.symm

/-! ## Checksummed texts -/

section

variable {runtime : Runtime}

theorem cased_digit {c : Char} (hdigit : isHexDigit c = true) (capital : Bool) :
    isHexDigit (if capital then c.toLower.toUpper else c.toLower) = true ∧
      (if capital then c.toLower.toUpper else c.toLower).toLower = c.toLower := by
  have hall : ∀ c ∈ "0123456789abcdefABCDEF".toList, ∀ capital : Bool,
      isHexDigit (if capital then c.toLower.toUpper else c.toLower) = true ∧
        (if capital then c.toLower.toUpper else c.toLower).toLower = c.toLower :=
    List.all_iff_forall_prop.mp (by decide)
  exact hall c (isHexDigit_cases hdigit) capital

/-- Checksumming changes letter case only. -/
theorem checksumAddress_spec {text : String} (htext : isHexText 40 text = true) :
    isHexText 40 (checksumAddress runtime text) = true ∧
      asciiLower (checksumAddress runtime text) = asciiLower text := by
  obtain ⟨digits, rfl, hlength, hdigits⟩ := isHexText_iff.mp htext
  have hcased : ∀ i (hi : i < digits.length), _ := fun i hi => cased_digit
    (hdigits digits[i] (List.getElem_mem hi)) (decide (8 ≤ runtime.keccakNibble
      (String.ofList (digits.map Char.toLower)) i))
  simp only [decide_eq_true_eq] at hcased
  constructor
  · refine isHexText_iff.mpr ⟨_, rfl, by simpa using hlength, ?_⟩
    intro c hmember
    obtain ⟨i, hi, rfl⟩ := List.mem_mapIdx.mp hmember
    simpa using (hcased i (by simpa using hi)).1
  · simp only [checksumAddress, asciiLower, String.toList_ofList, List.map_cons, List.drop_succ_cons,
      List.drop_zero]
    refine congrArg (fun digits => String.ofList (_ :: _ :: digits)) ?_
    refine List.ext_getElem (by simp) fun i hi _ => ?_
    simpa using (hcased i (by simpa using hi)).2

theorem getAddress_eq_some {text address : String} :
    getAddress runtime text = some address ↔
      isHexText 40 text = true ∧ address = checksumAddress runtime text := by
  unfold getAddress
  split
  · next htext => simp [htext, eq_comm]
  · next htext => simp [htext]

/-- What `getAddress` returns is an address text that differs in letter case only. -/
theorem getAddress_spec {text address : String} (haddress : getAddress runtime text = some address) :
    isHexText 40 address = true ∧ asciiLower address = asciiLower text := by
  obtain ⟨htext, rfl⟩ := getAddress_eq_some.mp haddress
  exact checksumAddress_spec htext

/-- Letter case does not matter to the checksum. -/
theorem checksumAddress_congr {first second : String} (hsame : asciiLower first = asciiLower second) :
    checksumAddress runtime first = checksumAddress runtime second := by
  have hdigits (text : String) :
      (text.toList.drop 2).map Char.toLower = (asciiLower text).toList.drop 2 := by
    rw [asciiLower, String.toList_ofList, List.map_drop]
  unfold checksumAddress
  rw [hdigits first, hdigits second, hsame]

/-- A checksummed text is an address, and its own checksum. -/
theorem getAddress_isAddress {text address : String} (haddress : getAddress runtime text = some address) :
    isAddress runtime address = true ∧ getAddress runtime address = some address := by
  obtain ⟨htext, hlower⟩ := getAddress_spec haddress
  have hchecksum : checksumAddress runtime address = address := by
    rw [checksumAddress_congr hlower]
    exact (getAddress_eq_some.mp haddress).2.symm
  refine ⟨?_, getAddress_eq_some.mpr ⟨htext, hchecksum.symm⟩⟩
  rw [isAddress, htext, hchecksum]
  simp

theorem asciiLower_isHexText {text : String} (htext : isHexText 40 text = true) :
    isHexText 40 (asciiLower text) = true ∧ asciiLower (asciiLower text) = asciiLower text := by
  have hsome := htext
  rw [← addressOf_isSome, Option.isSome_iff_exists] at hsome
  obtain ⟨address, haddress⟩ := hsome
  have hback := addressOf_addressText address
  rw [← addressText_addressOf haddress]
  refine ⟨by rw [← addressOf_isSome, hback]; rfl, ?_⟩
  exact (addressText_addressOf hback).symm

end

/-! ## Texts of one address -/

variable {runtime : Runtime}

theorem addressOf_getD {text : String} (htext : isHexText 40 text = true) :
    addressOf text = some ((addressOf text).getD 0) := by
  rw [← addressOf_isSome, Option.isSome_iff_exists] at htext
  obtain ⟨address, haddress⟩ := htext
  rw [haddress]
  rfl

theorem addressOf_getAddress {text address : String} (haddress : getAddress runtime text = some address) :
    addressOf address = addressOf text := by
  obtain ⟨htext, hlower⟩ := getAddress_spec haddress
  obtain ⟨hvalid, -⟩ := getAddress_eq_some.mp haddress
  rw [addressOf_getD hvalid]
  exact (addressOf_eq_iff (addressOf_getD hvalid) htext).mpr hlower.symm

/-- Every text of an address has the same checksum. -/
theorem getAddress_of_addressOf {text : String} {address : Address}
    (haddress : addressOf text = some address) :
    getAddress runtime text = some (checksumAddress runtime (addressText address)) := by
  have htext : isHexText 40 text = true := by
    rw [← addressOf_isSome, haddress]
    rfl
  have hsame : asciiLower (addressText address) = asciiLower text :=
    (addressOf_eq_iff (addressOf_addressText address) htext).mp haddress
  exact getAddress_eq_some.mpr ⟨htext, checksumAddress_congr hsame⟩

theorem isAddress_addressText (address : Address) : isAddress runtime (addressText address) = true := by
  have htext : isHexText 40 (addressText address) = true := by
    rw [← addressOf_isSome, addressOf_addressText]
    rfl
  rw [isAddress, htext, ← addressText_addressOf (addressOf_addressText address)]
  simp

theorem toLowerCase_of_addressOf (hruntime : runtime.Documented) {text : String} {address : Address}
    (haddress : addressOf text = some address) : runtime.toLowerCase text = addressText address := by
  have htext : isHexText 40 text = true := by
    rw [← addressOf_isSome, haddress]
    rfl
  have hascii : text.toList.all (·.val < 0x80) = true := by
    obtain ⟨digits, rfl, -, hdigits⟩ := isHexText_iff.mp htext
    rw [String.toList_ofList, List.all_eq_true]
    intro c hmem
    rcases List.mem_cons.mp hmem with rfl | hmem
    · rfl
    rcases List.mem_cons.mp hmem with rfl | hmem
    · rfl
    have hall : ∀ c ∈ "0123456789abcdefABCDEF".toList, decide (c.val < 0x80) = true :=
      List.all_iff_forall_prop.mp (by decide)
    exact hall c (isHexDigit_cases (hdigits c hmem))
  rw [hruntime.toLowerCase_ascii _ hascii, addressText_addressOf haddress]

end WizPay.Backend
