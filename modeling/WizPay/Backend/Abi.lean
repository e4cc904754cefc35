import WizPay.Backend.Address

/-!
# ABI encoding

The encoding of a list of arguments: a word for each of them, and the texts behind
the words. Values in place are their own word; a text has the offset of its length
and content there. Lists of the same types have the same encoding only if they are
the same.
-/

namespace WizPay.Backend

open Evm

/-! ## Bytes of a text -/

/-- The bytes of a text in UTF-8, as hex digits. -/
def utf8Digits (text : String) : List Char :=
  text.toUTF8.data.toList.flatMap fun byte => hexDigits 2 byte.toNat

/-- `toHex` of a text. -/
def toHex (text : String) : String := String.ofList ('0' :: 'x' :: utf8Digits text)

theorem hexDigits_inj {n first second : ℕ} (hfirst : first < 16 ^ n) (hsecond : second < 16 ^ n)
    (hsame : hexDigits n first = hexDigits n second) : first = second := by
  rw [← hexNat_hexDigits hfirst, hsame, hexNat_hexDigits hsecond]

/-- Pieces of one length are found back in what they were joined to. -/
theorem flatMap_inj {α β : Type} {f : α → List β} {size : ℕ} (hsize : ∀ item, (f item).length = size)
    (hpositive : 0 < size) (hinj : ∀ first second, f first = f second → first = second) :
    ∀ {first second : List α}, first.flatMap f = second.flatMap f → first = second
  | [], [], _ => rfl
  | [], item :: rest, hsame => by
      have hlength := congrArg List.length hsame
      simp only [List.flatMap_nil, List.flatMap_cons, List.length_append, List.length_nil,
        hsize item] at hlength
      omega
  | item :: rest, [], hsame => by
      have hlength := congrArg List.length hsame
      simp only [List.flatMap_nil, List.flatMap_cons, List.length_append, List.length_nil,
        hsize item] at hlength
      omega
  | item :: rest, other :: others, hsame => by
      rw [List.flatMap_cons, List.flatMap_cons] at hsame
      obtain ⟨hhead, htail⟩ := List.append_inj hsame ((hsize item).trans (hsize other).symm)
      rw [hinj item other hhead, flatMap_inj hsize hpositive hinj htail]

theorem utf8Digits_inj {first second : String} (hsame : utf8Digits first = utf8Digits second) :
    first = second := by
  have hbytes : first.toUTF8.data.toList = second.toUTF8.data.toList := by
    refine @flatMap_inj UInt8 Char (fun byte => hexDigits 2 byte.toNat) 2
      (fun byte => hexDigits_length 2 byte.toNat) (by decide) ?_ _ _ hsame
    intro byte other hdigits
    exact UInt8.toNat_inj.mp (hexDigits_inj byte.toNat_lt other.toNat_lt hdigits)
  exact String.toByteArray_inj.mp (ByteArray.ext (Array.toList_inj.mp hbytes))

theorem toHex_inj {first second : String} (hsame : toHex first = toHex second) : first = second := by
  have hdigits := List.cons.inj (String.ofList_inj.mp hsame)
  exact utf8Digits_inj (List.cons.inj hdigits.2).2

theorem utf8Digits_length (text : String) : (utf8Digits text).length = 2 * text.utf8ByteSize := by
  have hpieces : ∀ bytes : List UInt8,
      (bytes.flatMap fun byte => hexDigits 2 byte.toNat).length = 2 * bytes.length := by
    intro bytes
    induction bytes with
    | nil => rfl
    | cons byte rest ih =>
        rw [List.flatMap_cons, List.length_append, hexDigits_length, ih, List.length_cons]
        omega
  exact hpieces _

/-! ## Arguments -/

inductive AbiKind where
  | uint256 | address | bytes32 | string
deriving DecidableEq

/-- An argument, of one of the types in use. -/
inductive AbiValue where
  | uint256 (value : BitVec 256)
  | address (value : Address)
  | bytes32 (value : BitVec 256)
  | string (text : String)
deriving DecidableEq

namespace AbiValue

def kind : AbiValue → AbiKind
  | uint256 _ => .uint256
  | address _ => .address
  | bytes32 _ => .bytes32
  | string _ => .string

/-- The word of an argument; that of a text is an offset. -/
def word (offset : ℕ) : AbiValue → List Char
  | uint256 value => hexDigits 64 value.toNat
  | address value => hexDigits 64 value.toNat
  | bytes32 value => hexDigits 64 value.toNat
  | string _ => hexDigits 64 offset

/-- What stands behind the words: the length of a text, and its bytes up to a full word. -/
def tail : AbiValue → List Char
  | string text =>
      let digits := utf8Digits text
      hexDigits 64 text.utf8ByteSize ++
        (digits ++ List.replicate ((64 - digits.length % 64) % 64) '0')
  | _ => []

/-- The length of a text is a word. -/
def Fits : AbiValue → Prop
  | string text => text.utf8ByteSize < 16 ^ 64
  | _ => True

end AbiValue

/-- The words of the arguments, the first text being stored at an offset. -/
def abiHeads (offset : ℕ) : List AbiValue → List Char
  | [] => []
  | value :: rest => value.word offset ++ abiHeads (offset + value.tail.length / 2) rest

def encodeAbiParameters (values : List AbiValue) : String :=
  String.ofList ('0' :: 'x' :: (abiHeads (32 * values.length) values ++
    values.flatMap AbiValue.tail))

/-! ## Encodings of the same types -/

namespace AbiValue

variable {value other : AbiValue}

theorem word_length (offset : ℕ) (value : AbiValue) : (value.word offset).length = 64 := by
  cases value <;> exact hexDigits_length _ _

/-- A value in place is read off its word. -/
theorem word_inj {offset otherOffset : ℕ} (hkind : value.kind = other.kind)
    (hword : value.word offset = other.word otherOffset) (hplace : value.kind ≠ .string) :
    value = other := by
  have hsame {width : ℕ} (hwidth : 2 ^ width ≤ 16 ^ 64) (first second : BitVec width)
      (hdigits : hexDigits 64 first.toNat = hexDigits 64 second.toNat) : first = second :=
    BitVec.eq_of_toNat_eq (hexDigits_inj (first.isLt.trans_le hwidth)
      (second.isLt.trans_le hwidth) hdigits)
  cases value with
  | uint256 first =>
      cases other with
      | uint256 second => rw [hsame (by decide) first second hword]
      | _ => cases hkind
  | address first =>
      cases other with
      | address second => rw [hsame (by decide) first second hword]
      | _ => cases hkind
  | bytes32 first =>
      cases other with
      | bytes32 second => rw [hsame (by decide) first second hword]
      | _ => cases hkind
  | string text => exact absurd rfl hplace

/-- A text is read off the front of what stands behind the words. -/
theorem tail_inj (hkind : value.kind = other.kind) (hfits : value.Fits) (hotherFits : other.Fits)
    {rest others : List Char} (hsame : value.tail ++ rest = other.tail ++ others) :
    (value.kind = .string → value = other) ∧ rest = others := by
  cases value with
  | string text =>
      cases other with
      | string second =>
          simp only [tail, List.append_assoc] at hsame
          obtain ⟨hlengths, hcontents⟩ := List.append_inj hsame
            ((hexDigits_length _ _).trans (hexDigits_length _ _).symm)
          have hsize : text.utf8ByteSize = second.utf8ByteSize :=
            hexDigits_inj hfits hotherFits hlengths
          have hdigits : (utf8Digits text).length = (utf8Digits second).length := by
            rw [utf8Digits_length, utf8Digits_length, hsize]
          obtain ⟨htexts, hpadded⟩ := List.append_inj hcontents hdigits
          rw [hdigits] at hpadded
          exact ⟨fun _ => by rw [utf8Digits_inj htexts], List.append_cancel_left hpadded⟩
      | _ => cases hkind
  | uint256 first =>
      cases other with
      | uint256 second => exact ⟨nofun, hsame⟩
      | _ => cases hkind
  | address first =>
      cases other with
      | address second => exact ⟨nofun, hsame⟩
      | _ => cases hkind
  | bytes32 first =>
      cases other with
      | bytes32 second => exact ⟨nofun, hsame⟩
      | _ => cases hkind

end AbiValue

theorem abiHeads_length (offset : ℕ) (values : List AbiValue) :
    (abiHeads offset values).length = 64 * values.length := by
  induction values generalizing offset with
  | nil => rfl
  | cons value rest ih =>
      rw [abiHeads, List.length_append, AbiValue.word_length, ih, List.length_cons]
      omega

theorem abiValues_inj : ∀ {values others : List AbiValue} {offset otherOffset : ℕ},
    values.map AbiValue.kind = others.map AbiValue.kind → (∀ value ∈ values, value.Fits) →
    (∀ other ∈ others, other.Fits) → abiHeads offset values = abiHeads otherOffset others →
    values.flatMap AbiValue.tail = others.flatMap AbiValue.tail → values = others
  | [], [], _, _, _, _, _, _, _ => rfl
  | [], _ :: _, _, _, hkinds, _, _, _, _ => nomatch hkinds
  | _ :: _, [], _, _, hkinds, _, _, _, _ => nomatch hkinds
  | value :: rest, other :: others, _, _, hkinds, hfits, hotherFits, hheads, htails => by
      obtain ⟨hkind, hkinds⟩ := List.cons.inj hkinds
      obtain ⟨hword, hheads⟩ := List.append_inj hheads
        ((AbiValue.word_length _ _).trans (AbiValue.word_length _ _).symm)
      rw [List.flatMap_cons, List.flatMap_cons] at htails
      obtain ⟨htext, htails⟩ := AbiValue.tail_inj hkind (hfits value List.mem_cons_self)
        (hotherFits other List.mem_cons_self) htails
      have hvalue : value = other := by
        by_cases hstring : value.kind = .string
        · exact htext hstring
        · exact AbiValue.word_inj hkind hword hstring
      rw [hvalue, abiValues_inj hkinds (fun item hitem => hfits item (List.mem_cons_of_mem _ hitem))
        (fun item hitem => hotherFits item (List.mem_cons_of_mem _ hitem)) hheads htails]

/-- Arguments of the same types are found back in their encoding. -/
theorem encodeAbiParameters_inj {values others : List AbiValue}
    (hkinds : values.map AbiValue.kind = others.map AbiValue.kind)
    (hfits : ∀ value ∈ values, value.Fits) (hotherFits : ∀ other ∈ others, other.Fits)
    (hsame : encodeAbiParameters values = encodeAbiParameters others) : values = others := by
  have hlength : values.length = others.length := by
    have hmapped := congrArg List.length hkinds
    rwa [List.length_map, List.length_map] at hmapped
  have hdigits := (List.cons.inj (List.cons.inj (String.ofList_inj.mp hsame)).2).2
  obtain ⟨hheads, htails⟩ := List.append_inj hdigits
    ((abiHeads_length _ _).trans ((congrArg (64 * ·) hlength).trans (abiHeads_length _ _).symm))
  exact abiValues_inj hkinds hfits hotherFits hheads htails

end WizPay.Backend
