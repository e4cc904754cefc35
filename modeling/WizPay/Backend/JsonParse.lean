import WizPay.Backend.Address
import WizPay.Backend.JsonText

/-!
# Parsing JSON

`JSON.parse`, with the text that a number prints as left to the runtime. What
`JSON.stringify` made of an object of texts is parsed to that object.
-/

namespace WizPay.Backend.Json

/-! ## Texts -/

def isJsonSpace (c : Char) : Bool := c = ' ' || c = '\t' || c = '\n' || c = '\r'

def skipSpace (chars : List Char) : List Char := chars.dropWhile isJsonSpace

/-- A code unit by its four hex digits. -/
def readUnit : List Char → Option (ℕ × List Char)
  | 'u' :: first :: second :: third :: fourth :: rest =>
      if [first, second, third, fourth].all isHexDigit = true then
        some (hexValue first * 4096 + hexValue second * 256 + hexValue third * 16 +
          hexValue fourth, rest)
      else none
  | _ => none

/-- A character by its code units. A surrogate without its partner is replaced. -/
def readCode (chars : List Char) : Option (Char × List Char) :=
  (readUnit chars).map fun (unit, rest) =>
    if 0xD800 ≤ unit ∧ unit < 0xDC00 then
      match rest with
      | '\\' :: more =>
          match readUnit more with
          | some (low, more) =>
              if 0xDC00 ≤ low ∧ low < 0xE000 then
                (Char.ofNat (0x10000 + (unit - 0xD800) * 0x400 + (low - 0xDC00)), more)
              else (Char.ofNat 0xFFFD, rest)
          | none => (Char.ofNat 0xFFFD, rest)
      | _ => (Char.ofNat 0xFFFD, rest)
    else if 0xDC00 ≤ unit ∧ unit < 0xE000 then (Char.ofNat 0xFFFD, rest)
    else (Char.ofNat unit, rest)

/-- What stands behind a backslash. -/
def readEscape : List Char → Option (Char × List Char)
  | '"' :: rest => some ('"', rest)
  | '\\' :: rest => some ('\\', rest)
  | '/' :: rest => some ('/', rest)
  | 'b' :: rest => some (Char.ofNat 0x08, rest)
  | 'f' :: rest => some (Char.ofNat 0x0C, rest)
  | 'n' :: rest => some (Char.ofNat 0x0A, rest)
  | 'r' :: rest => some (Char.ofNat 0x0D, rest)
  | 't' :: rest => some (Char.ofNat 0x09, rest)
  | chars => readCode chars

/-- A text up to its closing quotation mark. -/
def readString : ℕ → List Char → Option (List Char × List Char)
  | 0, _ => none
  | _ + 1, [] => none
  | fuel + 1, c :: rest =>
      if c = '"' then some ([], rest)
      else if c = '\\' then
        (readEscape rest).bind fun (c, rest) =>
          (readString fuel rest).map fun (text, rest) => (c :: text, rest)
      else if c.val < 0x20 then none
      else (readString fuel rest).map fun (text, rest) => (c :: text, rest)

/-! ## Numbers -/

/-- Digits, at least one of them. -/
def readDigitRun (chars : List Char) : Option (List Char × List Char) :=
  let digits := chars.takeWhile isDigit
  if digits = [] then none else some (digits, chars.dropWhile isDigit)

/-- A number literal: no zeros in front, digits on both sides of a point. -/
def readNumber (chars : List Char) : Option (List Char × List Char) := do
  let (sign, chars) := match chars with
    | '-' :: rest => (['-'], rest)
    | _ => ([], chars)
  let (whole, chars) ← match chars with
    | '0' :: rest => some (['0'], rest)
    | _ => readDigitRun chars
  let (fraction, chars) ← match chars with
    | '.' :: rest => (readDigitRun rest).map fun (digits, rest) => ('.' :: digits, rest)
    | _ => some ([], chars)
  let (exponent, chars) ← match chars with
    | mark :: rest =>
        if mark = 'e' ∨ mark = 'E' then
          let (sign, rest) := match rest with
            | '-' :: rest => (['-'], rest)
            | '+' :: rest => (['+'], rest)
            | _ => ([], rest)
          (readDigitRun rest).map fun (digits, rest) => (mark :: sign ++ digits, rest)
        else some ([], chars)
    | [] => some ([], chars)
  return (sign ++ whole ++ fraction ++ exponent, chars)

/-! ## Values -/

/-- A later field of the same key takes the place of an earlier one. -/
def putField (fields : List (String × Json)) (field : String × Json) : List (String × Json) :=
  if fields.any (·.1 = field.1) = true then
    fields.map fun found => if found.1 = field.1 then field else found
  else fields ++ [field]

variable (numberText : String → String)

mutual

def readValue : ℕ → List Char → Option (Json × List Char)
  | 0, _ => none
  | fuel + 1, chars =>
      match skipSpace chars with
      | '"' :: rest => (readString fuel rest).map fun (text, rest) =>
          (string (String.ofList text), rest)
      | '[' :: rest =>
          match skipSpace rest with
          | ']' :: rest => some (array [], rest)
          | _ => (readItems fuel rest).map fun (items, rest) => (array items, rest)
      | '\x7b' :: rest =>
          match skipSpace rest with
          | '\x7d' :: rest => some (object [], rest)
          | _ => (readFields fuel rest).map fun (fields, rest) =>
              (object (fields.foldl putField []), rest)
      | 'n' :: 'u' :: 'l' :: 'l' :: rest => some (null, rest)
      | 't' :: 'r' :: 'u' :: 'e' :: rest => some (bool true, rest)
      | 'f' :: 'a' :: 'l' :: 's' :: 'e' :: rest => some (bool false, rest)
      | rest => (readNumber rest).map fun (literal, rest) =>
          (number (numberText (String.ofList literal)), rest)

/-- The items of an array, up to its end. -/
def readItems : ℕ → List Char → Option (List Json × List Char)
  | 0, _ => none
  | fuel + 1, chars =>
      (readValue fuel chars).bind fun (item, rest) =>
        match skipSpace rest with
        | ',' :: rest => (readItems fuel rest).map fun (items, rest) => (item :: items, rest)
        | ']' :: rest => some ([item], rest)
        | _ => none

/-- The fields of an object, up to its end. -/
def readFields : ℕ → List Char → Option (List (String × Json) × List Char)
  | 0, _ => none
  | fuel + 1, chars =>
      match skipSpace chars with
      | '"' :: rest => (readString fuel rest).bind fun (key, rest) =>
          match skipSpace rest with
          | ':' :: rest => (readValue fuel rest).bind fun (value, rest) =>
              match skipSpace rest with
              | ',' :: rest => (readFields fuel rest).map fun (fields, rest) =>
                  ((String.ofList key, value) :: fields, rest)
              | '\x7d' :: rest => some ([(String.ofList key, value)], rest)
              | _ => none
          | _ => none
      | _ => none

end

/-- `JSON.parse`. Two calls read at least one character. -/
def parse (text : String) : Option Json :=
  (readValue numberText (2 * text.length + 2) text.toList).bind fun (value, rest) =>
    if skipSpace rest = [] then some value else none

/-! ## Parsing what was written -/

@[simp] theorem skipSpace_cons {c : Char} (hc : isJsonSpace c = false) (rest : List Char) :
    skipSpace (c :: rest) = c :: rest :=
  List.dropWhile_cons_of_neg (by simp [hc])

theorem readEscape_unit {value : ℕ} (hvalue : value < 32) (rest : List Char) :
    readEscape ('u' :: '0' :: '0' :: hexDigit (value / 16) :: hexDigit (value % 16) :: rest) =
      some (Char.ofNat value, rest) := by
  obtain ⟨hhigh, hhighValue⟩ := @hexDigit_spec (value / 16) (by omega)
  obtain ⟨hlow, hlowValue⟩ := @hexDigit_spec (value % 16) (by omega)
  have hzero : hexValue '0' = 0 := by decide
  have hunit : readUnit ('u' :: '0' :: '0' :: hexDigit (value / 16) :: hexDigit (value % 16) ::
      rest) = some (value, rest) := by
    simp only [readUnit]
    rw [if_pos (by simp [hhigh, hlow, show isHexDigit '0' = true by decide]), hzero, hhighValue,
      hlowValue]
    exact congrArg (fun value => some (value, rest)) (by omega)
  change readCode _ = _
  simp only [readCode, hunit, Option.map_some]
  rw [if_neg (by omega), if_neg (by omega)]

/-- An escaped character is read back. -/
theorem readEscape_escape {c : Char} (hescaped : c ∈ escaped) :
    ∃ code, escape c = '\\' :: code ∧ ∀ rest, readEscape (code ++ rest) = some (c, rest) := by
  simp only [escaped, List.mem_cons, List.mem_map, List.mem_range] at hescaped
  rcases hescaped with rfl | rfl | ⟨value, hvalue, rfl⟩
  · exact ⟨_, rfl, fun _ => rfl⟩
  · exact ⟨_, rfl, fun _ => rfl⟩
  · -- five control characters have a letter, the others their number
    have hall : ∀ value < 32, value = 8 ∨ value = 9 ∨ value = 10 ∨ value = 12 ∨ value = 13 ∨
        escape (Char.ofNat value) =
          ['\\', 'u', '0', '0', hexDigit (value / 16), hexDigit (value % 16)] := by
      decide +kernel
    rcases hall value hvalue with rfl | rfl | rfl | rfl | rfl | hunit
    · exact ⟨_, rfl, fun _ => rfl⟩
    · exact ⟨_, rfl, fun _ => rfl⟩
    · exact ⟨_, rfl, fun _ => rfl⟩
    · exact ⟨_, rfl, fun _ => rfl⟩
    · exact ⟨_, rfl, fun _ => rfl⟩
    · exact ⟨_, hunit, readEscape_unit hvalue⟩

/-- A quoted text is read back up to its end. -/
theorem readString_escape (text : List Char) {fuel : ℕ} (hfuel : text.length < fuel)
    (rest : List Char) :
    readString fuel (text.flatMap escape ++ '"' :: rest) = some (text, rest) := by
  induction text generalizing fuel with
  | nil =>
      obtain ⟨fuel, rfl⟩ := Nat.exists_eq_add_of_lt hfuel
      simp [readString]
  | cons c text ih =>
      obtain ⟨fuel, rfl⟩ : ∃ more, fuel = more + 1 := ⟨fuel - 1, by omega⟩
      have hrest := @ih fuel (by simpa using hfuel)
      rw [List.flatMap_cons, List.append_assoc]
      by_cases hescaped : c ∈ escaped
      · obtain ⟨code, hcode, hread⟩ := readEscape_escape hescaped
        rw [hcode, List.cons_append, readString, if_neg (by decide), if_pos rfl, hread,
          Option.bind_some]
        simp only [hrest, Option.map_some]
      · have hquote : c ≠ '"' := fun heq => hescaped (heq ▸ by decide)
        have hslash : c ≠ '\\' := fun heq => hescaped (heq ▸ by decide)
        have hcontrol : ¬ c.val < 0x20 := fun hlt => hescaped (mem_escaped_of_lt hlt)
        rw [escape_of_not_mem hescaped, List.singleton_append, readString, if_neg hquote,
          if_neg hslash, if_neg hcontrol, hrest, Option.map_some]

theorem length_le_escape (text : List Char) : text.length ≤ (text.flatMap escape).length := by
  induction text with
  | nil => exact le_rfl
  | cons c text ih =>
      have hone : 1 ≤ (escape c).length := by
        by_cases hescaped : c ∈ escaped
        · obtain ⟨code, hcode⟩ := escape_of_mem hescaped
          simp [hcode]
        · simp [escape_of_not_mem hescaped]
      rw [List.flatMap_cons, List.length_append, List.length_cons]
      omega

/-- The fields of an object of texts. -/
def texts (fields : List (String × String)) : List (String × Json) :=
  fields.map fun field => (field.1, string field.2)

theorem readValue_quote (text : String) {fuel : ℕ} (hfuel : (quote text).length ≤ fuel)
    (rest : List Char) :
    readValue numberText fuel (quote text ++ rest) = some (string text, rest) := by
  have hlength := length_le_escape text.toList
  simp only [quote, List.cons_append, List.length_cons, List.length_append, List.length_nil]
    at hfuel
  obtain ⟨fuel, rfl⟩ : ∃ more, fuel = more + 1 := ⟨fuel - 1, by omega⟩
  have hread := @readString_escape text.toList fuel (by omega) rest
  simp only [quote, List.cons_append, List.append_assoc, List.nil_append, readValue]
  rw [skipSpace_cons (by decide)]
  simp only [hread, Option.map_some, String.ofList_toList]

/-- The fields that were written are read back. -/
theorem readFields_texts {fields : List (String × String)} (hfields : fields ≠ []) {fuel : ℕ}
    (hfuel : (commaSeparated (fieldChars (texts fields))).length < fuel) (rest : List Char) :
    readFields numberText fuel
        (commaSeparated (fieldChars (texts fields)) ++ '\x7d' :: rest) =
      some (texts fields, rest) := by
  induction fields generalizing fuel with
  | nil => exact absurd rfl hfields
  | cons field fields ih =>
      obtain ⟨key, value⟩ := field
      obtain ⟨fuel, rfl⟩ : ∃ more, fuel = more + 1 := ⟨fuel - 1, by omega⟩
      have hkeyLength := length_le_escape key.toList
      -- every field is a key, a colon, a value, and what comes behind it
      have hfield : ∀ after : List Char,
          key.toList.length < fuel → (quote value).length ≤ fuel →
          readFields numberText (fuel + 1) (quote key ++ ':' :: (quote value ++ after)) =
            match skipSpace after with
            | ',' :: rest => (readFields numberText fuel rest).map fun (fields, rest) =>
                ((key, string value) :: fields, rest)
            | '\x7d' :: rest => some ([(key, string value)], rest)
            | _ => none := by
        intro after hkey hvalue
        have hread := readString_escape key.toList hkey (':' :: (quote value ++ after))
        simp only [quote, List.cons_append, List.append_assoc, List.nil_append, readFields]
          at hread ⊢
        rw [skipSpace_cons (by decide)]
        simp only [hread, Option.bind_some]
        rw [skipSpace_cons (by decide)]
        have hvalueRead := readValue_quote numberText value hvalue after
        simp only [quote, List.cons_append, List.append_assoc, List.nil_append] at hvalueRead
        simp only [hvalueRead, Option.bind_some, String.ofList_toList]
      cases fields with
      | nil =>
          simp only [texts, List.map_cons, List.map_nil, fieldChars, commaSeparated, chars,
            List.append_assoc, List.cons_append, quote, List.length_append, List.length_cons,
            List.length_nil] at hfuel
          simp only [texts, List.map_cons, List.map_nil, fieldChars, commaSeparated, chars,
            List.append_assoc, List.cons_append]
          rw [hfield _ (by omega) (by simp only [quote, List.cons_append, List.length_append,
            List.length_cons, List.length_nil]; omega), skipSpace_cons (by decide)]
          rfl
      | cons second fields =>
          have hrest := @ih (by simp) fuel
          simp only [texts, List.map_cons, fieldChars, commaSeparated, chars,
            List.append_assoc, List.cons_append, List.length_append, List.length_cons]
            at hfuel hrest ⊢
          rw [hfield _ (by simp only [quote, List.cons_append, List.length_append,
            List.length_cons, List.length_nil] at hfuel; omega) (by omega),
            skipSpace_cons (by decide)]
          simp only [hrest (by omega), Option.map_some]

theorem foldl_putField {seen fields : List (String × Json)}
    (hdistinct : ((seen ++ fields).map Prod.fst).Nodup) :
    fields.foldl putField seen = seen ++ fields := by
  induction fields generalizing seen with
  | nil => simp
  | cons field fields ih =>
      have hfresh : seen.any (fun found => found.1 = field.1) = false := by
        rw [List.any_eq_false]
        intro found hfound hsame
        rw [List.map_append, List.map_cons, List.nodup_append] at hdistinct
        exact hdistinct.2.2 _ (List.mem_map_of_mem hfound) _ List.mem_cons_self
          (by simpa using hsame)
      have hput : putField seen field = seen ++ [field] := by
        unfold putField
        rw [hfresh]
        exact if_neg (by decide)
      rw [List.foldl_cons, hput, ih (by simpa using hdistinct), List.append_assoc,
        List.singleton_append]

/-- An object of texts is parsed from what `stringify` makes of it. -/
theorem parse_texts {fields : List (String × String)} (hfields : fields ≠ [])
    (hdistinct : (fields.map Prod.fst).Nodup) :
    parse numberText (object (texts fields)).stringify = some (object (texts fields)) := by
  have hkeys : (([] ++ texts fields).map Prod.fst).Nodup := by
    simpa [texts, Function.comp_def] using hdistinct
  have hread := @readFields_texts numberText fields hfields
  have hlength : (object (texts fields)).stringify.length =
      (commaSeparated (fieldChars (texts fields))).length + 2 := by
    rw [stringify, String.length_ofList, chars, List.cons_append, List.length_cons,
      List.length_append, List.length_singleton]
  have hopen : ∀ rest, ∃ c, skipSpace
      (commaSeparated (fieldChars (texts fields)) ++ rest) = '"' :: c := by
    intro rest
    obtain ⟨first, fields, rfl⟩ := List.exists_cons_of_ne_nil hfields
    cases fields <;>
      simp only [texts, List.map_cons, List.map_nil, fieldChars, commaSeparated, quote,
        List.cons_append] <;>
      exact ⟨_, skipSpace_cons (by decide) _⟩
  obtain ⟨inside, hinside⟩ := hopen ['\x7d']
  unfold parse
  rw [hlength, stringify, String.toList_ofList, chars, List.cons_append, readValue]
  rw [skipSpace_cons (by decide)]
  simp only [hinside]
  rw [hread (by omega), Option.map_some]
  change (if skipSpace [] = [] then some (object ((texts fields).foldl putField [])) else none) = _
  rw [foldl_putField hkeys, List.nil_append]
  exact if_pos rfl

end WizPay.Backend.Json
