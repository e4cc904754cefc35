import WizPay.Backend.Decimal
import WizPay.Csv.Preview
import WizPay.Payroll.Planner

/-!
# When an import is faithful

A faithful preview has a row for every line of data and a draft for every line that can be
paid, and an amount that it lets through is paid as it stands. The preview is faithful but
for two things: a line of data with a word of a header in it is skipped if it comes first,
and whatever `Number` takes for a positive number passes for an amount.
-/

namespace WizPay.Csv

open Backend

variable (runtime : Runtime) (parseUnits : String → ℕ → Option ℤ)

/-! ## What an import should give -/

/-- A line with its place in the file. -/
abbrev Entry : Type := String × ℕ

/-- The recipient of a line, if its first cell is a valid address. -/
def recipientOf (delimiter : Char) (line : String) : Option String :=
  let cell := trim (readLine delimiter line).address
  if isAddress runtime cell then getAddress runtime cell else none

/-- Whether the recipient of a line comes up in earlier lines. -/
def SeenIn (delimiter : Char) (earlier : List Entry) (recipient : String) : Prop :=
  ∃ entry ∈ earlier, (recipientOf runtime delimiter entry.1).map asciiLower =
    some (asciiLower recipient)

instance (delimiter : Char) (earlier : List Entry) (recipient : String) :
    Decidable (SeenIn runtime delimiter earlier recipient) := by
  unfold SeenIn
  infer_instance

/-- Whom a line names, if its recipient is valid and new and its token is a known one. -/
def addressee (delimiter : Char) (earlier : List Entry) (entry : Entry) : Option String :=
  (recipientOf runtime delimiter entry.1).filter fun recipient =>
    !decide (SeenIn runtime delimiter earlier recipient) &&
      tokenIsKnown runtime (readLine delimiter entry.1).token

/-- Whom a line pays: its amount is a positive number of units, besides. -/
def payee (delimiter : Char) (earlier : List Entry) (entry : Entry) : Option String :=
  (addressee runtime delimiter earlier entry).filter fun _ =>
    decide (0 < parseAmountToUnits parseUnits (readLine delimiter entry.1).amount 6)

/-- Whether a line of data has a word of a header. -/
def PaysInHeader (line : String) : Prop :=
  hasHeaderWord runtime line = true ∧
    (payee runtime parseUnits (delimiterOf line) [] (line, 0)).isSome = true

instance (line : String) : Decidable (PaysInHeader runtime parseUnits line) := by
  unfold PaysInHeader
  infer_instance

/-- The lines of data with their places: all of them, but for a header. -/
def dataLines (text : String) : List Entry :=
  match linesOf text with
  | [] => []
  | first :: rest =>
      if hasHeaderWord runtime first = true ∧ ¬ PaysInHeader runtime parseUnits first then
        (first :: rest).zipIdx.drop 1
      else (first :: rest).zipIdx

/-- The delimiter of the data, by its first line. -/
def dataDelimiter (text : String) : Char :=
  match dataLines runtime parseUnits text with
  | [] => ','
  | entry :: _ => delimiterOf entry.1

section Drafts

variable (newId : ℕ → String) (selectedToken : TokenSymbol) (delimiter : Char)

def draftOf (entry : Entry) (recipient : String) : RecipientDraft where
  id := newId entry.2
  address := recipient
  amount := (readLine delimiter entry.1).amount
  targetToken := resolvedToken runtime selectedToken (readLine delimiter entry.1).token

/-- The drafts of the lines that a test lets through, which may look at the lines before. -/
def draftsOf (test : List Entry → Entry → Option String) :
    List Entry → List Entry → List RecipientDraft
  | _, [] => []
  | earlier, entry :: rest =>
      ((test earlier entry).map (draftOf runtime newId selectedToken delimiter entry)).toList ++
        draftsOf test (earlier ++ [entry]) rest

end Drafts

/-- The import has a row for every line of data, a draft for every line that pays, and amounts
that the payroll service takes as they stand. -/
structure Faithful (newId : ℕ → String) (selectedToken : TokenSymbol) (fileName text : String) :
    Prop where
  rows : (((buildCsvPreview runtime newId selectedToken fileName text).map (·.rows)).getD []).map
      (fun row => (row.lineNumber, row.address, row.amount)) =
    (dataLines runtime parseUnits text).map fun entry =>
      let line := readLine (dataDelimiter runtime parseUnits text) entry.1
      (entry.2 + 1, line.address, line.amount)
  validRows : ((buildCsvPreview runtime newId selectedToken fileName text).map
      (·.validRows)).getD [] =
    let delimiter := dataDelimiter runtime parseUnits text
    draftsOf runtime newId selectedToken delimiter (payee runtime parseUnits delimiter) []
      (dataLines runtime parseUnits text)
  amounts : ∀ draft ∈ ((buildCsvPreview runtime newId selectedToken fileName text).map
      (·.validRows)).getD [],
    Payroll.positiveAmount draft.amount 6 = true ∧
      (Payroll.parseAmountToUnits draft.amount 6 : ℤ) =
        parseAmountToUnits parseUnits draft.amount 6

/-- The condition on a file: no line of data stands where a header may, and every amount that
`Number` takes for positive is a positive decimal of at most six places. -/
structure Plain (text : String) : Prop where
  header : ∀ first ∈ (linesOf text).head?, ¬ PaysInHeader runtime parseUnits first
  amounts : ∀ earlier entry later,
    dataLines runtime parseUnits text = earlier ++ entry :: later →
    (addressee runtime (dataDelimiter runtime parseUnits text) earlier entry).isSome = true →
    amountIsPositive (readLine (dataDelimiter runtime parseUnits text) entry.1).amount = true →
    Payroll.positiveAmount (readLine (dataDelimiter runtime parseUnits text) entry.1).amount 6 = true

/-! ## Amounts -/

section Amounts

theorem bigInt_eq_digitsValue {digits : List Char} (hdigits : digits.all isDigit = true) :
    bigInt (String.ofList digits) = digitsValue 10 digits := by
  unfold bigInt digitsValue
  rw [String.toList_ofList]
  apply List.foldl_ext
  intro value c hmember
  have hdigit : isDigit c = true := List.all_eq_true.mp hdigits c hmember
  rw [hexValue, if_pos hdigit]
  rfl

theorem digitsValue_append_zeros (digits : List Char) (count : ℕ) :
    digitsValue 10 (digits ++ List.replicate count '0') = digitsValue 10 digits * 10 ^ count := by
  induction count with
  | zero => simp
  | succ count ih =>
      have hzero : hexValue '0' = 0 := by decide
      rw [List.replicate_succ', ← List.append_assoc]
      unfold digitsValue at ih ⊢
      rw [List.foldl_append, ih, List.foldl_cons, List.foldl_nil, hzero, pow_succ]
      ring

/-- What stands before and behind the first point of a text. -/
theorem splitDecimal_cases (text : String) :
    (Payroll.splitDecimal text).2 = none ∧ text.toList = (Payroll.splitDecimal text).1 ∨
      ∃ fraction, (Payroll.splitDecimal text).2 = some fraction ∧
        text.toList = (Payroll.splitDecimal text).1 ++ '.' :: fraction := by
  have hjoin := @List.takeWhile_append_dropWhile Char (· ≠ '.') text.toList
  have hdrop : text.toList.drop (text.toList.takeWhile (· ≠ '.')).length =
      text.toList.dropWhile (· ≠ '.') := by
    have hleft := @List.drop_left Char (text.toList.takeWhile (· ≠ '.'))
      (text.toList.dropWhile (· ≠ '.'))
    rwa [hjoin] at hleft
  unfold Payroll.splitDecimal
  dsimp only
  rw [hdrop]
  cases hrest : text.toList.dropWhile (· ≠ '.') with
  | nil =>
      rw [hrest, List.append_nil] at hjoin
      exact .inl ⟨rfl, hjoin.symm⟩
  | cons c fraction =>
      have hpoint : c = '.' := by
        have hnot := @List.head?_dropWhile_not Char (· ≠ '.') text.toList
        rw [hrest, List.head?_cons] at hnot
        simpa using hnot
      rw [hrest, hpoint] at hjoin
      exact .inr ⟨fraction, rfl, hjoin.symm⟩

theorem takeWhile_digits {whole : List Char} (hwhole : whole.all isDigit = true)
    (rest : List Char) (hrest : ∀ c ∈ rest.head?, isDigit c = false) :
    (whole ++ rest).takeWhile isDigit = whole ∧ (whole ++ rest).dropWhile isDigit = rest := by
  have hall := List.all_eq_true.mp hwhole
  rw [List.takeWhile_append_of_pos hall, List.dropWhile_append_of_pos hall]
  cases rest with
  | nil => simp
  | cons c rest => simp [hrest c rfl]

theorem isDigit_of_isBaseUnits {digits : List Char}
    (hdigits : digits = ['0'] ∨ isBaseUnits (String.ofList digits) = true) :
    digits.all isDigit = true ∧ digits ≠ [] := by
  rcases hdigits with rfl | hunits
  · exact ⟨by decide, by decide⟩
  · unfold isBaseUnits at hunits
    rw [String.toList_ofList] at hunits
    cases digits with
    | nil => cases hunits
    | cons first rest =>
        simp only [Bool.and_eq_true] at hunits
        exact ⟨by simp [hunits.1.1, hunits.2], by simp⟩

theorem isSpace_eq_false {c : Char} (hc : isDigit c = true ∨ c = '.') : isSpace c = false := by
  have hall : ∀ c ∈ "0123456789abcdefABCDEF".toList, isSpace c = false :=
    List.all_iff_forall_prop.mp (by decide)
  rcases hc with hdigit | rfl
  · exact hall c (isHexDigit_cases (by rw [isHexDigit, hdigit, Bool.true_or, Bool.true_or]))
  · decide

/-- An amount is digits, or digits with a point between them. -/
theorem isDecimalAmount_cases {text : String} (htext : Payroll.isDecimalAmount text = true) :
    ∃ whole fraction, whole ≠ [] ∧ whole.all isDigit = true ∧ fraction.all isDigit = true ∧
      fraction.length ≤ 6 ∧ (Payroll.splitDecimal text).1 = whole ∧
      (Payroll.splitDecimal text).2.getD [] = fraction ∧
      (text.toList = whole ∧ fraction = [] ∨ text.toList = whole ++ '.' :: fraction) := by
  have hsplit := splitDecimal_cases text
  unfold Payroll.isDecimalAmount at htext
  simp only [Bool.and_eq_true, Bool.or_eq_true, decide_eq_true_eq] at htext
  obtain ⟨hwhole, hfraction⟩ := htext
  obtain ⟨hdigits, hnonempty⟩ := isDigit_of_isBaseUnits hwhole
  rcases hsplit with ⟨hnone, hchars⟩ | ⟨fraction, hsome, hchars⟩
  · refine ⟨_, [], hnonempty, hdigits, rfl, Nat.zero_le _, rfl, by rw [hnone]; rfl, ?_⟩
    exact .inl ⟨hchars, rfl⟩
  · simp only [hsome, Option.all_some, Bool.and_eq_true, decide_eq_true_eq] at hfraction
    refine ⟨_, fraction, hnonempty, hdigits, hfraction.2, hfraction.1.2, rfl, by rw [hsome]; rfl, ?_⟩
    exact .inr hchars

/-- The number of an amount in the shape the service asks for, and its units. -/
theorem decimalValue_of_isDecimalAmount {text : String}
    (htext : Payroll.isDecimalAmount text = true) :
    trim text = text ∧ text ≠ "" ∧ ∃ value, decimalValue text = some value ∧
      value * 10 ^ 6 = Payroll.parseAmountToUnits text 6 := by
  obtain ⟨whole, fraction, hnonempty, hwhole, hfraction, hlength, hbefore, hbehind, hchars⟩ :=
    isDecimalAmount_cases htext
  have hallWhole := List.all_eq_true.mp hwhole
  have hallFraction := List.all_eq_true.mp hfraction
  have htrim : trim text = text := by
    refine trim_eq_self fun c hmember => isSpace_eq_false ?_
    rcases hchars with ⟨hchars, -⟩ | hchars
    · rw [hchars] at hmember
      exact .inl (hallWhole c hmember)
    · rw [hchars, List.mem_append, List.mem_cons] at hmember
      rcases hmember with hmember | rfl | hmember
      · exact .inl (hallWhole c hmember)
      · exact .inr rfl
      · exact .inl (hallFraction c hmember)
  obtain ⟨first, rest, rfl⟩ := List.exists_cons_of_ne_nil hnonempty
  have hfirst : isDigit first = true := hallWhole first List.mem_cons_self
  have hhead : ∃ behind, text.toList = first :: behind := by
    rcases hchars with ⟨hchars, -⟩ | hchars
    · exact ⟨_, hchars⟩
    · exact ⟨_, hchars⟩
  have hunsigned : unsignedDecimal text.toList =
      some ((digitsValue 10 (first :: rest ++ fraction) : ℚ) / 10 ^ fraction.length) := by
    unfold unsignedDecimal
    rcases hchars with ⟨hchars, rfl⟩ | hchars
    · obtain ⟨htake, hdrop⟩ := takeWhile_digits hwhole [] (by simp)
      rw [List.append_nil] at htake hdrop
      rw [hchars, htake, hdrop]
      rfl
    · obtain ⟨htake, hdrop⟩ := takeWhile_digits hwhole ('.' :: fraction) (by simp; decide)
      rw [hchars, htake, hdrop]
      exact if_pos hfraction
  have hunits : Payroll.parseAmountToUnits text 6 =
      digitsValue 10 (first :: rest ++ fraction) * 10 ^ (6 - fraction.length) := by
    have hpadded : (fraction ++ List.replicate (6 - fraction.length) '0').take 6 =
        fraction ++ List.replicate (6 - fraction.length) '0' :=
      List.take_of_length_le (by rw [List.length_append, List.length_replicate]; omega)
    unfold Payroll.parseAmountToUnits
    rw [htrim]
    dsimp only
    rw [hbefore, hbehind, hpadded, ← List.append_assoc, bigInt_eq_digitsValue,
      digitsValue_append_zeros]
    rw [List.all_append, List.all_append, hwhole, hfraction, Bool.and_self, Bool.true_and,
      List.all_eq_true]
    intro c hmember
    rw [List.eq_of_mem_replicate hmember]
    decide
  obtain ⟨behind, hhead⟩ := hhead
  have hvalue : decimalValue text =
      some ((digitsValue 10 (first :: rest ++ fraction) : ℚ) / 10 ^ fraction.length) := by
    unfold decimalValue
    split
    next heq =>
      rw [hhead] at heq
      rw [(List.cons.inj heq).1] at hfirst
      exact absurd hfirst (by decide)
    next => exact hunsigned
  refine ⟨htrim, ?_, _, hvalue, ?_⟩
  · rintro rfl
    cases hhead
  · rw [hunits]
    push_cast
    rw [div_mul_eq_mul_div, div_eq_iff (by positivity), mul_assoc, ← pow_add,
      Nat.sub_add_cancel hlength]

variable {parseUnits : String → ℕ → Option ℤ} (hunits : ParsesUnits parseUnits)

include hunits in
/-- The composer and the service agree on an amount that the service takes. -/
theorem units_of_positiveAmount {amount : String}
    (hamount : Payroll.positiveAmount amount 6 = true) :
    (Payroll.parseAmountToUnits amount 6 : ℤ) = parseAmountToUnits parseUnits amount 6 ∧
      0 < parseAmountToUnits parseUnits amount 6 := by
  simp only [Payroll.positiveAmount, Bool.and_eq_true, decide_eq_true_eq] at hamount
  obtain ⟨htrim, hnonempty, value, hvalue, hscaled⟩ := decimalValue_of_isDecimalAmount hamount.1
  obtain ⟨units, hparse, hnear⟩ := hunits.rounded amount 6 value hvalue
  rw [hscaled] at hnear
  -- two integers less than one apart are the same
  have hsame : units = Payroll.parseAmountToUnits amount 6 := by
    have hlt : |units - (Payroll.parseAmountToUnits amount 6 : ℤ)| < 1 := by
      have hcast : ((|units - (Payroll.parseAmountToUnits amount 6 : ℤ)| : ℤ) : ℚ) < (1 : ℤ) := by
        push_cast
        linarith
      exact_mod_cast hcast
    exact sub_eq_zero.mp (Int.abs_lt_one_iff.mp hlt)
  have hread : parseAmountToUnits parseUnits amount 6 = units := by
    unfold parseAmountToUnits
    rw [htrim]
    dsimp only
    rw [if_neg hnonempty, hparse, Option.getD_some]
  rw [hread, hsame]
  exact ⟨rfl, by exact_mod_cast hamount.2⟩

include hunits in
/-- An amount of a positive number of units is a positive number. -/
theorem amountIsPositive_of_units {amount : String}
    (hpositive : 0 < parseAmountToUnits parseUnits amount 6) : amountIsPositive amount = true := by
  unfold parseAmountToUnits at hpositive
  dsimp only at hpositive
  split at hpositive
  next => exact absurd hpositive (lt_irrefl 0)
  next hnonempty =>
    cases hvalue : decimalValue (trim amount) with
    | none =>
        rw [hunits.refused _ _ hvalue] at hpositive
        exact absurd hpositive (lt_irrefl 0)
    | some value =>
        obtain ⟨units, hparse, hnear⟩ := hunits.rounded _ 6 value hvalue
        rw [hparse, Option.getD_some] at hpositive
        have hone : (1 : ℚ) ≤ units := by exact_mod_cast hpositive
        have hlow : 1 / 10 ^ 7 ≤ value := by
          have hbelow := (abs_le.mp hnear).2
          norm_num at hbelow ⊢
          linarith
        have hnumber := numberOf_of_decimal hvalue (lt_of_lt_of_le (by norm_num) hlow)
        have hempty : amount ≠ "" := by
          rintro rfl
          exact hnonempty (by decide)
        unfold amountIsPositive
        rw [hnumber]
        simp [hempty, nearestDouble_pos hlow]

end Amounts

/-! ## The loop -/

section Loop

variable {runtime} {newId : ℕ → String} {selectedToken : TokenSymbol} {delimiter : Char}

/-- Whom the preview takes a line to pay. -/
def accepted (runtime : Runtime) (delimiter : Char) (earlier : List Entry) (entry : Entry) :
    Option String :=
  (addressee runtime delimiter earlier entry).filter fun _ =>
    amountIsPositive (readLine delimiter entry.1).amount

theorem normalizedAddress_eq (line : String) :
    (classifyRecipientInput runtime (readLine delimiter line).address).normalizedAddress =
      recipientOf runtime delimiter line := by
  unfold classifyRecipientInput recipientOf
  dsimp only
  by_cases hempty : trim (readLine delimiter line).address = ""
  · have hrefused : isAddress runtime "" = false := by
      rw [isAddress, show isHexText 40 "" = false by decide, Bool.false_and]
    rw [if_pos hempty, hempty, hrefused]
    rfl
  · rw [if_neg hempty]
    by_cases haddress : isAddress runtime (trim (readLine delimiter line).address) = true
    · rw [if_pos haddress, if_pos haddress]
    · rw [if_neg haddress, if_neg haddress]

theorem errorMessage_of_recipient {line recipient : String}
    (hrecipient : recipientOf runtime delimiter line = some recipient) :
    (classifyRecipientInput runtime (readLine delimiter line).address).errorMessage = none := by
  unfold recipientOf at hrecipient
  unfold classifyRecipientInput
  dsimp only at hrecipient ⊢
  split at hrecipient
  next haddress =>
    by_cases hempty : trim (readLine delimiter line).address = ""
    · rw [if_pos hempty]
    · rw [if_neg hempty, if_pos haddress]
  next => cases hrecipient

/-- The keys that the loop has seen are those of the lines before. -/
def SeenExactly (runtime : Runtime) (delimiter : Char) (earlier : List Entry)
    (seen : List String) : Prop :=
  ∀ key, key ∈ seen ↔
    ∃ entry ∈ earlier, (recipientOf runtime delimiter entry.1).map asciiLower = some key

theorem seenExactly_append {earlier : List Entry} {seen : List String}
    (hseen : SeenExactly runtime delimiter earlier seen) (entry : Entry) :
    SeenExactly runtime delimiter (earlier ++ [entry])
      (seen ++ if ((recipientOf runtime delimiter entry.1).map asciiLower).any
          (fun key => decide (key ∈ seen)) = true then []
        else ((recipientOf runtime delimiter entry.1).map asciiLower).toList) := by
  intro key
  simp only [List.mem_append, List.mem_singleton, hseen key, or_and_right, exists_or,
    exists_eq_left]
  apply or_congr_right'
  intro hnew
  cases (recipientOf runtime delimiter entry.1).map asciiLower with
  | none => simp
  | some found =>
      simp only [Option.any_some, decide_eq_true_eq, Option.toList_some, Option.some.injEq]
      constructor
      · intro hmember
        split at hmember
        next => cases hmember
        next => exact (List.mem_singleton.mp hmember).symm
      · rintro rfl
        rw [if_neg (fun hmember => hnew ((hseen found).mp hmember))]
        exact List.mem_singleton_self found

theorem addLine_rows (progress : Progress) (entry : Entry) :
    (addLine runtime newId selectedToken delimiter progress entry).rows.map
        (fun row => (row.lineNumber, row.address, row.amount)) =
      progress.rows.map (fun row => (row.lineNumber, row.address, row.amount)) ++
        [(entry.2 + 1, (readLine delimiter entry.1).address,
          (readLine delimiter entry.1).amount)] := by
  simp only [addLine, List.map_append, List.map_cons, List.map_nil]

theorem addLine_seen {progress : Progress} {earlier : List Entry}
    (hseen : SeenExactly runtime delimiter earlier progress.seenRecipients) (entry : Entry) :
    SeenExactly runtime delimiter (earlier ++ [entry])
      (addLine runtime newId selectedToken delimiter progress entry).seenRecipients := by
  simp only [addLine, normalizedAddress_eq]
  exact seenExactly_append hseen entry

/-- A draft is added for a line that is accepted. -/
theorem addLine_validRows {progress : Progress} {earlier : List Entry}
    (hseen : SeenExactly runtime delimiter earlier progress.seenRecipients) (entry : Entry) :
    (addLine runtime newId selectedToken delimiter progress entry).validRows =
      progress.validRows ++ ((accepted runtime delimiter earlier entry).map
        (draftOf runtime newId selectedToken delimiter entry)).toList := by
  simp only [addLine, normalizedAddress_eq]
  cases hrecipient : recipientOf runtime delimiter entry.1 with
  | none => simp only [accepted, addressee, hrecipient, Option.filter_none, Option.map_none,
      Option.toList_none]
  | some recipient =>
      have hduplicate : asciiLower recipient ∈ progress.seenRecipients ↔
          SeenIn runtime delimiter earlier recipient := hseen (asciiLower recipient)
      simp only [errorMessage_of_recipient hrecipient, accepted, addressee, hrecipient,
        Option.map_some, Option.any_some, hduplicate, Option.filter_some]
      by_cases hseenIn : SeenIn runtime delimiter earlier recipient
      · simp [hseenIn]
      · cases hknown : tokenIsKnown runtime (readLine delimiter entry.1).token
        · simp
        · cases hamount : amountIsPositive (readLine delimiter entry.1).amount
          · simp [hseenIn]
          · have hkept : Option.filter (fun _ => true) (some recipient) = some recipient := rfl
            simp [hseenIn, hkept, draftOf]

/-- What the loop makes of lines: a row of each, and a draft of each that is accepted. -/
theorem foldl_addLine {progress : Progress} {earlier : List Entry}
    (hseen : SeenExactly runtime delimiter earlier progress.seenRecipients)
    (entries : List Entry) :
    (entries.foldl (addLine runtime newId selectedToken delimiter) progress).rows.map
        (fun row => (row.lineNumber, row.address, row.amount)) =
      progress.rows.map (fun row => (row.lineNumber, row.address, row.amount)) ++
        entries.map (fun entry => (entry.2 + 1, (readLine delimiter entry.1).address,
          (readLine delimiter entry.1).amount)) ∧
    (entries.foldl (addLine runtime newId selectedToken delimiter) progress).validRows =
      progress.validRows ++ draftsOf runtime newId selectedToken delimiter
        (accepted runtime delimiter) earlier entries := by
  induction entries generalizing progress earlier with
  | nil => simp [draftsOf]
  | cons entry rest ih =>
      have hnext := @addLine_seen runtime newId selectedToken delimiter _ _ hseen entry
      obtain ⟨hrows, hvalid⟩ := ih hnext
      rw [List.foldl_cons, hrows, hvalid, addLine_rows, addLine_validRows hseen, draftsOf]
      simp [List.append_assoc]

end Loop

/-! ## The preview -/

section Preview

variable {runtime parseUnits} {newId : ℕ → String} {selectedToken : TokenSymbol}
  {fileName text : String}

/-- The lines that the loop goes through. -/
def loopLines (runtime : Runtime) (first : String) (rest : List String) : List Entry :=
  (first :: rest).zipIdx.drop (if hasHeaderWord runtime first then 1 else 0)

/-- The delimiter that the loop splits them at. -/
def loopDelimiter (runtime : Runtime) (first : String) (rest : List String) : Char :=
  delimiterOf ((first :: rest).getD (if hasHeaderWord runtime first then 1 else 0) first)

theorem buildCsvPreview_spec {first : String} {rest : List String}
    (hlines : linesOf text = first :: rest) :
    (((buildCsvPreview runtime newId selectedToken fileName text).map (·.rows)).getD []).map
        (fun row => (row.lineNumber, row.address, row.amount)) =
      (loopLines runtime first rest).map (fun entry =>
        (entry.2 + 1, (readLine (loopDelimiter runtime first rest) entry.1).address,
          (readLine (loopDelimiter runtime first rest) entry.1).amount)) ∧
    ((buildCsvPreview runtime newId selectedToken fileName text).map (·.validRows)).getD [] =
      draftsOf runtime newId selectedToken (loopDelimiter runtime first rest)
        (accepted runtime (loopDelimiter runtime first rest)) []
        (loopLines runtime first rest) := by
  have hseen : SeenExactly runtime (loopDelimiter runtime first rest) [] [] := by
    intro key
    simp
  obtain ⟨hrows, hvalid⟩ := @foldl_addLine runtime newId selectedToken _ ⟨[], [], []⟩ [] hseen
    (loopLines runtime first rest)
  unfold buildCsvPreview
  rw [hlines]
  exact ⟨hrows, hvalid⟩

theorem dataLines_cons {first : String} {rest : List String}
    (hlines : linesOf text = first :: rest)
    (hheader : ¬ PaysInHeader runtime parseUnits first) :
    dataLines runtime parseUnits text = loopLines runtime first rest := by
  unfold dataLines loopLines
  rw [hlines]
  dsimp only
  by_cases hword : hasHeaderWord runtime first = true
  · rw [if_pos ⟨hword, hheader⟩, if_pos hword]
  · rw [if_neg (fun hboth => hword hboth.1), if_neg hword]
    rfl

theorem dataDelimiter_cons {first : String} {rest : List String}
    (hlines : linesOf text = first :: rest)
    (hheader : ¬ PaysInHeader runtime parseUnits first)
    (hnonempty : dataLines runtime parseUnits text ≠ []) :
    dataDelimiter runtime parseUnits text = loopDelimiter runtime first rest := by
  unfold dataDelimiter
  rw [dataLines_cons hlines hheader] at hnonempty ⊢
  unfold loopLines at hnonempty ⊢
  unfold loopDelimiter
  by_cases hword : hasHeaderWord runtime first = true
  · rw [if_pos hword] at hnonempty ⊢
    cases rest with
    | nil => exact absurd rfl hnonempty
    | cons second rest => rfl
  · rw [if_neg hword]
    rfl

end Preview

section Tests

variable {runtime} {newId : ℕ → String} {selectedToken : TokenSymbol} {delimiter : Char}
  {test other : List Entry → Entry → Option String}

theorem draftsOf_congr {earlier entries : List Entry}
    (hsame : ∀ before entry later, entries = before ++ entry :: later →
      test (earlier ++ before) entry = other (earlier ++ before) entry) :
    draftsOf runtime newId selectedToken delimiter test earlier entries =
      draftsOf runtime newId selectedToken delimiter other earlier entries := by
  induction entries generalizing earlier with
  | nil => rfl
  | cons entry rest ih =>
      have hfirst := hsame [] entry rest rfl
      rw [List.append_nil] at hfirst
      rw [draftsOf, draftsOf, hfirst, ih]
      intro before next later heq
      have hnext := hsame (entry :: before) next later (by rw [heq, List.cons_append])
      simpa [List.append_assoc] using hnext

/-- The drafts are those of the lines that pass. -/
theorem mem_draftsOf {earlier entries : List Entry} {draft : RecipientDraft} :
    draft ∈ draftsOf runtime newId selectedToken delimiter test earlier entries ↔
      ∃ before entry later recipient, entries = before ++ entry :: later ∧
        test (earlier ++ before) entry = some recipient ∧
        draft = draftOf runtime newId selectedToken delimiter entry recipient := by
  induction entries generalizing earlier with
  | nil => simp [draftsOf]
  | cons first rest ih =>
      rw [draftsOf, List.mem_append, ih, Option.mem_toList, Option.map_eq_some_iff]
      constructor
      · rintro (⟨recipient, hpass, rfl⟩ | ⟨before, entry, later, recipient, rfl, hpass, rfl⟩)
        · exact ⟨[], first, rest, recipient, rfl, by rwa [List.append_nil], rfl⟩
        · refine ⟨first :: before, entry, later, recipient, rfl, ?_, rfl⟩
          rwa [List.append_assoc, List.singleton_append] at hpass
      · rintro ⟨before, entry, later, recipient, hsplit, hpass, rfl⟩
        cases before with
        | nil =>
            obtain ⟨rfl, rfl⟩ := List.cons.inj hsplit
            exact .inl ⟨recipient, by rwa [List.append_nil] at hpass, rfl⟩
        | cons head before =>
            obtain ⟨rfl, rfl⟩ := List.cons.inj hsplit
            refine .inr ⟨before, entry, later, recipient, rfl, ?_, rfl⟩
            rwa [List.append_assoc, List.singleton_append]

end Tests

section Main

variable {runtime parseUnits} {newId : ℕ → String} {selectedToken : TokenSymbol}
  {fileName text : String} (hunits : ParsesUnits parseUnits)
include hunits

/-- On plain amounts the preview and the composer let the same lines through. -/
theorem accepted_eq_payee {delimiter : Char} {earlier : List Entry} {entry : Entry}
    (hplain : (addressee runtime delimiter earlier entry).isSome = true →
      amountIsPositive (readLine delimiter entry.1).amount = true →
      Payroll.positiveAmount (readLine delimiter entry.1).amount 6 = true) :
    accepted runtime delimiter earlier entry =
      payee runtime parseUnits delimiter earlier entry := by
  unfold accepted payee
  cases haddressee : addressee runtime delimiter earlier entry with
  | none => rw [Option.filter_none, Option.filter_none]
  | some recipient =>
      have hsame : amountIsPositive (readLine delimiter entry.1).amount =
          decide (0 < parseAmountToUnits parseUnits (readLine delimiter entry.1).amount 6) := by
        rw [Bool.eq_iff_iff, decide_eq_true_eq]
        constructor
        · intro hamount
          exact (units_of_positiveAmount hunits (hplain (by rw [haddressee]; rfl) hamount)).2
        · exact amountIsPositive_of_units hunits
      rw [hsame]

theorem Plain.faithful (hplain : Plain runtime parseUnits text) :
    Faithful runtime parseUnits newId selectedToken fileName text := by
  cases hlines : linesOf text with
  | nil =>
      have hdata : dataLines runtime parseUnits text = [] := by
        rw [dataLines, hlines]
      have hpreview : buildCsvPreview runtime newId selectedToken fileName text = none := by
        rw [buildCsvPreview, hlines]
      constructor
      · rw [hpreview, hdata]
        rfl
      · rw [hpreview, hdata]
        rfl
      · rw [hpreview]
        intro draft hmember
        cases hmember
  | cons first rest =>
      have hheader := hplain.header first (by rw [hlines]; rfl)
      have hdata := dataLines_cons hlines hheader
      obtain ⟨hrows, hvalid⟩ := @buildCsvPreview_spec runtime newId selectedToken fileName text
        first rest hlines
      by_cases hempty : dataLines runtime parseUnits text = []
      · rw [← hdata, hempty] at hrows hvalid
        constructor
        · rw [hrows, hempty]
          rfl
        · rw [hvalid, hempty]
          rfl
        · rw [hvalid]
          intro draft hmember
          cases hmember
      · have hdelimiter := dataDelimiter_cons hlines hheader hempty
        rw [← hdata, ← hdelimiter] at hrows hvalid
        constructor
        · exact hrows
        · rw [hvalid]
          refine draftsOf_congr fun before entry later hsplit => ?_
          exact accepted_eq_payee hunits (hplain.amounts before entry later hsplit)
        · rw [hvalid]
          intro draft hmember
          obtain ⟨before, entry, later, recipient, hsplit, hpass, rfl⟩ := mem_draftsOf.mp hmember
          obtain ⟨haddressee, hamount⟩ := Option.filter_eq_some_iff.mp hpass
          have hpositive := hplain.amounts before entry later hsplit
            (by rw [List.nil_append] at haddressee; rw [haddressee]; rfl) hamount
          exact ⟨hpositive, (units_of_positiveAmount hunits hpositive).1⟩

omit hunits in
theorem Faithful.plain (hfaithful : Faithful runtime parseUnits newId selectedToken fileName text) :
    Plain runtime parseUnits text := by
  cases hlines : linesOf text with
  | nil =>
      constructor
      · intro first hfirst
        rw [hlines] at hfirst
        cases hfirst
      · intro earlier entry later hsplit
        rw [dataLines, hlines] at hsplit
        exact absurd hsplit.symm (by simp)
  | cons first rest =>
      obtain ⟨hrows, hvalid⟩ := @buildCsvPreview_spec runtime newId selectedToken fileName text
        first rest hlines
      have hheader : ¬ PaysInHeader runtime parseUnits first := by
        -- a row is missing if the first line is skipped although it pays
        intro hpays
        have hlength := congrArg List.length (hrows.symm.trans hfaithful.rows)
        have hall : dataLines runtime parseUnits text = (first :: rest).zipIdx := by
          rw [dataLines, hlines]
          exact if_neg fun hboth => hboth.2 hpays
        rw [List.length_map, List.length_map, hall, loopLines, if_pos hpays.1, List.length_drop]
          at hlength
        simp at hlength
      constructor
      · intro other hother
        rw [hlines] at hother
        obtain rfl := Option.some.inj hother
        exact hheader
      · intro earlier entry later hsplit haddressee hamount
        have hdelimiter := dataDelimiter_cons hlines hheader (by rw [hsplit]; simp)
        obtain ⟨recipient, hrecipient⟩ := Option.isSome_iff_exists.mp haddressee
        have hmember : draftOf runtime newId selectedToken (dataDelimiter runtime parseUnits text)
            entry recipient ∈ ((buildCsvPreview runtime newId selectedToken fileName text).map
              (·.validRows)).getD [] := by
          rw [hvalid, ← hdelimiter, ← dataLines_cons hlines hheader]
          refine mem_draftsOf.mpr ⟨earlier, entry, later, recipient, hsplit, ?_, rfl⟩
          exact Option.filter_eq_some_iff.mpr ⟨hrecipient, hamount⟩
        exact (hfaithful.amounts _ hmember).1

end Main

/-- A header and one payee. -/
def exampleFile : String :=
  "address,amount,token\n0x2222222222222222222222222222222222222222,25.5,USDC"

/-- An amount of `1e3` passes the preview and is nothing to the composer. -/
def exponentFile : String := "0x2222222222222222222222222222222222222222,1e3,USDC"

/-- The note of a payment has a word of a header. -/
def noteFile : String := "0x2222222222222222222222222222222222222222,25,USDC,new wallet"

theorem exponentFile_facts :
    dataLines (.ofTable [] []) roundedUnits exponentFile = [(exponentFile, 0)] ∧
      delimiterOf exponentFile = ',' ∧ (readLine ',' exponentFile).amount = "1e3" ∧
      (addressee (.ofTable [] []) ',' [] (exponentFile, 0)).isSome = true ∧
      amountIsPositive "1e3" = true ∧ Payroll.positiveAmount "1e3" 6 = false := by
  decide +kernel

end WizPay.Csv
