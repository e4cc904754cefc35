import Mathlib.Data.Int.Order.Basic
import WizPay.Backend.Conversion

/-!
# Dates

Instants as `Date` keeps them, in milliseconds from 1970, and the text that
`toISOString` makes of one. A text in that format is read back by the calendar;
how the engine reads any other text is a parameter.
-/

namespace WizPay.Backend

/-- The instants a `Date` can hold; every other one is an invalid date. -/
abbrev Instant : Type := {time : ℤ // -8640000000000000 ≤ time ∧ time ≤ 8640000000000000}

instance : DecidableLT Instant := fun first second =>
  inferInstanceAs (Decidable (first.val < second.val))

/-! ## Calendar -/

/-- The days from 1970 to the first day of a year. -/
def dayFromYear (year : ℤ) : ℤ :=
  365 * (year - 1970) + (year - 1969) / 4 - (year - 1901) / 100 + (year - 1601) / 400

def isLeapYear (year : ℤ) : Bool :=
  year % 4 = 0 && (year % 100 ≠ 0 || year % 400 = 0)

/-- The year a day falls in, by the mean length of a year. -/
def yearFromDay (day : ℤ) : ℤ :=
  let estimate := 400 * day / 146097 + 1970
  if day < dayFromYear estimate then estimate - 1
  else if dayFromYear (estimate + 1) ≤ day then estimate + 1
  else estimate

/-- The days of a year before each of its months. -/
def monthStart (leap : Bool) (month : ℕ) : ℕ :=
  [0, 31, 59, 90, 120, 151, 181, 212, 243, 273, 304, 334, 365].getD (month - 1) 0 +
    if leap = true ∧ 2 < month then 1 else 0

def daysInMonth (leap : Bool) (month : ℕ) : ℕ := monthStart leap (month + 1) - monthStart leap month

/-- The month of a day of the year. -/
def monthFromDay (leap : Bool) (day : ℕ) : ℕ :=
  ((List.range' 1 12).filter fun month => monthStart leap month ≤ day).length

theorem dayFromYear_succ (year : ℤ) :
    dayFromYear (year + 1) = dayFromYear year + if isLeapYear year = true then 366 else 365 := by
  unfold dayFromYear isLeapYear
  simp only [Bool.and_eq_true, Bool.or_eq_true, decide_eq_true_eq]
  split
  next hleap => omega
  next hcommon => omega

/-- A day falls between the first day of its year and the first of the next one. -/
theorem yearFromDay_spec (day : ℤ) :
    dayFromYear (yearFromDay day) ≤ day ∧ day < dayFromYear (yearFromDay day + 1) := by
  unfold yearFromDay
  have hlow : dayFromYear (400 * day / 146097 + 1970 - 1) ≤ day := by
    unfold dayFromYear
    omega
  have hhigh : day < dayFromYear (400 * day / 146097 + 1970 + 1 + 1) := by
    unfold dayFromYear
    omega
  dsimp only
  split
  next hbefore => exact ⟨hlow, by rwa [Int.sub_add_cancel]⟩
  next hfrom =>
    split
    next hafter => exact ⟨hafter, hhigh⟩
    next hwithin => exact ⟨not_lt.mp hfrom, not_le.mp hwithin⟩

/-- A day of the year falls in its month. -/
theorem monthFromDay_spec (leap : Bool) {day : ℕ} (hday : day < 365 + leap.toNat) :
    1 ≤ monthFromDay leap day ∧ monthFromDay leap day ≤ 12 ∧
      monthStart leap (monthFromDay leap day) ≤ day ∧
      day < monthStart leap (monthFromDay leap day) + daysInMonth leap (monthFromDay leap day) := by
  have hall : ∀ leap : Bool, ∀ day < 365 + leap.toNat,
      1 ≤ monthFromDay leap day ∧ monthFromDay leap day ≤ 12 ∧
        monthStart leap (monthFromDay leap day) ≤ day ∧
        day < monthStart leap (monthFromDay leap day) +
          daysInMonth leap (monthFromDay leap day) := by
    decide +kernel
  exact hall leap day hday

/-! ## Texts -/

/-- The last `n` decimal digits of a number. -/
def decimalDigits : ℕ → ℕ → List Char
  | 0, _ => []
  | n + 1, value => decimalDigits n (value / 10) ++ [Nat.digitChar (value % 10)]

/-- The year of a date text: four digits, or a sign and six. -/
def yearDigits (year : ℤ) : List Char :=
  if 0 ≤ year ∧ year ≤ 9999 then decimalDigits 4 year.natAbs
  else (if year < 0 then '-' else '+') :: decimalDigits 6 year.natAbs

/-- `toISOString`. -/
def toISOString (instant : Instant) : String :=
  let day := instant.1 / 86400000
  let time := (instant.1 % 86400000).toNat
  let year := yearFromDay day
  let leap := isLeapYear year
  let dayInYear := (day - dayFromYear year).toNat
  let month := monthFromDay leap dayInYear
  String.ofList (yearDigits year ++ '-' :: decimalDigits 2 month ++
    '-' :: decimalDigits 2 (dayInYear - monthStart leap month + 1) ++
    'T' :: decimalDigits 2 (time / 3600000) ++ ':' :: decimalDigits 2 (time / 60000 % 60) ++
    ':' :: decimalDigits 2 (time / 1000 % 60) ++ '.' :: decimalDigits 3 (time % 1000) ++ ['Z'])

/-- A number of exactly `n` digits at the start of a text. -/
def readDigits (n : ℕ) (chars : List Char) : Option (ℕ × List Char) :=
  if (chars.take n).length = n ∧ (chars.take n).all isDigit = true then
    some (digitsValue 10 (chars.take n), chars.drop n)
  else none

def readMark (mark : Char) : List Char → Option (List Char)
  | c :: rest => if c = mark then some rest else none
  | [] => none

/-- The year at the start of a date text; the year zero has no minus sign. -/
def readYear : List Char → Option (ℤ × List Char)
  | '+' :: rest => (readDigits 6 rest).map fun (year, rest) => (year, rest)
  | '-' :: rest => (readDigits 6 rest).bind fun (year, rest) =>
      if year = 0 then none else some (-year, rest)
  | rest => (readDigits 4 rest).map fun (year, rest) => (year, rest)

/-- The time that a text in the format of `toISOString` names. -/
def timeOf (chars : List Char) : Option ℤ := do
  let (year, chars) ← readYear chars
  let (month, chars) ← readDigits 2 (← readMark '-' chars)
  let (date, chars) ← readDigits 2 (← readMark '-' chars)
  let (hour, chars) ← readDigits 2 (← readMark 'T' chars)
  let (minute, chars) ← readDigits 2 (← readMark ':' chars)
  let (second, chars) ← readDigits 2 (← readMark ':' chars)
  let (milli, chars) ← readDigits 3 (← readMark '.' chars)
  let leap := isLeapYear year
  if chars = ['Z'] ∧ 1 ≤ month ∧ month ≤ 12 ∧ 1 ≤ date ∧ date ≤ daysInMonth leap month ∧
      hour < 24 ∧ minute < 60 ∧ second < 60 then
    some ((dayFromYear year + monthStart leap month + date - 1) * 86400000 +
      (hour * 3600000 + minute * 60000 + second * 1000 + milli : ℕ))
  else none

/-- The date that `new Date` makes of a text; none is an invalid date. -/
def parseDate (otherDate : String → Option Instant) (text : String) : Option Instant :=
  match timeOf text.toList with
  | some time => if hrange : _ then some ⟨time, hrange⟩ else none
  | none => otherDate text

theorem decimalDigits_length (n value : ℕ) : (decimalDigits n value).length = n := by
  induction n generalizing value with
  | zero => rfl
  | succ n ih => simp [decimalDigits, ih]

theorem digitChar_spec {value : ℕ} (hvalue : value < 10) :
    isDigit (Nat.digitChar value) = true ∧ hexValue (Nat.digitChar value) = value := by
  have hall : ∀ value < 10, isDigit (Nat.digitChar value) = true ∧
      hexValue (Nat.digitChar value) = value := by decide
  exact hall value hvalue

theorem decimalDigits_isDigit (n value : ℕ) : (decimalDigits n value).all isDigit = true := by
  induction n generalizing value with
  | zero => rfl
  | succ n ih => simp [decimalDigits, ih, digitChar_spec (Nat.mod_lt value (by decide : 0 < 10))]

theorem digitsValue_decimalDigits {n value : ℕ} (hvalue : value < 10 ^ n) :
    digitsValue 10 (decimalDigits n value) = value := by
  induction n generalizing value with
  | zero => exact (Nat.lt_one_iff.mp hvalue).symm
  | succ n ih =>
    have hrest : digitsValue 10 (decimalDigits n (value / 10)) = value / 10 :=
      ih (by rw [Nat.pow_succ] at hvalue; omega)
    unfold digitsValue at hrest ⊢
    rw [decimalDigits, List.foldl_append, hrest]
    simp only [List.foldl_cons, List.foldl_nil,
      (digitChar_spec (Nat.mod_lt value (by decide : 0 < 10))).2]
    omega

/-- A number written with enough digits is read back. -/
theorem readDigits_append {n value : ℕ} (hvalue : value < 10 ^ n) (rest : List Char) :
    readDigits n (decimalDigits n value ++ rest) = some (value, rest) := by
  have htake : (decimalDigits n value ++ rest).take n = decimalDigits n value :=
    List.take_left' (decimalDigits_length n value)
  have hdrop : (decimalDigits n value ++ rest).drop n = rest :=
    List.drop_left' (decimalDigits_length n value)
  unfold readDigits
  rw [htake, hdrop, digitsValue_decimalDigits hvalue,
    if_pos ⟨decimalDigits_length n value, decimalDigits_isDigit n value⟩]

@[simp] theorem readMark_cons (mark : Char) (rest : List Char) :
    readMark mark (mark :: rest) = some rest := if_pos rfl

theorem readYear_digit {c : Char} (hdigit : isDigit c = true) (rest : List Char) :
    readYear (c :: rest) = (readDigits 4 (c :: rest)).map fun (year, rest) => (year, rest) := by
  unfold readYear
  split
  next heq => cases heq; exact absurd hdigit (by decide)
  next heq => cases heq; exact absurd hdigit (by decide)
  next => rfl

/-- A year of at most six digits is read back. -/
theorem readYear_append {year : ℤ} (hyear : year.natAbs < 1000000) (rest : List Char) :
    readYear (yearDigits year ++ rest) = some (year, rest) := by
  unfold yearDigits
  split
  next hplain =>
    obtain ⟨c, digits, hdigits⟩ : ∃ c digits, decimalDigits 4 year.natAbs = c :: digits :=
      List.exists_cons_of_length_pos (by rw [decimalDigits_length]; decide)
    have hdigit : isDigit c = true :=
      List.all_eq_true.mp (decimalDigits_isDigit 4 year.natAbs) c (by simp [hdigits])
    have hread := @readDigits_append 4 year.natAbs (by omega) rest
    rw [hdigits, List.cons_append] at hread ⊢
    rw [readYear_digit hdigit, hread]
    simp [Int.natAbs_of_nonneg hplain.1]
  next hsigned =>
    have hread := @readDigits_append 6 year.natAbs hyear rest
    split
    next hnegative =>
      simp only [List.cons_append, readYear, hread, Option.bind_some]
      rw [if_neg (by omega)]
      simp [Int.ofNat_natAbs_of_nonpos hnegative.le]
    next hpositive =>
      simp only [List.cons_append, readYear, hread, Option.map_some]
      simp [Int.natAbs_of_nonneg (not_lt.mp hpositive)]

/-- A date text by its fields. -/
def dateText (year : ℤ) (month date hour minute second milli : ℕ) : List Char :=
  yearDigits year ++ ('-' :: (decimalDigits 2 month ++ ('-' :: (decimalDigits 2 date ++
    ('T' :: (decimalDigits 2 hour ++ (':' :: (decimalDigits 2 minute ++
    (':' :: (decimalDigits 2 second ++ ('.' :: (decimalDigits 3 milli ++ ['Z']))))))))))))

theorem daysInMonth_le (leap : Bool) {month : ℕ} (hmonth : month ≤ 12) :
    daysInMonth leap month ≤ 31 := by
  have hall : ∀ leap : Bool, ∀ month < 13, daysInMonth leap month ≤ 31 := by decide
  exact hall leap month (Nat.lt_succ_of_le hmonth)

/-- The fields of a date are read back, if the calendar and the clock have them. -/
theorem timeOf_dateText {year : ℤ} {month date hour minute second milli : ℕ}
    (hyear : year.natAbs < 1000000) (hmonth : 1 ≤ month ∧ month ≤ 12)
    (hdate : 1 ≤ date ∧ date ≤ daysInMonth (isLeapYear year) month) (hhour : hour < 24)
    (hminute : minute < 60) (hsecond : second < 60) (hmilli : milli < 1000) :
    timeOf (dateText year month date hour minute second milli) =
      some ((dayFromYear year + monthStart (isLeapYear year) month + date - 1) * 86400000 +
        (hour * 3600000 + minute * 60000 + second * 1000 + milli : ℕ)) := by
  have hdays := daysInMonth_le (isLeapYear year) hmonth.2
  have hread : ∀ {value : ℕ}, value < 100 → ∀ rest,
      readDigits 2 (decimalDigits 2 value ++ rest) = some (value, rest) :=
    fun hvalue rest => readDigits_append hvalue rest
  unfold timeOf dateText
  simp only [readYear_append hyear, Option.bind_eq_bind, Option.bind_some, readMark_cons,
    hread (show month < 100 by omega), hread (show date < 100 by omega),
    hread (show hour < 100 by omega), hread (show minute < 100 by omega),
    hread (show second < 100 by omega), readDigits_append (show milli < 10 ^ 3 from hmilli)]
  exact if_pos ⟨trivial, hmonth.1, hmonth.2, hdate.1, hdate.2, hhour, hminute, hsecond⟩

/-- The text of an instant names its time. -/
theorem timeOf_toISOString (instant : Instant) :
    timeOf (toISOString instant).toList = some instant.1 := by
  obtain ⟨time, hlow, hhigh⟩ := instant
  have htext : (toISOString ⟨time, hlow, hhigh⟩).toList =
      let day := time / 86400000
      let clock := (time % 86400000).toNat
      let leap := isLeapYear (yearFromDay day)
      let dayInYear := (day - dayFromYear (yearFromDay day)).toNat
      let month := monthFromDay leap dayInYear
      dateText (yearFromDay day) month (dayInYear - monthStart leap month + 1)
        (clock / 3600000) (clock / 60000 % 60) (clock / 1000 % 60) (clock % 1000) := by
    simp only [toISOString, dateText, String.toList_ofList, List.append_assoc, List.cons_append]
  rw [htext]
  dsimp only
  have hday : time / 86400000 * 86400000 + (time % 86400000).toNat = time := by omega
  have hclock : (time % 86400000).toNat < 86400000 := by omega
  have hrange : -100000000 ≤ time / 86400000 ∧ time / 86400000 ≤ 100000000 := by omega
  generalize (time % 86400000).toNat = clock at hday hclock ⊢
  generalize time / 86400000 = day at hday hrange ⊢
  obtain ⟨hfirst, hnext⟩ := yearFromDay_spec day
  generalize yearFromDay day = year at hfirst hnext ⊢
  have hyear : year.natAbs < 1000000 := by
    unfold dayFromYear at hfirst hnext
    omega
  rw [dayFromYear_succ] at hnext
  have hinYear : (day - dayFromYear year).toNat < 365 + (isLeapYear year).toNat := by
    cases hleap : isLeapYear year
    · simp only [hleap, Bool.false_eq_true, if_false] at hnext
      simp only [Bool.toNat_false]
      omega
    · simp only [hleap, if_true] at hnext
      simp only [Bool.toNat_true]
      omega
  have hsame : dayFromYear year + (day - dayFromYear year).toNat = day := by omega
  generalize (day - dayFromYear year).toNat = dayInYear at hinYear hsame ⊢
  obtain ⟨hmonth, hmonthHigh, hstart, hwithin⟩ := monthFromDay_spec (isLeapYear year) hinYear
  generalize monthFromDay (isLeapYear year) dayInYear = month at hmonth hmonthHigh hstart hwithin ⊢
  rw [timeOf_dateText hyear ⟨hmonth, hmonthHigh⟩ ⟨by omega, by omega⟩ (by omega) (by omega)
    (by omega) (by omega)]
  refine congrArg some ?_
  omega

/-- The text of an instant is read back as that instant. -/
theorem parseDate_toISOString (otherDate : String → Option Instant) (instant : Instant) :
    parseDate otherDate (toISOString instant) = some instant := by
  unfold parseDate
  rw [timeOf_toISOString]
  exact dif_pos instant.2

end WizPay.Backend
