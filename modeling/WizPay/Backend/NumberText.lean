import Mathlib.Data.List.Basic
import Std.Data.String.ToNat
import WizPay.Backend.Doubles
import WizPay.Backend.Text

/-!
# The texts of numbers

A decimal is printed as its digits, or in exponent form when it is long; either way
the text determines the decimal, and the shortest decimal of a double determines the
double. Number texts hold no hyphen.
-/

namespace WizPay.Backend

/-! ## Digits -/

theorem toList_toString (n : ℕ) : (toString n).toList = Nat.toDigits 10 n := by
  rw [Nat.toString_eq_repr, Nat.toList_repr]

theorem isDigit_of_mem_toDigits {n : ℕ} {c : Char} (hmember : c ∈ Nat.toDigits 10 n) :
    isDigit c = true := by
  have hdigit := Nat.isDigit_of_mem_toDigits (by decide) (by decide) hmember
  rw [Char.isDigit] at hdigit
  exact hdigit

theorem toDigits_inj {n m : ℕ} (hsame : Nat.toDigits 10 n = Nat.toDigits 10 m) : n = m := by
  have hvalue := congrArg (fun digits => Nat.ofDigitChars 10 digits 0) hsame
  simpa using hvalue

/-- The digits of a number read back as it. -/
theorem bigInt_toString (n : ℕ) : bigInt (toString n) = n := by
  rw [bigInt, toList_toString]
  conv_rhs => rw [← Nat.ofDigitChars_ten_toDigits (n := n)]
  rw [Nat.ofDigitChars]
  congr 1
  funext value c
  rw [Nat.mul_comm]
  rfl

/-- A positive number starts with a digit other than zero. -/
theorem toDigits_head {n : ℕ} (hpositive : 0 < n) :
    ∃ first rest, Nat.toDigits 10 n = first :: rest ∧ first ≠ '0' := by
  induction n using Nat.strong_induction_on with
  | _ n ih =>
      rcases Nat.lt_or_ge n 10 with hsmall | hlarge
      · refine ⟨n.digitChar, [], Nat.toDigits_of_lt_base hsmall, ?_⟩
        interval_cases n <;> decide
      · obtain ⟨first, rest, hdigits, hne⟩ := ih (n / 10) (by omega) (by omega)
        exact ⟨first, rest ++ [(n % 10).digitChar],
          by rw [Nat.toDigits_of_base_le (by decide) hlarge, hdigits]; rfl, hne⟩

theorem isBaseUnits_toString {n : ℕ} (hpositive : 0 < n) : isBaseUnits (toString n) = true := by
  obtain ⟨first, rest, hdigits, hne⟩ := toDigits_head hpositive
  have hall : ∀ c ∈ first :: rest, isDigit c = true := by
    intro c hmember
    rw [← hdigits] at hmember
    exact isDigit_of_mem_toDigits hmember
  rw [isBaseUnits, toList_toString, hdigits]
  simp only [Bool.and_eq_true, List.all_eq_true, decide_eq_true_eq]
  exact ⟨⟨hall first List.mem_cons_self, hne⟩, fun c hmember => hall c (List.mem_cons_of_mem _ hmember)⟩

/-- A canonical positive integer is positive. -/
theorem bigInt_pos {text : String} (hunits : isBaseUnits text = true) : 0 < bigInt text := by
  have hgrows (digits : List Char) (value : ℕ) : value ≤
      digits.foldl (fun value c => value * 10 + (c.val.toNat - '0'.val.toNat)) value := by
    induction digits generalizing value with
    | nil => exact Nat.le_refl _
    | cons c rest ih =>
        have hstep : value ≤ value * 10 + (c.val.toNat - '0'.val.toNat) := by omega
        exact hstep.trans (ih _)
  unfold isBaseUnits at hunits
  split at hunits
  · next first rest hchars =>
      simp only [Bool.and_eq_true, decide_eq_true_eq, isDigit] at hunits
      obtain ⟨⟨⟨hlow, -⟩, hzero⟩, -⟩ := hunits
      have hnat : '0'.val.toNat ≤ first.val.toNat := hlow
      have hne : first.val.toNat ≠ '0'.val.toNat := fun h => hzero
        (Char.ext (UInt32.toNat_inj.mp h))
      rw [bigInt, hchars, List.foldl_cons]
      exact Nat.lt_of_lt_of_le (by omega) (hgrows rest _)
  · cases hunits

theorem length_toString_le {n length : ℕ} (hlength : 0 < length) (hlt : n < 10 ^ length) :
    (toString n).length ≤ length := by
  rw [← String.length_toList, toList_toString]
  exact (Nat.length_toDigits_le_iff (by decide) hlength).mpr hlt

/-- Two texts with one mark between parts that are free of it have the same parts. -/
theorem append_cons_inj {α : Type} {mark : α} {first second first' second' : List α}
    (hfirst : mark ∉ first) (hfirst' : mark ∉ first')
    (hsame : first ++ mark :: second = first' ++ mark :: second') :
    first = first' ∧ second = second' := by
  induction first generalizing first' with
  | nil =>
      cases first' with
      | nil => exact ⟨rfl, (List.cons.inj hsame).2⟩
      | cons head tail =>
          have hhead : mark = head := (List.cons.inj hsame).1
          exact absurd (hhead ▸ List.mem_cons_self) hfirst'
  | cons head tail ih =>
      cases first' with
      | nil =>
          have hhead : head = mark := (List.cons.inj hsame).1
          exact absurd (hhead ▸ List.mem_cons_self) hfirst
      | cons head' tail' =>
          obtain ⟨rfl, htail⟩ := List.cons.inj hsame
          obtain ⟨rfl, hsecond⟩ := ih (fun h => hfirst (List.mem_cons_of_mem _ h))
            (fun h => hfirst' (List.mem_cons_of_mem _ h)) htail
          exact ⟨rfl, hsecond⟩

/-! ## Decimals -/

/-- The digits before the zeros at the end. -/
def significantDigits (decimal : ℕ) : List Char := (Nat.toDigits 10 decimal).rdropWhile (· = '0')

/-- What stands before the exponent. -/
def mantissaText : List Char → List Char
  | [] => []
  | [first] => [first]
  | first :: rest => first :: '.' :: rest

theorem toDigits_eq_append_zeros (decimal : ℕ) : Nat.toDigits 10 decimal =
    significantDigits decimal ++ List.replicate
      ((Nat.toDigits 10 decimal).length - (significantDigits decimal).length) '0' := by
  have hsplit := (List.rdropWhile_append_rtakeWhile (p := fun c : Char => decide (c = '0'))
    (l := Nat.toDigits 10 decimal)).symm
  have hzeros : (Nat.toDigits 10 decimal).rtakeWhile (fun c => decide (c = '0')) =
      List.replicate ((Nat.toDigits 10 decimal).rtakeWhile (fun c => decide (c = '0'))).length
        '0' :=
    List.eq_replicate_of_mem fun c hmember => of_decide_eq_true
      (List.mem_rtakeWhile_imp (p := fun c => decide (c = '0')) hmember)
  have hlength := congrArg List.length hsplit
  rw [List.length_append] at hlength
  rw [significantDigits]
  conv_lhs => rw [hsplit, hzeros]
  congr 2
  omega

theorem mem_significantDigits {decimal : ℕ} {c : Char} (hmember : c ∈ significantDigits decimal) :
    isDigit c = true :=
  isDigit_of_mem_toDigits
    ((List.rdropWhile_prefix (fun c => decide (c = '0')) _).subset hmember)

/-- A long decimal has a digit that is not zero. -/
theorem significantDigits_ne_nil {decimal : ℕ} (hlong : 1 < (Nat.toDigits 10 decimal).length) :
    significantDigits decimal ≠ [] := by
  intro hnil
  have hzeros := toDigits_eq_append_zeros decimal
  rw [hnil, List.nil_append] at hzeros
  have hvalue := congrArg (fun digits => Nat.ofDigitChars 10 digits 0) hzeros
  simp only [Nat.ofDigitChars_ten_toDigits, Nat.ofDigitChars_replicate_zero, Nat.mul_zero]
    at hvalue
  rw [hvalue, Nat.toDigits_zero] at hlong
  exact absurd hlong (by decide)

/-- Short decimals are printed as digits, long ones with an exponent. -/
theorem toList_decimalText (decimal : ℕ) : (decimalText decimal).toList =
    if (Nat.toDigits 10 decimal).length ≤ 21 then Nat.toDigits 10 decimal
    else mantissaText (significantDigits decimal) ++
      'e' :: '+' :: Nat.toDigits 10 ((Nat.toDigits 10 decimal).length - 1) := by
  have hdigits := toList_toString decimal
  rw [decimalText, hdigits]
  split
  · exact hdigits
  · next hlong =>
      have hne := @significantDigits_ne_nil decimal (by omega)
      rw [significantDigits] at hne ⊢
      split
      · next first hone =>
          rw [hone]
          simp [mantissaText]
      · next first rest hmore hcons =>
          cases rest with
          | nil => exact (hmore rfl).elim
          | cons second rest =>
              rw [hcons]
              simp [mantissaText]
      · next hnil => exact absurd hnil hne

theorem mantissaText_inj {digits digits' : List Char} (hdigits : ∀ c ∈ digits, isDigit c = true)
    (hdigits' : ∀ c ∈ digits', isDigit c = true)
    (hsame : mantissaText digits = mantissaText digits') : digits = digits' := by
  have hdot : isDigit '.' = false := by decide
  match digits, digits' with
  | [], [] => rfl
  | [], [_] => cases hsame
  | [], _ :: _ :: _ => cases hsame
  | [_], [] => cases hsame
  | [_], [_] => exact hsame
  | [_], _ :: _ :: _ => cases hsame
  | _ :: _ :: _, [] => cases hsame
  | _ :: _ :: _, [_] => cases hsame
  | first :: second :: rest, first' :: second' :: rest' =>
      simp only [mantissaText, List.cons.injEq, true_and] at hsame ⊢
      exact hsame

/-- No digit is the mark of the exponent. -/
theorem exponent_notMem_mantissaText {digits : List Char}
    (hdigits : ∀ c ∈ digits, isDigit c = true) : 'e' ∉ mantissaText digits := by
  have hmark : isDigit 'e' = false := by decide
  intro hmember
  match digits with
  | [] => cases hmember
  | [first] =>
      have hdigit := hdigits 'e' hmember
      rw [hmark] at hdigit
      cases hdigit
  | first :: second :: rest =>
      simp only [mantissaText, List.mem_cons, Char.reduceEq, false_or] at hmember
      have hdigit := hdigits 'e' (by simpa using hmember)
      rw [hmark] at hdigit
      cases hdigit

/-- A decimal is determined by its text. -/
theorem decimalText_inj {decimal decimal' : ℕ}
    (hsame : decimalText decimal = decimalText decimal') : decimal = decimal' := by
  have hmark : isDigit 'e' = false := by decide
  have hnone {n : ℕ} : 'e' ∉ Nat.toDigits 10 n := by
    intro hmember
    rw [isDigit_of_mem_toDigits hmember] at hmark
    cases hmark
  have hlist := congrArg String.toList hsame
  rw [toList_decimalText, toList_decimalText] at hlist
  split at hlist
  · split at hlist
    · exact toDigits_inj hlist
    · exact absurd (hlist ▸ List.mem_append_right _ List.mem_cons_self) hnone
  · split at hlist
    · exact absurd (hlist ▸ List.mem_append_right _ List.mem_cons_self) hnone
    · next hlong hlong' =>
        obtain ⟨hmantissa, hexponent⟩ := append_cons_inj
          (exponent_notMem_mantissaText fun c => mem_significantDigits)
          (exponent_notMem_mantissaText fun c => mem_significantDigits) hlist
        have hlength := toDigits_inj (List.cons.inj hexponent).2
        have hdigits := mantissaText_inj (fun c => mem_significantDigits)
          (fun c => mem_significantDigits) hmantissa
        apply toDigits_inj
        rw [toDigits_eq_append_zeros decimal, toDigits_eq_append_zeros decimal', hdigits]
        congr 2
        omega

/-! ## Numbers -/

theorem shortestDecimal_reads {value : ℕ} (hdouble : toDouble value = value) :
    toDouble (shortestDecimal value) = value := by
  rw [shortestDecimal]
  cases hfind : (List.range' 1 (toString value).length).findSome? fun length =>
      roundTrip value ((toString value).length - length) with
  | none => exact hdouble
  | some decimal =>
      obtain ⟨length, -, htrip⟩ := List.exists_of_findSome?_eq_some hfind
      rw [roundTrip] at htrip
      have hreads := List.find?_some htrip
      exact of_decide_eq_true hreads

/-- A finite double is printed as a decimal that reads back as it. -/
theorem numberText_decimal {value : ℕ} (hdouble : toDouble value = value)
    (hfinite : value < infinity) :
    ∃ decimal, numberText value = decimalText decimal ∧ toDouble decimal = value := by
  by_cases hlt : value < 2 ^ 53
  · refine ⟨value, ?_, hdouble⟩
    have hshort : (Nat.toDigits 10 value).length ≤ 21 :=
      (Nat.length_toDigits_le_iff (by decide) (by decide)).mpr (hlt.trans (by decide))
    rw [numberText, if_pos hlt, decimalText, toList_toString, if_pos hshort]
  · exact ⟨shortestDecimal value, by rw [numberText, if_neg hlt, if_pos hfinite],
      shortestDecimal_reads hdouble⟩

theorem numberText_infinity : numberText infinity = "Infinity" := by
  rw [numberText, if_neg (Nat.not_lt.mpr (two_pow_le_infinity (by decide))),
    if_neg (Nat.lt_irrefl _)]

/-- A decimal starts with a digit. -/
theorem decimalText_head (decimal : ℕ) :
    ∃ first rest, (decimalText decimal).toList = first :: rest ∧ isDigit first = true := by
  rw [toList_decimalText]
  split
  · cases hdigits : Nat.toDigits 10 decimal with
    | nil => exact absurd hdigits Nat.toDigits_ne_nil
    | cons first rest =>
        exact ⟨first, rest, rfl, isDigit_of_mem_toDigits (hdigits ▸ List.mem_cons_self)⟩
  · next hlong =>
      have hne := @significantDigits_ne_nil decimal (by omega)
      match hdigits : significantDigits decimal with
      | [] => exact absurd hdigits hne
      | [first] =>
          exact ⟨first, _, rfl, mem_significantDigits (hdigits ▸ List.mem_cons_self)⟩
      | first :: second :: rest =>
          exact ⟨first, _, rfl, mem_significantDigits (hdigits ▸ List.mem_cons_self)⟩

theorem decimalText_ne_infinity (decimal : ℕ) : decimalText decimal ≠ "Infinity" := by
  intro hsame
  obtain ⟨first, rest, hlist, hdigit⟩ := decimalText_head decimal
  rw [hsame] at hlist
  have hfirst : 'I' = first := (List.cons.inj hlist).1
  rw [← hfirst] at hdigit
  exact absurd hdigit (by decide)

/-- A double is determined by its text. -/
theorem numberText_inj {value value' : ℕ} (hdouble : toDouble value = value)
    (hdouble' : toDouble value' = value') (hsame : numberText value = numberText value') :
    value = value' := by
  have hbound := hdouble ▸ toDouble_le_infinity value
  have hbound' := hdouble' ▸ toDouble_le_infinity value'
  rcases Nat.lt_or_eq_of_le hbound with hfinite | rfl
  · obtain ⟨decimal, htext, hreads⟩ := numberText_decimal hdouble hfinite
    rcases Nat.lt_or_eq_of_le hbound' with hfinite' | rfl
    · obtain ⟨decimal', htext', hreads'⟩ := numberText_decimal hdouble' hfinite'
      rw [htext, htext'] at hsame
      rw [← hreads, ← hreads', decimalText_inj hsame]
    · rw [htext, numberText_infinity] at hsame
      exact absurd hsame (decimalText_ne_infinity decimal)
  · rcases Nat.lt_or_eq_of_le hbound' with hfinite' | rfl
    · obtain ⟨decimal', htext', -⟩ := numberText_decimal hdouble' hfinite'
      rw [htext', numberText_infinity] at hsame
      exact absurd hsame.symm (decimalText_ne_infinity decimal')
    · rfl

/-- A number text of digits only reads back as its number. -/
theorem bigInt_numberText {value : ℕ} (hdouble : toDouble value = value)
    (hdigits : ∀ c ∈ (numberText value).toList, isDigit c = true) :
    toDouble (bigInt (numberText value)) = value := by
  have hmark : isDigit 'e' = false := by decide
  have hfinite : value < infinity := by
    refine Nat.lt_of_le_of_ne (hdouble ▸ toDouble_le_infinity value) ?_
    rintro rfl
    rw [numberText_infinity] at hdigits
    exact absurd (hdigits 'I' (by decide)) (by decide)
  obtain ⟨decimal, htext, hreads⟩ := numberText_decimal hdouble hfinite
  rw [htext] at hdigits ⊢
  have hlist := toList_decimalText decimal
  by_cases hshort : (Nat.toDigits 10 decimal).length ≤ 21
  · rw [if_pos hshort, ← toList_toString] at hlist
    rw [String.toList_inj.mp hlist, bigInt_toString, hreads]
  · -- the exponent's mark is no digit
    rw [if_neg hshort] at hlist
    rw [hdigits 'e' (by rw [hlist]; simp)] at hmark
    cases hmark

theorem hyphen_notMem_decimalText (decimal : ℕ) : '-' ∉ (decimalText decimal).toList := by
  have hmark : isDigit '-' = false := by decide
  have hnone {n : ℕ} : '-' ∉ Nat.toDigits 10 n := by
    intro hmember
    rw [isDigit_of_mem_toDigits hmember] at hmark
    cases hmark
  have hmantissa {digits : List Char} (hdigits : ∀ c ∈ digits, isDigit c = true) :
      '-' ∉ mantissaText digits := by
    intro hmember
    have hdigit : '-' ∈ digits := by
      match digits with
      | [] => cases hmember
      | [first] => exact hmember
      | first :: second :: rest => simpa [mantissaText] using hmember
    rw [hdigits '-' hdigit] at hmark
    cases hmark
  rw [toList_decimalText]
  split
  · exact hnone
  · intro hmember
    rcases List.mem_append.mp hmember with hmember | hmember
    · exact hmantissa (fun c => mem_significantDigits) hmember
    · simp only [List.mem_cons, Char.reduceEq, false_or] at hmember
      exact hnone hmember

/-- No number text holds a hyphen. -/
theorem hyphen_notMem_numberText {value : ℕ} (hdouble : toDouble value = value) :
    '-' ∉ (numberText value).toList := by
  rcases Nat.lt_or_eq_of_le (hdouble ▸ toDouble_le_infinity value) with hfinite | rfl
  · obtain ⟨decimal, htext, -⟩ := numberText_decimal hdouble hfinite
    rw [htext]
    exact hyphen_notMem_decimalText decimal
  · rw [numberText_infinity]
    decide

end WizPay.Backend
