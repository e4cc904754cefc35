import WizPay.Backend.NumberText
import WizPay.Payroll.Planner

/-!
# Batch references

The first batch of a payroll run goes by its base reference, the others by a stem and
a counter: the counter at the end of the base counted up, or one from two up behind a
base without. Two references are the same when stem and counter are, so runs collide
where one base is a counted reference of another, where two ranges of one stem
overlap, and where counting reaches numbers that are no doubles.
-/

namespace WizPay.Payroll

open Backend

/-- What the counter of a base stands behind. -/
def referenceStem (base : String) : String :=
  match matchSuffix base with
  | some (before, _) => before
  | none => base

/-- The number that a base counts from. -/
def referenceStart (base : String) : ℕ :=
  match matchSuffix base with
  | some (_, digits) => toDouble (bigInt digits)
  | none => 1

/-- A base is written as its stem and the number it counts from, with nothing left out and no
leading zero. -/
def WrittenOut (base : String) : Prop :=
  base = referenceStem base ++ "-" ++ numberText (referenceStart base)

/-- A text is one of the counted references of a base: its stem and a double of its range. -/
def Continues (base : String) (n : ℕ) (text : String) : Prop :=
  2 ≤ n ∧ ∃ value, toDouble value = value ∧ toDouble (referenceStart base + 1) ≤ value ∧
    value ≤ toDouble (referenceStart base + (n - 1)) ∧
    text = referenceStem base ++ "-" ++ numberText value

/-- The references of one run of `n` batches stay apart: its counters do, and none is the base
again. -/
def RunApart (base : String) (n : ℕ) : Prop :=
  CountersDistinct (referenceStart base) n ∧
    ¬ (2 ≤ n ∧ WrittenOut base ∧ CountsInPlace (referenceStart base))

/-- The references of two runs stay apart: neither base is a counted reference of the other,
and under one stem the ranges do not meet. -/
def RunsApart (first second : String) (n m : ℕ) : Prop :=
  (0 < n → ¬ Continues second m first) ∧ (0 < m → ¬ Continues first n second) ∧
    ¬ (2 ≤ n ∧ 2 ≤ m ∧ referenceStem first = referenceStem second ∧
      toDouble (referenceStart first + 1) ≤ toDouble (referenceStart second + (m - 1)) ∧
      toDouble (referenceStart second + 1) ≤ toDouble (referenceStart first + (n - 1)))

/-! ## Stem and counter -/

@[simp] theorem toDouble_referenceStart (base : String) :
    toDouble (referenceStart base) = referenceStart base := by
  rw [referenceStart]
  split
  · exact toDouble_toDouble _
  · exact toDouble_of_lt (by decide)

theorem getBatchReferenceId_zero (base : String) : getBatchReferenceId base 0 = base := by
  rw [getBatchReferenceId, if_pos rfl]

theorem getBatchReferenceId_of_pos (base : String) {index : ℕ} (hindex : 1 ≤ index) :
    getBatchReferenceId base index =
      referenceStem base ++ "-" ++ numberText (toDouble (referenceStart base + index)) := by
  rw [getBatchReferenceId, if_neg (by omega), referenceStem, referenceStart]
  cases hsuffix : matchSuffix base with
  | none =>
      dsimp only
      rw [Nat.add_comm]
  | some suffix => rfl

/-- The parts around the last mark are determined. -/
theorem append_cons_inj_last {α : Type} {mark : α} {first second first' second' : List α}
    (hsecond : mark ∉ second) (hsecond' : mark ∉ second')
    (hsame : first ++ mark :: second = first' ++ mark :: second') :
    first = first' ∧ second = second' := by
  have hreverse := congrArg List.reverse hsame
  simp only [List.reverse_append, List.reverse_cons, List.append_assoc, List.singleton_append]
    at hreverse
  obtain ⟨hback, hfront⟩ := append_cons_inj (by simpa using hsecond) (by simpa using hsecond')
    hreverse
  exact ⟨List.reverse_injective hfront, List.reverse_injective hback⟩

/-- A counted reference is determined by its stem and its number. -/
theorem counted_inj {stem stem' : String} {value value' : ℕ} (hdouble : toDouble value = value)
    (hdouble' : toDouble value' = value')
    (hsame : stem ++ "-" ++ numberText value = stem' ++ "-" ++ numberText value') :
    stem = stem' ∧ value = value' := by
  have hlist := congrArg String.toList hsame
  simp only [String.toList_append, List.append_assoc] at hlist
  obtain ⟨hstem, htext⟩ := append_cons_inj_last (hyphen_notMem_numberText hdouble)
    (hyphen_notMem_numberText hdouble') hlist
  exact ⟨String.toList_inj.mp hstem, numberText_inj hdouble hdouble' (String.toList_inj.mp htext)⟩

/-- A matched suffix is what the base ends with. -/
theorem matchSuffix_spec {base before digits : String}
    (hmatch : matchSuffix base = some (before, digits)) :
    (∃ dropped, base.toList = dropped ++ before.toList ++ '-' :: digits.toList) ∧
      ∀ c ∈ digits.toList, isDigit c = true := by
  unfold matchSuffix at hmatch
  dsimp only at hmatch
  split at hmatch
  · next first more rest hdigits hrest =>
      cases hmatch
      simp only [String.toList_ofList, hdigits]
      have hsplit := List.takeWhile_append_dropWhile (p := isDigit) (l := base.toList.reverse)
      have hdrop : (base.toList.reverse.takeWhile isDigit ++
          base.toList.reverse.dropWhile isDigit).drop
            (base.toList.reverse.takeWhile isDigit).length =
          base.toList.reverse.dropWhile isDigit := List.drop_left
      rw [hsplit, hrest] at hdrop
      have hbefore := List.takeWhile_append_dropWhile (p := fun c => !isLineTerminator c)
        (l := rest)
      constructor
      · refine ⟨(rest.dropWhile fun c => !isLineTerminator c).reverse, ?_⟩
        have hreverse := congrArg List.reverse hsplit
        rw [List.reverse_reverse, ← hdrop, hdigits] at hreverse
        rw [← hreverse, ← List.reverse_append, hbefore]
        simp
      · intro c hmember
        rw [List.mem_reverse, ← hdigits] at hmember
        exact List.mem_takeWhile_imp hmember
  · cases hmatch

/-- A base that is a counted reference of itself is written out, and counts in place. -/
theorem base_eq_counted_iff (base : String) {index : ℕ} (hindex : 1 ≤ index) :
    base = getBatchReferenceId base index ↔
      WrittenOut base ∧ toDouble (referenceStart base + index) = referenceStart base := by
  rw [getBatchReferenceId_of_pos base hindex]
  constructor
  · intro hsame
    suffices hvalue : toDouble (referenceStart base + index) = referenceStart base by
      refine ⟨?_, hvalue⟩
      rw [hvalue] at hsame
      exact hsame
    cases hsuffix : matchSuffix base with
    | none =>
        -- a base without a counter is shorter than its counted references
        have hlength := congrArg (fun text => text.toList.length) hsame
        simp [referenceStem, hsuffix] at hlength
    | some suffix =>
        obtain ⟨before, digits⟩ := suffix
        obtain ⟨⟨dropped, hbase⟩, hdigits⟩ := matchSuffix_spec hsuffix
        have hdouble := toDouble_toDouble (referenceStart base + index)
        have hlist := congrArg String.toList hsame
        rw [hbase] at hlist
        simp only [String.toList_append, List.append_assoc] at hlist
        rw [← List.append_assoc dropped] at hlist
        have hhyphen : '-' ∉ digits.toList := by
          intro hmember
          exact absurd (hdigits _ hmember) (by decide)
        obtain ⟨-, htext⟩ := append_cons_inj_last hhyphen (hyphen_notMem_numberText hdouble)
          hlist
        have hreads := bigInt_numberText hdouble (htext ▸ hdigits)
        rw [← String.toList_inj.mp htext] at hreads
        rw [← hreads, referenceStart, hsuffix]
  · rintro ⟨hwritten, hvalue⟩
    rw [hvalue]
    exact hwritten

/-- The counted references of a run are the doubles of its range behind its stem. -/
theorem continues_iff (base : String) (n : ℕ) (text : String) :
    (∃ index, 1 ≤ index ∧ index < n ∧ text = getBatchReferenceId base index) ↔
      Continues base n text := by
  constructor
  · rintro ⟨index, hindex, hlt, rfl⟩
    exact ⟨by omega, _, toDouble_toDouble _, toDouble_mono (by omega), toDouble_mono (by omega),
      getBatchReferenceId_of_pos base hindex⟩
  · rintro ⟨hn, value, hdouble, hfirst, hlast, rfl⟩
    have hfound (index : ℕ) (hindex : 1 ≤ index) (hlt : index < n)
        (hvalue : toDouble (referenceStart base + index) = value) :
        ∃ index, 1 ≤ index ∧ index < n ∧ referenceStem base ++ "-" ++ numberText value =
          getBatchReferenceId base index :=
      ⟨index, hindex, hlt, by rw [getBatchReferenceId_of_pos base hindex, hvalue]⟩
    rcases Nat.le_total value (referenceStart base + 1) with hlow | hlow
    · have hmono := toDouble_mono hlow
      exact hfound 1 (by omega) (by omega) (by omega)
    · rcases Nat.le_total (referenceStart base + (n - 1)) value with hhigh | hhigh
      · have hmono := toDouble_mono hhigh
        exact hfound (n - 1) (by omega) (by omega) (by omega)
      · refine hfound (value - referenceStart base) (by omega) (by omega) ?_
        rw [Nat.add_sub_cancel' (by omega), hdouble]

/-- A run's own references are apart under the condition on its base and its length, and only
then. -/
theorem runApart_iff (base : String) (n : ℕ) :
    (∀ i j, i < j → j < n → getBatchReferenceId base i ≠ getBatchReferenceId base j) ↔
      RunApart base n := by
  have hstart := toDouble_referenceStart base
  have hcounters := countersDistinct_iff (n := n) hstart
  constructor
  · intro hapart
    refine ⟨hcounters.mp ?_, ?_⟩
    · intro i j hi hij hj hsame
      apply hapart i j hij hj
      rw [getBatchReferenceId_of_pos base hi, getBatchReferenceId_of_pos base (by omega), hsame]
    · rintro ⟨hn, hwritten, hplace⟩
      apply hapart 0 1 (by decide) hn
      rw [getBatchReferenceId_zero]
      exact (base_eq_counted_iff base (by decide)).mpr
        ⟨hwritten, (countsInPlace_iff hstart).mpr hplace⟩
  · rintro ⟨hdistinct, hbase⟩ i j hij hj hsame
    rcases Nat.eq_zero_or_pos i with rfl | hi
    · rw [getBatchReferenceId_zero] at hsame
      obtain ⟨hwritten, hvalue⟩ := (base_eq_counted_iff base hij).mp hsame
      -- if counting up by more stays in place, so does counting up by one
      have hone := toDouble_mono (Nat.le_add_right (referenceStart base) 1)
      have hmore : toDouble (referenceStart base + 1) ≤ toDouble (referenceStart base + j) :=
        toDouble_mono (by omega)
      exact hbase ⟨by omega, hwritten, (countsInPlace_iff hstart).mp (by omega)⟩
    · rw [getBatchReferenceId_of_pos base hi, getBatchReferenceId_of_pos base (by omega)] at hsame
      obtain ⟨-, hvalue⟩ := counted_inj (toDouble_toDouble _) (toDouble_toDouble _) hsame
      exact hcounters.mpr hdistinct i j hi hij hj hvalue

/-- The ranges of two runs meet exactly when each begins before the other ends. -/
theorem ranges_meet_iff {first second n m : ℕ} (hn : 2 ≤ n) (hm : 2 ≤ m) :
    (∃ i j, 1 ≤ i ∧ i < n ∧ 1 ≤ j ∧ j < m ∧ toDouble (first + i) = toDouble (second + j)) ↔
      toDouble (first + 1) ≤ toDouble (second + (m - 1)) ∧
        toDouble (second + 1) ≤ toDouble (first + (n - 1)) := by
  constructor
  · rintro ⟨i, j, hi, hin, hj, hjm, hsame⟩
    constructor
    · calc toDouble (first + 1) ≤ toDouble (first + i) := toDouble_mono (by omega)
        _ = toDouble (second + j) := hsame
        _ ≤ toDouble (second + (m - 1)) := toDouble_mono (by omega)
    · calc toDouble (second + 1) ≤ toDouble (second + j) := toDouble_mono (by omega)
        _ = toDouble (first + i) := hsame.symm
        _ ≤ toDouble (first + (n - 1)) := toDouble_mono (by omega)
  · rintro ⟨hfirst, hsecond⟩
    -- the later start lies in the other range, or rounds to that range's end
    rcases Nat.le_total first second with hle | hle
    · rcases Nat.le_total (second + 1) (first + (n - 1)) with hinside | hbeyond
      · exact ⟨second + 1 - first, 1, by omega, by omega, by omega, by omega,
          congrArg toDouble (by omega)⟩
      · exact ⟨n - 1, 1, by omega, by omega, by omega, by omega,
          Nat.le_antisymm (toDouble_mono hbeyond) hsecond⟩
    · rcases Nat.le_total (first + 1) (second + (m - 1)) with hinside | hbeyond
      · exact ⟨1, first + 1 - second, by omega, by omega, by omega, by omega,
          congrArg toDouble (by omega)⟩
      · exact ⟨1, m - 1, by omega, by omega, by omega, by omega,
          Nat.le_antisymm hfirst (toDouble_mono hbeyond)⟩

/-- The references of two runs are apart under the condition on their bases and lengths, and
only then. -/
theorem runsApart_iff {first second : String} (n m : ℕ) (hne : first ≠ second) :
    (∀ i j, i < n → j < m → getBatchReferenceId first i ≠ getBatchReferenceId second j) ↔
      RunsApart first second n m := by
  constructor
  · intro hapart
    refine ⟨?_, ?_, ?_⟩
    · intro hn hcontinues
      obtain ⟨j, -, hj, hsame⟩ := (continues_iff second m first).mpr hcontinues
      apply hapart 0 j hn hj
      rw [getBatchReferenceId_zero, ← hsame]
    · intro hm hcontinues
      obtain ⟨i, -, hi, hsame⟩ := (continues_iff first n second).mpr hcontinues
      apply hapart i 0 hi hm
      rw [getBatchReferenceId_zero, ← hsame]
    · rintro ⟨hn, hm, hstem, hranges⟩
      obtain ⟨i, j, hi, hin, hj, hjm, hsame⟩ := (ranges_meet_iff hn hm).mpr hranges
      apply hapart i j hin hjm
      rw [getBatchReferenceId_of_pos first hi, getBatchReferenceId_of_pos second hj, hstem, hsame]
  · rintro ⟨hfirst, hsecond, hranges⟩ i j hi hj hsame
    rcases Nat.eq_zero_or_pos i with rfl | hipos
    · rw [getBatchReferenceId_zero] at hsame
      rcases Nat.eq_zero_or_pos j with rfl | hjpos
      · exact hne (hsame.trans (getBatchReferenceId_zero second))
      · exact hfirst hi ((continues_iff second m first).mp ⟨j, hjpos, hj, hsame⟩)
    · rcases Nat.eq_zero_or_pos j with rfl | hjpos
      · rw [getBatchReferenceId_zero] at hsame
        exact hsecond hj ((continues_iff first n second).mp ⟨i, hipos, hi, hsame.symm⟩)
      · rw [getBatchReferenceId_of_pos first hipos, getBatchReferenceId_of_pos second hjpos] at hsame
        obtain ⟨hstem, hvalue⟩ := counted_inj (toDouble_toDouble _) (toDouble_toDouble _) hsame
        exact hranges ⟨by omega, by omega, hstem, (ranges_meet_iff (by omega) (by omega)).mp
          ⟨i, j, hipos, hi, hjpos, hj, hvalue⟩⟩

/-- When batch references do not collide: within every run, and between every two runs of
different bases. -/
theorem batch_references_apart_iff (base : String) (n : ℕ) :
    ((∀ i j, i < j → j < n → getBatchReferenceId base i ≠ getBatchReferenceId base j) ↔
      RunApart base n) ∧
    ∀ second m, base ≠ second →
      ((∀ i j, i < n → j < m → getBatchReferenceId base i ≠ getBatchReferenceId second j) ↔
        RunsApart base second n m) :=
  ⟨runApart_iff base n, fun _ m hne => runsApart_iff n m hne⟩

theorem batch_references_apart_single :
    ∀ i j, i < 1 → j < 1 → getBatchReferenceId "PAY-1" i ≠ getBatchReferenceId "PAY-2" j :=
  ((batch_references_apart_iff "PAY-1" 1).2 "PAY-2" 1 (by decide)).mpr
    ⟨fun _ hcontinues => absurd hcontinues.1 (by decide),
      fun _ hcontinues => absurd hcontinues.1 (by decide), fun hlong => absurd hlong.1 (by decide)⟩

/-- The second batch of one run goes by the base of another, and a run may repeat its own. -/
theorem batch_references_collide :
    getBatchReferenceId "PAY-1" 1 = getBatchReferenceId "PAY-2" 0 ∧
      getBatchReferenceId "X-9007199254740992" 0 = getBatchReferenceId "X-9007199254740992" 1 := by
  decide +kernel

end WizPay.Payroll
