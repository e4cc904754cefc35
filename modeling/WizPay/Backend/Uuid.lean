import WizPay.Backend.Address

/-!
# UUIDs

The ids the database gives its rows: 128 bits, compared as numbers, and written as
hex digits in five groups.
-/

namespace WizPay.Backend

open Evm

abbrev Uuid : Type := Fin (2 ^ 128)

instance uuidCountNeZero : NeZero (2 ^ 128) := ⟨by decide⟩

/-- The groups of 8, 4, 4, 4 and 12 digits, with hyphens between them. -/
def groupDigits (digits : List Char) : List Char :=
  digits.take 8 ++ '-' :: ((digits.drop 8).take 4 ++ '-' :: ((digits.drop 12).take 4 ++
    '-' :: ((digits.drop 16).take 4 ++ '-' :: digits.drop 20)))

def Uuid.text (id : Uuid) : String := String.ofList (groupDigits (hexDigits 32 id.val))

/-- The id a text names; spellings without these groups are left to the database. -/
def Uuid.ofText (otherForm : String → Option Uuid) (text : String) : Option Uuid :=
  let digits := text.toList.filter (· ≠ '-')
  if digits.length = 32 ∧ digits.all isHexDigit = true ∧ text.toList = groupDigits digits then
    some (Fin.ofNat (2 ^ 128) (hexNat digits))
  else otherForm text

theorem filter_groupDigits {digits : List Char} (hdigits : ∀ c ∈ digits, c ≠ '-') :
    (groupDigits digits).filter (· ≠ '-') = digits := by
  have hall : ∀ part : List Char, part ⊆ digits → part.filter (· ≠ '-') = part := by
    intro part hpart
    apply List.filter_eq_self.mpr
    intro c hmember
    simpa using hdigits c (hpart hmember)
  have hskip : ∀ rest : List Char, ('-' :: rest).filter (· ≠ '-') = rest.filter (· ≠ '-') :=
    fun rest => List.filter_cons_of_neg (by decide)
  have hsub : ∀ n m : ℕ, (digits.drop n).take m ⊆ digits := fun n m =>
    ((List.take_sublist m _).trans (List.drop_sublist n _)).subset
  unfold groupDigits
  rw [List.filter_append, hskip, List.filter_append, hskip, List.filter_append, hskip,
    List.filter_append, hskip, hall _ (List.take_sublist 8 digits).subset, hall _ (hsub 8 4),
    hall _ (hsub 12 4), hall _ (hsub 16 4), hall _ (List.drop_sublist 20 digits).subset]
  have hjoin : ∀ n m : ℕ, (digits.drop n).take m ++ digits.drop (n + m) = digits.drop n := by
    intro n m
    rw [← List.drop_drop, List.take_append_drop]
  rw [hjoin 16 4, hjoin 12 4, hjoin 8 4, List.take_append_drop]

/-- The text of an id names that id. -/
theorem Uuid.ofText_text (otherForm : String → Option Uuid) (id : Uuid) :
    Uuid.ofText otherForm id.text = some id := by
  have hhex := hexDigits_isHexDigit 32 id.val
  have hfilter := filter_groupDigits fun c hmember heq =>
    absurd (hhex c hmember) (by rw [heq]; decide)
  unfold Uuid.ofText Uuid.text
  simp only [String.toList_ofList, hfilter]
  rw [if_pos ⟨hexDigits_length 32 id.val, List.all_eq_true.mpr hhex, trivial⟩,
    hexNat_hexDigits (id.isLt.trans_le (by norm_num))]
  exact congrArg some (Fin.ext (Nat.mod_eq_of_lt id.isLt))

end WizPay.Backend
