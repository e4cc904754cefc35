import WizPay.Ans.Controller
import WizPay.Foundation.Expressions

/-!
# The labels

A namespace and a name in it are labels of one grammar, `[a-z0-9]([a-z0-9-]*[a-z0-9])?`,
which each of two contracts checks character by character. The check accepts the words of
the grammar that are long enough, and nothing else. As no label has a dot in it, a dotted
name is the name of one pair of labels only.
-/

namespace WizPay.Ans

open Foundation Evm

variable {Node Label : Type}

/-! ## The grammar -/

/-- `[a-z0-9]`. -/
def alphanumerics : List UInt8 :=
  (List.range' 0x61 26).map UInt8.ofNat ++ (List.range' 0x30 10).map UInt8.ofNat

/-- `[a-z0-9]([a-z0-9-]*[a-z0-9])?`. -/
def labelExpression : RegularExpression UInt8 :=
  framed alphanumerics (0x2d :: alphanumerics)

theorem mem_byteRange {low count : ℕ} (hbyte : low + count ≤ 256) {character : UInt8} :
    character ∈ (List.range' low count).map UInt8.ofNat ↔
      low ≤ character.toNat ∧ character.toNat < low + count := by
  rw [List.mem_map]
  constructor
  · intro hmem
    obtain ⟨code, hcode, rfl⟩ := hmem
    rw [List.mem_range'_1] at hcode
    rw [UInt8.toNat_ofNat_of_lt' (by change code < 256; omega)]
    exact hcode
  · intro hrange
    exact ⟨character.toNat, List.mem_range'_1.mpr hrange, UInt8.ofNat_toNat⟩

theorem mem_alphanumerics {character : UInt8} :
    character ∈ alphanumerics ↔
      (0x61 ≤ character ∧ character ≤ 0x7a) ∨ (0x30 ≤ character ∧ character ≤ 0x39) := by
  rw [alphanumerics, List.mem_append, mem_byteRange (by decide), mem_byteRange (by decide)]
  simp only [UInt8.le_iff_toNat_le, UInt8.reduceToNat]
  omega

theorem alphanumerics_sub :
    ∀ character ∈ alphanumerics, character ∈ (0x2d :: alphanumerics : List UInt8) :=
  fun _ => List.mem_cons_of_mem _

theorem hyphen_not_alphanumeric : (0x2d : UInt8) ∉ alphanumerics := by decide

/-- No dot, no upper-case letter and nothing outside ASCII is a character of a label. -/
theorem plain_of_mem {character : UInt8} (hmem : character ∈ 0x2d :: alphanumerics) :
    character ≠ 0x2e ∧ ¬ (0x41 ≤ character ∧ character ≤ 0x5a) ∧ character < 0x80 := by
  rw [List.mem_cons, mem_alphanumerics] at hmem
  simp only [ne_eq, ← UInt8.toNat_inj, UInt8.le_iff_toNat_le, UInt8.lt_iff_toNat_lt,
    UInt8.reduceToNat] at hmem ⊢
  omega

/-! ## The check -/

/-- The two tests that the loop makes of a character. -/
theorem passes_iff {character : UInt8} :
    ¬ character = 0x2e ∧
        ¬ (¬ (0x61 ≤ character ∧ character ≤ 0x7a) ∧ ¬ (0x30 ≤ character ∧ character ≤ 0x39) ∧
          character ≠ 0x2d) ↔
      character ∈ 0x2d :: alphanumerics := by
  constructor
  · intro hpassed
    rw [List.mem_cons, mem_alphanumerics]
    tauto
  · intro hmem
    refine ⟨(plain_of_mem hmem).1, ?_⟩
    rw [List.mem_cons, mem_alphanumerics] at hmem
    tauto

/-- What the loop lets through: letters, digits and hyphens. -/
theorem checkCharacters_ok {index : ℕ} {label : List UInt8} {world : World Node Label}
    {result : Unit × World Node Label} :
    (checkCharacters index label).run world = .ok result ↔
      (∀ character ∈ label, character ∈ 0x2d :: alphanumerics) ∧ ((), world) = result := by
  induction label generalizing index with
  | nil =>
      rw [checkCharacters, Call.pure_ok]
      simp
  | cons character rest ih =>
      rw [checkCharacters, Call.bind_revertIf_ok, Call.bind_revertIf_ok, ← and_assoc, passes_iff,
        ih, List.forall_mem_cons, and_assoc]

/-- A label passes when it is long enough, has no hyphen at either end and only characters
of a label; the check returns its length. -/
theorem validateLabel_ok {minimum : ℕ} {label : List UInt8} {world : World Node Label}
    {result : ℕ × World Node Label} :
    (validateLabel minimum label).run world = .ok result ↔
      (minimum ≤ label.length ∧ (label.head? ≠ some 0x2d ∧ label.getLast? ≠ some 0x2d) ∧
        ∀ character ∈ label, character ∈ 0x2d :: alphanumerics) ∧
      (label.length, world) = result := by
  rw [validateLabel, Call.bind_revertIf_ok, Call.bind_revertIf_ok, Call.bind_ok, not_lt, not_or]
  simp only [checkCharacters_ok, Call.pure_ok]
  constructor
  · intro hpassed
    obtain ⟨hlength, hends, _, _, ⟨hall, hsame⟩, hresult⟩ := hpassed
    obtain ⟨-, rfl⟩ := Prod.mk.inj hsame
    exact ⟨⟨hlength, hends, hall⟩, hresult⟩
  · intro hlabel
    obtain ⟨⟨hlength, hends, hall⟩, hresult⟩ := hlabel
    exact ⟨hlength, hends, (), world, ⟨hall, rfl⟩, hresult⟩

/-- The words of the grammar, by their characters and their ends. -/
theorem mem_labelExpression {label : List UInt8} (hnonempty : label ≠ []) :
    label ∈ labelExpression.matches' ↔
      (label.head? ≠ some 0x2d ∧ label.getLast? ≠ some 0x2d) ∧
        ∀ character ∈ label, character ∈ 0x2d :: alphanumerics := by
  rw [labelExpression, mem_framed alphanumerics_sub, and_assoc]
  -- an end of a label is one of its characters
  have hend : ∀ {character : UInt8}, character ∈ label →
      (∀ character ∈ label, character ∈ 0x2d :: alphanumerics) →
      (character ∈ alphanumerics ↔ some character ≠ some 0x2d) := by
    intro character hmem hall
    constructor
    · intro halpha hhyphen
      exact hyphen_not_alphanumeric (Option.some.inj hhyphen ▸ halpha)
    · intro hother
      rcases List.mem_cons.mp (hall character hmem) with hhyphen | halpha
      · exact absurd (congrArg some hhyphen) hother
      · exact halpha
  rw [List.head?_eq_some_head hnonempty, List.getLast?_eq_some_getLast hnonempty]
  constructor
  · intro hword
    obtain ⟨⟨first, hfirst, hhead⟩, ⟨last, hlast, htail⟩, hall⟩ := hword
    refine ⟨?_, ?_, hall⟩
    · rw [← hend (List.head_mem hnonempty) hall, Option.some.inj hhead]
      exact hfirst
    · rw [← hend (List.getLast_mem hnonempty) hall, Option.some.inj htail]
      exact hlast
  · intro hword
    obtain ⟨hhead, htail, hall⟩ := hword
    exact ⟨⟨_, (hend (List.head_mem hnonempty) hall).mpr hhead, rfl⟩,
      ⟨_, (hend (List.getLast_mem hnonempty) hall).mpr htail, rfl⟩, hall⟩

/-- A check of labels accepts the words of the grammar from a length on, and returns the
number of bytes. -/
def ChecksLabels (minimum : ℕ) (check : List UInt8 → AnsCall Node Label ℕ) : Prop :=
  ∀ label world result, (check label).run world = .ok result ↔
    (minimum ≤ label.length ∧ label ∈ labelExpression.matches') ∧ (label.length, world) = result

theorem validateLabel_checks {minimum : ℕ} (hpos : 0 < minimum) :
    ChecksLabels minimum (validateLabel minimum : List UInt8 → AnsCall Node Label ℕ) := by
  intro label world result
  rw [validateLabel_ok, and_congr_left_iff]
  intro _
  rw [and_congr_right_iff]
  intro hlength
  have hnonempty : label ≠ [] := List.ne_nil_of_length_pos (hpos.trans_le hlength)
  rw [mem_labelExpression hnonempty]

/-- `_validateLabel` of `NamespaceController`, the first thing `register` and `renew` do. -/
def Controller.validateLabel (label : List UInt8) : AnsCall Node Label ℕ :=
  Ans.validateLabel MIN_LABEL_LENGTH label

/-- `_validateNamespaceLabel` of `RootRegistry`, which every labelhash is taken behind. -/
def Root.validateNamespaceLabel (label : List UInt8) : AnsCall Node Label ℕ :=
  Ans.validateLabel MIN_NAMESPACE_LENGTH label

/-! ## Dotted names -/

/-- A name and the namespace it is in, both as their contracts accept them. -/
structure DottedName (world : World Node Label) where
  name : List UInt8
  parent : List UInt8
  name_accepted : ∃ result, (Controller.validateLabel name).run world = .ok result
  parent_accepted : ∃ result, (Root.validateNamespaceLabel parent).run world = .ok result

/-- `name.parent`. -/
def DottedName.text {world : World Node Label} (dotted : DottedName world) : List UInt8 :=
  dotted.name ++ 0x2e :: dotted.parent

/-- Accepted labels are plain. -/
theorem plain_of_accepted {minimum : ℕ} {label : List UInt8} {world : World Node Label}
    (haccepted : ∃ result, (validateLabel minimum label).run world = .ok result) :
    ∀ character ∈ label,
      character ≠ 0x2e ∧ ¬ (0x41 ≤ character ∧ character ≤ 0x5a) ∧ character < 0x80 := by
  obtain ⟨result, hrun⟩ := haccepted
  intro character hmem
  exact plain_of_mem ((validateLabel_ok.mp hrun).1.2.2 character hmem)

/-- The one dot is where the name ends. -/
theorem DottedName.text_injective {world : World Node Label} :
    Function.Injective (text : DottedName world → List UInt8) := by
  intro first second htext
  have hname : (0x2e : UInt8) ∉ first.name := fun hmem =>
    (plain_of_accepted first.name_accepted 0x2e hmem).1 rfl
  have hparent : (0x2e : UInt8) ∉ first.parent := fun hmem =>
    (plain_of_accepted first.parent_accepted 0x2e hmem).1 rfl
  obtain ⟨hnames, -, hparents⟩ := (List.append_cons_inj_of_notMem hname hparent).mp htext
  cases first
  cases second
  cases hnames
  cases hparents
  rfl

/-- Both checks accept the words of the grammar from their lengths on and return the length;
what they accept has no dot, no upper-case letter and nothing outside ASCII, so that a
dotted name belongs to one pair of labels. -/
theorem label_grammar (world : World Node Label) :
    ChecksLabels 3 (Controller.validateLabel : List UInt8 → AnsCall Node Label ℕ) ∧
      ChecksLabels 2 (Root.validateNamespaceLabel : List UInt8 → AnsCall Node Label ℕ) ∧
      (∀ label : List UInt8,
        (∃ result, (Controller.validateLabel label).run world = .ok result) ∨
          (∃ result, (Root.validateNamespaceLabel label).run world = .ok result) →
        ∀ character ∈ label,
          character ≠ 0x2e ∧ ¬ (0x41 ≤ character ∧ character ≤ 0x5a) ∧ character < 0x80) ∧
      Function.Injective (DottedName.text : DottedName world → List UInt8) := by
  refine ⟨validateLabel_checks (by decide), validateLabel_checks (by decide), ?_,
    DottedName.text_injective⟩
  intro label haccepted
  rcases haccepted with hname | hparent
  · exact plain_of_accepted hname
  · exact plain_of_accepted hparent

-- `pay-roll` is a word of the grammar, `-roll` and `pay.roll` are none.
example :
    labelExpression.rmatch [0x70, 0x61, 0x79, 0x2d, 0x72, 0x6f, 0x6c, 0x6c] = true ∧
      labelExpression.rmatch [0x2d, 0x72, 0x6f, 0x6c, 0x6c] = false ∧
      labelExpression.rmatch [0x70, 0x61, 0x79, 0x2e, 0x72, 0x6f, 0x6c, 0x6c] = false := by
  decide +kernel

end WizPay.Ans
