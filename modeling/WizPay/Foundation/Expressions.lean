import Mathlib.Computability.RegularExpressions
import Mathlib.Data.Nat.Notation

/-!
# Words over classes of characters

A class of characters is the sum of its members. A word matches the class repeated when its
characters are in the class, and it matches `edge (inner* edge)?` when moreover it begins
and ends in the narrower class.
-/

namespace WizPay.Foundation

open RegularExpression Computability

variable {α : Type}

/-- Any one of the characters. -/
def charClass : List α → RegularExpression α
  | [] => 0
  | character :: rest => char character + charClass rest

theorem mem_charClass {characters word : List α} :
    word ∈ (charClass characters).matches' ↔ ∃ character ∈ characters, word = [character] := by
  induction characters with
  | nil => simp [charClass]
  | cons character rest ih =>
      rw [charClass, matches'_add, Language.mem_add, ih, matches'_char, List.exists_mem_cons_iff]
      rfl

theorem mem_star_charClass {characters word : List α} :
    word ∈ (star (charClass characters)).matches' ↔
      ∀ character ∈ word, character ∈ characters := by
  rw [matches'_star, Language.mem_kstar]
  constructor
  · intro hpieces
    obtain ⟨pieces, rfl, hpieces⟩ := hpieces
    intro character hmem
    obtain ⟨piece, hpiece, hmem⟩ := List.mem_flatten.mp hmem
    obtain ⟨member, hmember, rfl⟩ := mem_charClass.mp (hpieces piece hpiece)
    rw [List.mem_singleton.mp hmem]
    exact hmember
  · intro hall
    refine ⟨word.map fun character => [character], ?_, ?_⟩
    · rw [← List.flatMap_def, List.flatMap_singleton']
    · intro piece hpiece
      obtain ⟨character, hmem, rfl⟩ := List.mem_map.mp hpiece
      exact mem_charClass.mpr ⟨character, hall character hmem, rfl⟩

/-- `edge (inner* edge)?`. -/
def framed (edge inner : List α) : RegularExpression α :=
  charClass edge * (1 + star (charClass inner) * charClass edge)

/-- A framed word, by its first character, its last one and all of them. -/
theorem mem_framed {edge inner word : List α} (hsub : ∀ character ∈ edge, character ∈ inner) :
    word ∈ (framed edge inner).matches' ↔
      (∃ first ∈ edge, word.head? = some first) ∧ (∃ last ∈ edge, word.getLast? = some last) ∧
        ∀ character ∈ word, character ∈ inner := by
  rw [framed, matches'_mul, matches'_add, matches'_mul, Language.mem_mul]
  constructor
  · intro hparts
    obtain ⟨front, hfront, back, hback, rfl⟩ := hparts
    obtain ⟨first, hfirst, rfl⟩ := mem_charClass.mp hfront
    refine ⟨⟨first, hfirst, rfl⟩, ?_⟩
    rcases (Language.mem_add _ _ _).mp hback with hempty | hrest
    · rw [matches'_epsilon, Language.mem_one] at hempty
      subst hempty
      refine ⟨⟨first, hfirst, rfl⟩, ?_⟩
      intro character hmem
      rw [List.append_nil, List.mem_singleton] at hmem
      exact hmem ▸ hsub first hfirst
    · obtain ⟨middle, hmiddle, ending, hending, rfl⟩ := Language.mem_mul.mp hrest
      obtain ⟨last, hlast, rfl⟩ := mem_charClass.mp hending
      have hinner := mem_star_charClass.mp hmiddle
      refine ⟨⟨last, hlast, by rw [← List.append_assoc, List.getLast?_concat]⟩, ?_⟩
      intro character hmem
      simp only [List.mem_append, List.mem_singleton] at hmem
      rcases hmem with rfl | hmem | rfl
      · exact hsub _ hfirst
      · exact hinner character hmem
      · exact hsub _ hlast
  · intro hword
    obtain ⟨⟨first, hfirst, hhead⟩, ⟨last, hlast, hend⟩, hall⟩ := hword
    obtain ⟨rest, rfl⟩ := List.head?_eq_some_iff.mp hhead
    refine ⟨[first], mem_charClass.mpr ⟨first, hfirst, rfl⟩, rest, ?_, rfl⟩
    rw [Language.mem_add]
    -- what follows the first character is nothing, or ends in the last one
    rcases List.eq_nil_or_concat rest with rfl | ⟨middle, ending, rfl⟩
    · left
      rfl
    · right
      rw [List.concat_eq_append, ← List.cons_append, List.getLast?_concat] at hend
      obtain rfl := Option.some.inj hend
      rw [List.concat_eq_append]
      apply Language.append_mem_mul
      · apply mem_star_charClass.mpr
        intro character hmem
        apply hall
        simp [hmem]
      · exact mem_charClass.mpr ⟨ending, hlast, rfl⟩

end WizPay.Foundation
