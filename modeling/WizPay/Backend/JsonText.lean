import Mathlib.Data.Bool.AllAny
import WizPay.Backend.Json

/-!
# Reading JSON text back

A quoted text ends at the first quotation mark that is not escaped, so texts that
go on after it determine what was quoted, and an object of texts determines them all.
-/

namespace WizPay.Backend.Json

/-- The characters that are written with a backslash. -/
def escaped : List Char := '"' :: '\\' :: (List.range 32).map Char.ofNat

theorem mem_escaped_of_lt {c : Char} (hlt : c.val < 0x20) : c ∈ escaped := by
  refine List.mem_cons_of_mem _ (List.mem_cons_of_mem _ (List.mem_map.mpr ⟨c.toNat, ?_, ?_⟩))
  · exact List.mem_range.mpr (UInt32.lt_iff_toNat_lt.mp hlt)
  · exact Char.ofNat_toNat c

/-- Every other character is written as it is. -/
theorem escape_of_not_mem {c : Char} (hplain : c ∉ escaped) : escape c = [c] := by
  have hnot : ∀ d ∈ escaped, c ≠ d := fun d hmember heq => hplain (heq ▸ hmember)
  have hcontrol : ¬ c.val < 0x20 := fun hlt => hplain (mem_escaped_of_lt hlt)
  have hval : ∀ value < 0x20, c.val ≠ value := fun value hvalue heq => hcontrol (heq ▸ hvalue)
  unfold escape
  rw [if_neg (hnot _ (by decide)), if_neg (hnot _ (by decide)), if_neg (hval _ (by decide)),
    if_neg (hval _ (by decide)), if_neg (hval _ (by decide)), if_neg (hval _ (by decide)),
    if_neg (hval _ (by decide)), if_neg hcontrol]

theorem escape_of_mem {c : Char} (hmember : c ∈ escaped) :
    ∃ code, escape c = '\\' :: code := by
  have hall : ∀ d ∈ escaped, (escape d).head? = some '\\' :=
    List.all_iff_forall_prop.mp (by decide)
  exact List.head?_eq_some_iff.mp (hall c hmember)

/-- No code of a character starts with that of another one. -/
theorem escape_append_inj {c d : Char} {rest other : List Char}
    (hsame : escape c ++ rest = escape d ++ other) : c = d ∧ rest = other := by
  suffices hchar : c = d by
    subst hchar
    exact ⟨rfl, List.append_cancel_left hsame⟩
  by_cases hc : c ∈ escaped
  · by_cases hd : d ∈ escaped
    · have hall : ∀ one ∈ escaped, ∀ two ∈ escaped, escape one <+: escape two → one = two :=
        fun one hone => List.all_iff_forall_prop.mp (List.all_eq_true.mp
          (by decide : (escaped.all fun one => escaped.all fun two =>
            decide (escape one <+: escape two → one = two)) = true) one hone)
      rcases List.prefix_or_prefix_of_prefix (List.prefix_append (escape c) rest)
        (hsame ▸ List.prefix_append (escape d) other) with hprefix | hprefix
      · exact hall c hc d hd hprefix
      · exact (hall d hd c hc hprefix).symm
    · obtain ⟨code, hcode⟩ := escape_of_mem hc
      rw [hcode, escape_of_not_mem hd] at hsame
      have hslash : '\\' = d := (List.cons.inj hsame).1
      exact absurd (hslash ▸ (by decide : '\\' ∈ escaped)) hd
  · rw [escape_of_not_mem hc] at hsame
    by_cases hd : d ∈ escaped
    · obtain ⟨code, hcode⟩ := escape_of_mem hd
      rw [hcode] at hsame
      have hslash : c = '\\' := (List.cons.inj hsame).1
      exact absurd (hslash ▸ (by decide : '\\' ∈ escaped)) hc
    · rw [escape_of_not_mem hd] at hsame
      exact (List.cons.inj hsame).1

/-- The code of a character does not start with a quotation mark. -/
theorem escape_ne_quote {c : Char} {rest other : List Char} :
    escape c ++ rest ≠ '"' :: other := by
  intro hsame
  by_cases hc : c ∈ escaped
  · obtain ⟨code, hcode⟩ := escape_of_mem hc
    rw [hcode] at hsame
    cases (List.cons.inj hsame).1
  · rw [escape_of_not_mem hc] at hsame
    exact hc ((List.cons.inj hsame).1 ▸ List.mem_cons_self)

theorem escapes_append_inj {first second rest other : List Char}
    (hsame : first.flatMap escape ++ '"' :: rest = second.flatMap escape ++ '"' :: other) :
    first = second ∧ rest = other := by
  induction first generalizing second with
  | nil =>
      cases second with
      | nil => exact ⟨rfl, (List.cons.inj hsame).2⟩
      | cons d second =>
          rw [List.flatMap_cons, List.append_assoc] at hsame
          exact absurd hsame.symm escape_ne_quote
  | cons c first ih =>
      cases second with
      | nil =>
          rw [List.flatMap_cons, List.append_assoc] at hsame
          exact absurd hsame escape_ne_quote
      | cons d second =>
          simp only [List.flatMap_cons, List.append_assoc] at hsame
          obtain ⟨rfl, hrest⟩ := escape_append_inj hsame
          obtain ⟨rfl, hother⟩ := ih hrest
          exact ⟨rfl, hother⟩

/-- A quoted text can be read off whatever follows it. -/
theorem quote_append_inj {first second : String} {rest other : List Char}
    (hsame : quote first ++ rest = quote second ++ other) : first = second ∧ rest = other := by
  simp only [quote, List.cons_append, List.append_assoc, List.cons.injEq, true_and,
    List.nil_append] at hsame
  obtain ⟨htext, hrest⟩ := escapes_append_inj hsame
  exact ⟨String.toList_inj.mp htext, hrest⟩

/-- An optional text can be read off whatever follows it. -/
theorem ofOption_append_inj {first second : Option String} {rest other : List Char}
    (hsame : (ofOption first).chars ++ rest = (ofOption second).chars ++ other) :
    first = second ∧ rest = other := by
  cases first with
  | none =>
      cases second with
      | none => exact ⟨rfl, List.append_cancel_left hsame⟩
      | some text => cases hsame
  | some text =>
      cases second with
      | none => cases hsame
      | some found =>
          obtain ⟨rfl, hrest⟩ := quote_append_inj hsame
          exact ⟨rfl, hrest⟩

/-- An object of optional texts. -/
def ofFields (fields : List (String × Option String)) : Json :=
  object (fields.map fun field => (field.1, ofOption field.2))

theorem sortKeys_ofOption (value : Option String) : (ofOption value).sortKeys = ofOption value := by
  cases value <;> rfl

theorem fieldChars_append_inj {fields others : List (String × Option String)}
    {rest other : List Char} (hkeys : fields.map Prod.fst = others.map Prod.fst)
    (hsame : commaSeparated (fieldChars (fields.map fun field => (field.1, ofOption field.2))) ++ rest =
      commaSeparated (fieldChars (others.map fun field => (field.1, ofOption field.2))) ++ other) :
    fields = others := by
  induction fields generalizing others with
  | nil => exact (List.map_eq_nil_iff.mp hkeys.symm).symm
  | cons field fields ih =>
      cases others with
      | nil => cases hkeys
      | cons found others =>
          obtain ⟨key, value⟩ := field
          obtain ⟨otherKey, otherValue⟩ := found
          simp only [List.map_cons, List.cons.injEq] at hkeys
          obtain ⟨rfl, hkeys⟩ := hkeys
          cases fields with
          | nil =>
              rw [List.map_eq_nil_iff.mp hkeys.symm] at hsame ⊢
              simp only [List.map_cons, List.map_nil, fieldChars, commaSeparated, List.append_assoc,
                List.cons_append] at hsame
              obtain ⟨rfl, -⟩ := ofOption_append_inj (List.cons.inj (List.append_cancel_left hsame)).2
              rfl
          | cons second fields =>
              cases others with
              | nil => cases hkeys
              | cons otherSecond others =>
                  simp only [List.map_cons, fieldChars, commaSeparated, List.append_assoc,
                    List.cons_append] at hsame
                  obtain ⟨rfl, hrest⟩ :=
                    ofOption_append_inj (List.cons.inj (List.append_cancel_left hsame)).2
                  rw [ih hkeys (by simpa only [List.map_cons, fieldChars, List.append_assoc,
                    List.cons_append] using (List.cons.inj hrest).2)]

/-- The text of an object of optional texts determines them all. -/
theorem stringify_ofFields_inj {fields others : List (String × Option String)}
    (hkeys : fields.map Prod.fst = others.map Prod.fst)
    (hsame : (ofFields fields).stringify = (ofFields others).stringify) : fields = others := by
  have hchars := String.ofList_injective hsame
  simp only [ofFields, chars, List.cons_append, List.cons.injEq, true_and] at hchars
  exact fieldChars_append_inj hkeys hchars

end WizPay.Backend.Json
