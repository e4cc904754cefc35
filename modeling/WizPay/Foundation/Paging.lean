import Mathlib.Data.List.Sort
import Mathlib.Order.Defs.LinearOrder

/-!
# Paging by key

Rows whose keys are distinct are read in descending order of their keys, page by page:
each page holds a bounded number of rows and starts behind the row where the last page
ended. However many rows a page may hold, the pages put together are all the rows.
-/

namespace WizPay.Paging

variable {Row Key : Type} [LinearOrder Key] (key : Row → Key) (rows : List Row) (limit : ℕ)

/-- A page: its rows, and the row behind which the next one starts, if there is one. -/
structure Page (Row : Type) where
  items : List Row
  next : Option Row

/-- The rows in descending order of their keys. -/
def ordered : List Row := rows.mergeSort fun first second => decide (key second ≤ key first)

/-- Whether a row comes behind a position. -/
def Behind (position : Option Key) (row : Row) : Prop := ∀ found ∈ position, key row < found

instance (position : Option Key) (row : Row) : Decidable (Behind key position row) := by
  unfold Behind
  infer_instance

/-- One row more than a page holds is looked up, to know whether there is another page. -/
def page (position : Option Key) : Page Row :=
  let found := (ordered key (rows.filter (Behind key position))).take (limit + 1)
  { items := found.take limit
    next := if limit < found.length then (found.take limit).getLast? else none }

/-- The pages a reader sees who starts at a position and goes on until there is no next page. -/
inductive Follows : Option Key → List (List Row) → Prop
  | last {position : Option Key} (hlast : (page key rows limit position).next = none) :
      Follows position [(page key rows limit position).items]
  | more {position : Option Key} {row : Row} {rest : List (List Row)}
      (hmore : (page key rows limit position).next = some row)
      (hrest : Follows (some (key row)) rest) :
      Follows position ((page key rows limit position).items :: rest)

variable {key rows limit}

theorem perm_ordered : (ordered key rows).Perm rows := List.mergeSort_perm ..

theorem mem_ordered {row : Row} : row ∈ ordered key rows ↔ row ∈ rows := perm_ordered.mem_iff

/-- Distinct keys descend strictly. -/
theorem pairwise_ordered (hdistinct : (rows.map key).Nodup) :
    (ordered key rows).Pairwise fun first second => key second < key first := by
  have hsorted : (ordered key rows).Pairwise fun first second => key second ≤ key first := by
    have hpairwise := @List.pairwise_mergeSort Row
      (fun first second => decide (key second ≤ key first)) ?_ ?_ rows
    · simpa only [ordered, decide_eq_true_eq] using hpairwise
    · intro first second third
      simpa using fun hfirst hsecond => le_trans hsecond hfirst
    · intro first second
      simpa using le_total (key second) (key first)
  have hnodup : ((ordered key rows).map key).Nodup := (perm_ordered.map key).nodup_iff.mpr hdistinct
  have hne : (ordered key rows).Pairwise fun first second => key first ≠ key second :=
    List.pairwise_map.mp hnodup
  exact (hsorted.and hne).imp fun hboth => lt_of_le_of_ne hboth.1 hboth.2.symm

/-- Choosing rows by a condition and ordering them can be done in either order. -/
theorem ordered_filter (hdistinct : (rows.map key).Nodup) (condition : Row → Bool) :
    ordered key (rows.filter condition) = (ordered key rows).filter condition := by
  have hfiltered : ((rows.filter condition).map key).Nodup :=
    hdistinct.sublist (List.filter_sublist.map key)
  refine List.Perm.eq_of_pairwise ?_ (pairwise_ordered hfiltered)
    ((pairwise_ordered hdistinct).filter condition)
    (perm_ordered.trans (perm_ordered.symm.filter condition))
  intro first second _ _ hfirst hsecond
  exact absurd hfirst hsecond.asymm

/-- Behind the last row of a front part there is exactly the rest. -/
theorem filter_behind {front back : List Row} {row : Row}
    (hdescending : (front ++ back).Pairwise fun first second => key second < key first)
    (hrow : front.getLast? = some row) :
    (front ++ back).filter (Behind key (some (key row))) = back := by
  obtain ⟨before, rfl⟩ := List.getLast?_eq_some_iff.mp hrow
  obtain ⟨hfront, -, hacross⟩ := List.pairwise_append.mp hdescending
  obtain ⟨-, -, hbefore⟩ := List.pairwise_append.mp hfront
  have hnone : (before ++ [row]).filter (Behind key (some (key row))) = [] := by
    simp only [List.filter_eq_nil_iff, List.mem_append, List.mem_singleton, Behind,
      Option.mem_some_iff, forall_eq', decide_eq_true_eq, not_lt]
    rintro other (hother | rfl)
    · exact (hbefore other hother row (List.mem_singleton_self _)).le
    · exact le_rfl
  have hall : back.filter (Behind key (some (key row))) = back := by
    simp only [List.filter_eq_self, Behind, Option.mem_some_iff, forall_eq', decide_eq_true_eq]
    intro other hother
    exact hacross row (by simp) other hother
  rw [List.filter_append, hnone, hall, List.nil_append]

/-- A position in the ordered rows: the start, or the key of the last row already seen. -/
def At (key : Row → Key) (rows : List Row) (position : Option Key) (back : List Row) : Prop :=
  (position = none ∧ ordered key rows = back) ∨
    ∃ front row, front.getLast? = some row ∧ position = some (key row) ∧
      ordered key rows = front ++ back

theorem At.filter {position : Option Key} {back : List Row} (hdistinct : (rows.map key).Nodup)
    (hat : At key rows position back) :
    ordered key (rows.filter (Behind key position)) = back := by
  rw [ordered_filter hdistinct]
  rcases hat with ⟨rfl, hback⟩ | ⟨front, row, hrow, rfl, hsplit⟩
  · simpa [Behind] using hback
  · rw [hsplit]
    exact filter_behind (hsplit ▸ pairwise_ordered hdistinct) hrow

/-- What a page shows, and where it says to go on. -/
theorem page_at {position : Option Key} {back : List Row} (hdistinct : (rows.map key).Nodup)
    (hat : At key rows position back) :
    page key rows limit position =
      { items := back.take limit
        next := if limit < back.length then (back.take limit).getLast? else none } := by
  have hlength : limit < (back.take (limit + 1)).length ↔ limit < back.length := by
    rw [List.length_take]
    omega
  simp only [page, hat.filter hdistinct, List.take_take, hlength,
    min_eq_left (Nat.le_succ limit)]

/-- Behind the last row of a page that is not the last one stand the rows it left out. -/
theorem At.advance {position : Option Key} {back : List Row} {row : Row}
    (hat : At key rows position back) (hrow : (back.take limit).getLast? = some row) :
    At key rows (some (key row)) (back.drop limit) := by
  rcases hat with ⟨rfl, hback⟩ | ⟨front, seen, hseen, rfl, hsplit⟩
  · exact .inr ⟨back.take limit, row, hrow, rfl, by rw [List.take_append_drop, hback]⟩
  · refine .inr ⟨front ++ back.take limit, row, ?_, rfl, ?_⟩
    · rw [List.getLast?_append, hrow]
      rfl
    · rw [List.append_assoc, List.take_append_drop, hsplit]

/-- From any position the pages end, and together they are what stands behind it. -/
theorem At.follows {position : Option Key} {back : List Row} (hdistinct : (rows.map key).Nodup)
    (hpositive : 0 < limit) (hat : At key rows position back) :
    ∃ pages, Follows key rows limit position pages ∧ pages.flatten = back := by
  -- each page but the last takes at least one row from those behind the position
  induction hcount : back.length using Nat.strong_induction_on generalizing position back with
  | _ count ih =>
    subst hcount
    have hpage : page key rows limit position = _ := page_at hdistinct hat
    by_cases hmore : limit < back.length
    · obtain ⟨row, hrow⟩ : ∃ row, (back.take limit).getLast? = some row := by
        have hnonempty : back.take limit ≠ [] := by
          intro hnil
          have hlength := congrArg List.length hnil
          rw [List.length_take, List.length_nil] at hlength
          omega
        exact ⟨_, List.getLast?_eq_some_getLast hnonempty⟩
      obtain ⟨rest, hrest, hflatten⟩ :=
        ih (back.drop limit).length (by rw [List.length_drop]; omega) (hat.advance hrow) rfl
      rw [if_pos hmore] at hpage
      have hfollows : Follows key rows limit position
          ((page key rows limit position).items :: rest) := .more (by rw [hpage, hrow]) hrest
      rw [hpage] at hfollows
      exact ⟨_, hfollows, by rw [List.flatten_cons, hflatten, List.take_append_drop]⟩
    · rw [if_neg hmore] at hpage
      have hfollows : Follows key rows limit position [(page key rows limit position).items] :=
        .last (by rw [hpage])
      rw [hpage] at hfollows
      exact ⟨_, hfollows, by simp [List.take_of_length_le (Nat.le_of_not_lt hmore)]⟩

/-- Following the pages from the first one shows every row once, in descending order. -/
theorem follows_all (hdistinct : (rows.map key).Nodup) (hpositive : 0 < limit) :
    ∃ pages, Follows key rows limit none pages ∧ pages.flatten = ordered key rows :=
  At.follows hdistinct hpositive (.inl ⟨rfl, rfl⟩)

end WizPay.Paging
