import Mathlib.Data.List.Forall2
import Mathlib.Data.List.Nodup
import Mathlib.Data.Nat.Notation

/-!
# Rows under READ COMMITTED

A session sees the last committed version of a row, or its own version of a row that it
has written. Writing takes the row: no other session can write it before the first one
commits or rolls back. What a session has written, and the versions it wrote over, are
therefore out of reach of the others.
-/

namespace WizPay.Foundation

/-- A row with the version that a session has written and not committed, if any. -/
structure Stored (α : Type) where
  key : String
  committed : α
  pending : Option (ℕ × α)

namespace Stored

variable {α : Type}

def stored (key : String) (committed : α) : Stored α := ⟨key, committed, none⟩

/-- The version a session has written. -/
def own (session : ℕ) (row : Stored α) : Option α :=
  row.pending.bind fun version => if version.1 = session then some version.2 else none

/-- What a statement sees, in a session or outside of any. -/
def view (session : Option ℕ) (row : Stored α) : α :=
  (session.bind row.own).getD row.committed

/-- No other session holds the row. -/
def Writable (session : ℕ) (row : Stored α) : Prop := ∀ version ∈ row.pending, version.1 = session

/-- No session holds the row. -/
def Free (row : Stored α) : Prop := row.pending = none

instance (session : ℕ) (row : Stored α) : Decidable (row.Writable session) :=
  inferInstanceAs (Decidable (∀ version ∈ row.pending, version.1 = session))

instance (row : Stored α) : Decidable row.Free :=
  match hpending : row.pending with
  | none => isTrue hpending
  | some _ => isFalse fun hfree => nomatch hpending.symm.trans hfree

def write (session : ℕ) (f : α → α) (row : Stored α) : Stored α :=
  { row with pending := some (session, f (row.view (some session))) }

/-- A write outside of any session. -/
def put (f : α → α) (row : Stored α) : Stored α := { row with committed := f row.committed }

def commit (session : ℕ) (row : Stored α) : Stored α :=
  match row.own session with
  | some version => { row with committed := version, pending := none }
  | none => row

def rollback (session : ℕ) (row : Stored α) : Stored α :=
  match row.own session with
  | some _ => { row with pending := none }
  | none => row

@[simp] theorem write_key (session : ℕ) (f : α → α) (row : Stored α) :
    (row.write session f).key = row.key := rfl

@[simp] theorem write_committed (session : ℕ) (f : α → α) (row : Stored α) :
    (row.write session f).committed = row.committed := rfl

@[simp] theorem write_own (session : ℕ) (f : α → α) (row : Stored α) :
    (row.write session f).own session = some (f (row.view (some session))) := by
  simp [own, write]

theorem write_own_other {session other : ℕ} (hother : other ≠ session) (f : α → α)
    (row : Stored α) : (row.write session f).own other = none := by
  simp [own, write, hother.symm]

@[simp] theorem put_key (f : α → α) (row : Stored α) : (row.put f).key = row.key := rfl

@[simp] theorem put_own (session : ℕ) (f : α → α) (row : Stored α) :
    (row.put f).own session = row.own session := rfl

@[simp] theorem commit_key (session : ℕ) (row : Stored α) : (row.commit session).key = row.key := by
  unfold commit
  split <;> rfl

@[simp] theorem rollback_key (session : ℕ) (row : Stored α) :
    (row.rollback session).key = row.key := by
  unfold rollback
  split <;> rfl

@[simp] theorem rollback_committed (session : ℕ) (row : Stored α) :
    (row.rollback session).committed = row.committed := by
  unfold rollback
  split <;> rfl

theorem commit_committed (session : ℕ) (row : Stored α) :
    (row.commit session).committed = (row.own session).getD row.committed := by
  unfold commit
  split
  · next version hown => rw [hown]; rfl
  · next hown => rw [hown]; rfl

theorem commit_own (session : ℕ) (row : Stored α) : (row.commit session).own session = none := by
  unfold commit
  split
  · rfl
  · next hown => exact hown

theorem rollback_own (session : ℕ) (row : Stored α) : (row.rollback session).own session = none := by
  unfold rollback
  split
  · rfl
  · next hown => exact hown

/-- A row has one holder at most. -/
theorem own_unique {session other : ℕ} {row : Stored α} {version : α}
    (hown : row.own session = some version) (hother : other ≠ session) : row.own other = none := by
  unfold own at hown ⊢
  cases hpending : row.pending with
  | none => rfl
  | some held =>
      rw [hpending] at hown
      have hholder : held.1 = session := by
        by_contra hne
        simp [hne] at hown
      simp [hholder, hother.symm]

theorem own_of_writable {session other : ℕ} {row : Stored α} (hwritable : row.Writable session)
    (hother : other ≠ session) : row.own other = none := by
  unfold own
  cases hpending : row.pending with
  | none => rfl
  | some held => simp [hwritable held hpending, hother.symm]

theorem own_of_free {row : Stored α} (hfree : row.Free) (session : ℕ) : row.own session = none := by
  unfold own
  rw [hfree]
  rfl

theorem view_of_own_none {session : ℕ} {row : Stored α} (hown : row.own session = none) :
    row.view (some session) = row.committed := by
  simp [view, hown]

theorem view_of_own {session : ℕ} {row : Stored α} {version : α}
    (hown : row.own session = some version) : row.view (some session) = version := by
  simp [view, hown]

/-! ## What the others keep -/

/-- A step of the other sessions, as a session sees it: its own version stays, and so does
the version it wrote over. -/
structure Keeps (session : ℕ) (before after : Stored α) : Prop where
  key : after.key = before.key
  own : after.own session = before.own session
  committed : before.own session ≠ none → after.committed = before.committed

namespace Keeps

variable {session other : ℕ} {row : Stored α}

theorem refl (session : ℕ) (row : Stored α) : Keeps session row row := ⟨rfl, rfl, fun _ => rfl⟩

theorem trans {first second third : Stored α} (hfirst : Keeps session first second)
    (hsecond : Keeps session second third) : Keeps session first third where
  key := hsecond.key.trans hfirst.key
  own := hsecond.own.trans hfirst.own
  committed hown :=
    (hsecond.committed (hfirst.own ▸ hown)).trans (hfirst.committed hown)

theorem write (hother : session ≠ other) (hwritable : row.Writable other) (f : α → α) :
    Keeps session row (row.write other f) where
  key := rfl
  own := (write_own_other hother f row).trans (own_of_writable hwritable hother).symm
  committed _ := rfl

theorem put (hfree : row.Free) (f : α → α) : Keeps session row (row.put f) where
  key := rfl
  own := rfl
  committed hown := absurd (own_of_free hfree session) hown

theorem commit (hother : session ≠ other) : Keeps session row (row.commit other) := by
  unfold Stored.commit
  split
  · next version hown =>
      have hnone := own_unique hown hother
      exact ⟨rfl, hnone.symm, fun hsome => absurd hnone hsome⟩
  · exact refl session row

theorem rollback (hother : session ≠ other) : Keeps session row (row.rollback other) := by
  unfold Stored.rollback
  split
  · next version hown => exact ⟨rfl, (own_unique hown hother).symm, fun _ => rfl⟩
  · exact refl session row

end Keeps

end Stored

/-! ## Tables -/

abbrev Table (α : Type) := List (Stored α)

namespace Table

variable {α : Type}

def find (key : String) (table : Table α) : Option (Stored α) :=
  table.find? fun row => row.key = key

/-- The rows with a key changed. -/
def modify (key : String) (f : Stored α → Stored α) (table : Table α) : Table α :=
  table.map fun row => if row.key = key then f row else row

/-- Every row with the key meets a condition. -/
def All (key : String) (condition : Stored α → Prop) (table : Table α) : Prop :=
  ∀ row ∈ table, row.key = key → condition row

instance (key : String) (condition : Stored α → Prop) [DecidablePred condition] (table : Table α) :
    Decidable (table.All key condition) :=
  inferInstanceAs (Decidable (∀ row ∈ table, row.key = key → condition row))

def Keeps (session : ℕ) (before after : Table α) : Prop :=
  List.Forall₂ (Stored.Keeps session) before after

theorem Keeps.refl (session : ℕ) (table : Table α) : Keeps session table table :=
  List.forall₂_same.mpr fun row _ => .refl session row

theorem Keeps.trans {session : ℕ} {first second third : Table α} (hfirst : Keeps session first second)
    (hsecond : Keeps session second third) : Keeps session first third := by
  induction hfirst generalizing third with
  | nil => exact hsecond
  | cons hrow _ ih =>
      cases hsecond with
      | cons hnext hrest => exact .cons (hrow.trans hnext) (ih hrest)

theorem Keeps.map {session : ℕ} {f : Stored α → Stored α} {table : Table α}
    (hrows : ∀ row ∈ table, Stored.Keeps session row (f row)) : Keeps session table (table.map f) := by
  exact List.forall₂_map_right_iff.mpr (List.forall₂_same.mpr hrows)

theorem Keeps.modify {session : ℕ} {key : String} {f : Stored α → Stored α} {table : Table α}
    (hrows : table.All key fun row => Stored.Keeps session row (f row)) :
    Keeps session table (table.modify key f) := by
  refine Keeps.map fun row hmember => ?_
  split
  · next hkey => exact hrows row hmember hkey
  · exact .refl session row

/-- The row a kept row comes from. -/
theorem Keeps.exists_of_mem {session : ℕ} {before after : Table α} (hkeeps : Keeps session before after)
    {next : Stored α} (hmember : next ∈ after) :
    ∃ row ∈ before, Stored.Keeps session row next := by
  induction hkeeps with
  | nil => cases hmember
  | cons hrow _ ih =>
      rcases List.mem_cons.mp hmember with rfl | hrest
      · exact ⟨_, List.mem_cons_self, hrow⟩
      · obtain ⟨row, hold, hkept⟩ := ih hrest
        exact ⟨row, List.mem_cons_of_mem _ hold, hkept⟩

/-- What becomes of a row. -/
theorem Keeps.exists_next {session : ℕ} {before after : Table α} (hkeeps : Keeps session before after)
    {row : Stored α} (hmember : row ∈ before) :
    ∃ next ∈ after, Stored.Keeps session row next := by
  induction hkeeps with
  | nil => cases hmember
  | cons hrow _ ih =>
      rcases List.mem_cons.mp hmember with rfl | hrest
      · exact ⟨_, List.mem_cons_self, hrow⟩
      · obtain ⟨next, hnew, hkept⟩ := ih hrest
        exact ⟨next, List.mem_cons_of_mem _ hnew, hkept⟩

/-! ## What a session holds -/

/-- Keys are unique. -/
def Keyed (table : Table α) : Prop := (table.map Stored.key).Nodup

instance (table : Table α) : Decidable table.Keyed :=
  inferInstanceAs (Decidable (table.map Stored.key).Nodup)

/-- The session has written nothing. -/
def HoldsNothing (session : ℕ) (table : Table α) : Prop := ∀ row ∈ table, row.own session = none

/-- The session has written the row with the key, over a version and with a version that
are related, and nothing else. -/
structure Holds (session : ℕ) (key : String) (relation : α → α → Prop) (table : Table α) : Prop where
  present : ∃ row ∈ table, row.key = key
  own : ∀ row ∈ table, row.key = key →
    ∃ version, row.own session = some version ∧ relation row.committed version
  others : ∀ row ∈ table, row.key ≠ key → row.own session = none

theorem mem_modify {key : String} {f : Stored α → Stored α} {table : Table α} {next : Stored α} :
    next ∈ table.modify key f ↔ ∃ row ∈ table, (if row.key = key then f row else row) = next :=
  List.mem_map

theorem keyed_map {f : Stored α → Stored α} (hf : ∀ row, (f row).key = row.key) {table : Table α}
    (hkeyed : table.Keyed) : Table.Keyed (table.map f) := by
  have hkeys : (table.map f).map Stored.key = table.map Stored.key := by
    simp only [List.map_map, List.map_inj_left, Function.comp_apply]
    exact fun row _ => hf row
  unfold Keyed
  rw [hkeys]
  exact hkeyed

theorem keyed_modify {key : String} {f : Stored α → Stored α} (hf : ∀ row, (f row).key = row.key)
    {table : Table α} (hkeyed : table.Keyed) : (table.modify key f).Keyed := by
  refine keyed_map (fun row => ?_) hkeyed
  split
  · exact hf row
  · rfl

theorem mem_of_find {key : String} {table : Table α} {row : Stored α}
    (hfound : table.find key = some row) : row ∈ table ∧ row.key = key :=
  ⟨List.mem_of_find?_eq_some hfound, by simpa using List.find?_some hfound⟩

theorem find_of_mem {key : String} {table : Table α} (hkeyed : table.Keyed) {row : Stored α}
    (hmember : row ∈ table) (hkey : row.key = key) : table.find key = some row := by
  have hpresent : (table.find key).isSome = true :=
    List.find?_isSome.mpr ⟨row, hmember, by simpa using hkey⟩
  obtain ⟨found, hfound⟩ := Option.isSome_iff_exists.mp hpresent
  obtain ⟨hmem, hfoundKey⟩ := mem_of_find hfound
  rw [hfound, List.inj_on_of_nodup_map hkeyed hmem hmember (hfoundKey.trans hkey.symm)]

theorem HoldsNothing.keeps {session : ℕ} {before after : Table α} (hkeeps : Keeps session before after)
    (hnothing : before.HoldsNothing session) : after.HoldsNothing session := by
  intro next hmember
  obtain ⟨row, hold, hkept⟩ := hkeeps.exists_of_mem hmember
  rw [hkept.own]
  exact hnothing row hold

theorem Holds.keeps {session : ℕ} {key : String} {relation : α → α → Prop} {before after : Table α}
    (hkeeps : Keeps session before after) (hholds : before.Holds session key relation) :
    after.Holds session key relation where
  present := by
    obtain ⟨row, hmember, hkey⟩ := hholds.present
    obtain ⟨next, hnext, hkept⟩ := hkeeps.exists_next hmember
    exact ⟨next, hnext, hkept.key.trans hkey⟩
  own next hmember hkey := by
    obtain ⟨row, hold, hkept⟩ := hkeeps.exists_of_mem hmember
    obtain ⟨version, hown, hrelated⟩ := hholds.own row hold (hkept.key.symm.trans hkey)
    refine ⟨version, hkept.own.trans hown, ?_⟩
    rw [hkept.committed (by simp [hown])]
    exact hrelated
  others next hmember hkey := by
    obtain ⟨row, hold, hkept⟩ := hkeeps.exists_of_mem hmember
    rw [hkept.own]
    exact hholds.others row hold (fun hsame => hkey (hkept.key.trans hsame))

/-- A first write of a session. -/
theorem HoldsNothing.write {session : ℕ} {key : String} {relation : α → α → Prop} {f : α → α}
    {table : Table α} (hnothing : table.HoldsNothing session)
    (hpresent : ∃ row ∈ table, row.key = key)
    (hrelated : ∀ row ∈ table, row.key = key → relation row.committed (f row.committed)) :
    (table.modify key (Stored.write session f)).Holds session key relation where
  present := by
    obtain ⟨row, hmember, hkey⟩ := hpresent
    refine ⟨row.write session f, mem_modify.mpr ⟨row, hmember, if_pos hkey⟩, hkey⟩
  own next hmember hkey := by
    obtain ⟨row, hold, rfl⟩ := mem_modify.mp hmember
    by_cases hrow : row.key = key
    · rw [if_pos hrow]
      refine ⟨_, Stored.write_own session f row, ?_⟩
      rw [Stored.view_of_own_none (hnothing row hold)]
      exact hrelated row hold hrow
    · rw [if_neg hrow] at hkey
      exact absurd hkey hrow
  others next hmember hkey := by
    obtain ⟨row, hold, rfl⟩ := mem_modify.mp hmember
    by_cases hrow : row.key = key
    · rw [if_pos hrow] at hkey
      exact absurd hrow hkey
    · rw [if_neg hrow]
      exact hnothing row hold

/-- A further write to the same row. -/
theorem Holds.write {session : ℕ} {key : String} {first second : α → α → Prop} {f : α → α}
    {table : Table α} (hholds : table.Holds session key first)
    (hrelated : ∀ old version, first old version → second old (f version)) :
    (table.modify key (Stored.write session f)).Holds session key second where
  present := by
    obtain ⟨row, hmember, hkey⟩ := hholds.present
    refine ⟨row.write session f, mem_modify.mpr ⟨row, hmember, if_pos hkey⟩, hkey⟩
  own next hmember hkey := by
    obtain ⟨row, hold, rfl⟩ := mem_modify.mp hmember
    by_cases hrow : row.key = key
    · rw [if_pos hrow]
      obtain ⟨version, hown, hfirst⟩ := hholds.own row hold hrow
      refine ⟨_, Stored.write_own session f row, ?_⟩
      rw [Stored.view_of_own hown]
      exact hrelated _ _ hfirst
    · rw [if_neg hrow] at hkey
      exact absurd hkey hrow
  others next hmember hkey := by
    obtain ⟨row, hold, rfl⟩ := mem_modify.mp hmember
    by_cases hrow : row.key = key
    · rw [if_pos hrow] at hkey
      exact absurd hrow hkey
    · rw [if_neg hrow]
      exact hholds.others row hold hrow

theorem Holds.mono {session : ℕ} {key : String} {first second : α → α → Prop} {table : Table α}
    (hrelated : ∀ old version, first old version → second old version)
    (hholds : table.Holds session key first) : table.Holds session key second :=
  { hholds with
    own := fun row hmember hkey =>
      have ⟨version, hown, hfirst⟩ := hholds.own row hmember hkey
      ⟨version, hown, hrelated _ _ hfirst⟩ }

/-! ## What is committed -/

/-- What is committed, by key. -/
def committed (table : Table α) : List (String × α) := table.map fun row => (row.key, row.committed)

/-- What is committed under a key. -/
def committedAt (key : String) (table : Table α) : Option α :=
  (table.find key).map Stored.committed

theorem committed_map {f : Stored α → Stored α} (hkey : ∀ row, (f row).key = row.key)
    (hcommitted : ∀ row, (f row).committed = row.committed) (table : Table α) :
    Table.committed (table.map f) = table.committed := by
  simp [committed, hkey, hcommitted]

theorem committed_modify {key : String} {f : Stored α → Stored α} (hkey : ∀ row, (f row).key = row.key)
    (hcommitted : ∀ row, (f row).committed = row.committed) (table : Table α) :
    (table.modify key f).committed = table.committed := by
  refine committed_map (fun row => ?_) (fun row => ?_) table
  · split
    · exact hkey row
    · rfl
  · split
    · exact hcommitted row
    · rfl

theorem committedAt_eq (key : String) (table : Table α) :
    table.committedAt key = (table.committed.find? fun row => row.1 = key).map Prod.snd := by
  simp only [committedAt, find, committed, List.find?_map, Option.map_map, Function.comp_def]

theorem committedAt_of_mem {key : String} {table : Table α} (hkeyed : table.Keyed) {row : Stored α}
    (hmember : row ∈ table) (hkey : row.key = key) : table.committedAt key = some row.committed := by
  rw [committedAt, find_of_mem hkeyed hmember hkey]
  rfl

theorem commit_of_others {session : ℕ} {table : Table α} (hothers : ∀ row ∈ table, row.own session = none) :
    table.map (Stored.commit session) = table := by
  have hcommit : ∀ row ∈ table, Stored.commit session row = id row := by
    intro row hmember
    unfold Stored.commit
    rw [hothers row hmember]
    rfl
  rw [List.map_congr_left hcommit, List.map_id]

/-- The commit of a session that holds one row moves that row as its write did. -/
theorem Holds.committed_commit {session : ℕ} {key : String} {relation : α → α → Prop} {table : Table α}
    (hholds : table.Holds session key relation) :
    List.Forall₂ (fun before after => after.1 = before.1 ∧
        if before.1 = key then relation before.2 after.2 else after.2 = before.2)
      table.committed (Table.committed (table.map (Stored.commit session))) := by
  unfold committed
  rw [List.map_map]
  refine List.forall₂_map_left_iff.mpr (List.forall₂_map_right_iff.mpr
    (List.forall₂_same.mpr fun row hmember => ?_))
  simp only [Function.comp_apply, Stored.commit_key, Stored.commit_committed, true_and]
  split
  · next hkey =>
      obtain ⟨version, hown, hrelated⟩ := hholds.own row hmember hkey
      rw [hown]
      exact hrelated
  · next hkey =>
      rw [hholds.others row hmember hkey]
      rfl

/-- It changes the count of a condition by that row. -/
theorem Holds.countP_commit {session : ℕ} {key : String} {relation : α → α → Prop} {table : Table α}
    (hkeyed : table.Keyed) (hholds : table.Holds session key relation) {row : Stored α}
    (hmember : row ∈ table) (hkey : row.key = key) :
    ∃ version, relation row.committed version ∧ ∀ condition : α → Bool,
      (Table.committed (table.map (Stored.commit session))).countP (fun row => condition row.2) +
          (if condition row.committed then 1 else 0) =
        table.committed.countP (fun row => condition row.2) + if condition version then 1 else 0 := by
  obtain ⟨version, hown, hrelated⟩ := hholds.own row hmember hkey
  refine ⟨version, hrelated, fun condition => ?_⟩
  obtain ⟨first, rest, rfl⟩ := List.append_of_mem hmember
  have hdisjoint : ∀ other, other ∈ first ∨ other ∈ rest → other.key ≠ key := by
    intro other hother hsame
    unfold Keyed at hkeyed
    rw [List.map_append, List.map_cons] at hkeyed
    obtain ⟨-, hrest, hfirst⟩ := List.nodup_append.mp hkeyed
    rcases hother with hother | hother
    · exact hfirst _ (List.mem_map_of_mem hother) _ List.mem_cons_self (hsame.trans hkey.symm)
    · exact (List.nodup_cons.mp hrest).1 (List.mem_map.mpr ⟨other, hother, hsame.trans hkey.symm⟩)
  have hfirst : first.map (Stored.commit session) = first := commit_of_others fun other hother =>
    hholds.others other (by simp [hother]) (hdisjoint other (.inl hother))
  have hrest : rest.map (Stored.commit session) = rest := commit_of_others fun other hother =>
    hholds.others other (by simp [hother]) (hdisjoint other (.inr hother))
  rw [List.map_append, List.map_cons, hfirst, hrest]
  simp only [committed, List.map_append, List.map_cons, List.countP_append, List.countP_cons,
    Stored.commit_committed, hown, Option.getD_some]
  omega

end Table

end WizPay.Foundation
