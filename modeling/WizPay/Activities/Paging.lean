import WizPay.Activities.List

/-!
# Following the cursors

A cursor decodes to the time and the id of the row it was made for, so the requests of a
reader are the pages of the rows that match, ordered by time and id: whatever rows share a
time and wherever a page ends, every row is shown once.
-/

namespace WizPay.Activities

open Backend

variable (engine : Engine) (table : ActivityTable) (principal : Principal)

/-- The lists a reader gets who starts with a request and follows the cursors to the end. -/
inductive Reads : ListInput → List (List PublicActivity) → Prop
  | last {input : ListInput} {page : ActivityPage}
      (hlist : list engine table principal input = .ok page) (hlast : page.nextCursor = none) :
      Reads input [page.items]
  | more {input : ListInput} {page : ActivityPage} {cursor : String}
      {rest : List (List PublicActivity)}
      (hlist : list engine table principal input = .ok page)
      (hmore : page.nextCursor = some cursor)
      (hrest : Reads { input with cursor := some cursor } rest) :
      Reads input (page.items :: rest)

/-! ## Cursors -/

theorem text_ne_empty (id : Uuid) : id.text ≠ "" := by
  intro hempty
  have hlength := congrArg String.length hempty
  simp [Uuid.text, groupDigits] at hlength

/-- A cursor decodes to the position it was made for. -/
theorem decodeCursor_encodeCursor (row : Activity) :
    decodeCursor engine (encodeCursor row) =
      .ok { createdAt := row.createdAt, id := .string row.id.text } := by
  have hparse := @Json.parse_texts engine.numberText
    [("createdAt", toISOString row.createdAt), ("id", row.id.text)] (by simp) (by simp)
  have htruthy : truthy (some (.string row.id.text)) = true := by
    simpa [truthy] using text_ne_empty row.id
  simp only [Json.texts, List.map_cons, List.map_nil] at hparse
  have hcreatedAt : (Json.object [("createdAt", .string (toISOString row.createdAt)),
      ("id", .string row.id.text)]).get? "createdAt" = some (.string (toISOString row.createdAt)) :=
    rfl
  have hid : (Json.object [("createdAt", .string (toISOString row.createdAt)),
      ("id", .string row.id.text)]).get? "id" = some (.string row.id.text) := rfl
  unfold decodeCursor encodeCursor
  rw [fromBase64url_toBase64url, hparse]
  simp only [hcreatedAt, hid, Json.orElse, Option.bind_some, newDate, parseDate_toISOString]
  exact if_pos htruthy

theorem encodeCursor_ne_empty (row : Activity) : encodeCursor row ≠ "" := by
  intro hempty
  have hdecoded := decodeCursor_encodeCursor
    { keccakNibble := fun _ _ => 0, sha256 := id, toLowerCase := id, toUpperCase := id,
      otherDate := fun _ => none, otherId := fun _ => none, numberText := id,
      replaced := fun _ => "" } row
  rw [hempty] at hdecoded
  cases hdecoded

/-! ## Pages -/

/-- The place of a row in the order of the list. -/
def Activity.position (row : Activity) : Instant ×ₗ Uuid := toLex (row.createdAt, row.id)

theorem behindCursor_iff (position : Option (Instant × Uuid)) (row : Activity) :
    BehindCursor position row ↔
      Paging.Behind Activity.position (position.map toLex) row := by
  cases position with
  | none => simp [BehindCursor, Paging.Behind]
  | some found => simp [BehindCursor, Paging.Behind, Activity.position, Prod.Lex.toLex_lt_toLex]

theorem newerFirst_iff (first second : Activity) :
    newerFirst first second = decide (second.position ≤ first.position) := by
  rw [Bool.eq_iff_iff]
  simp only [newerFirst, Activity.position, Prod.Lex.toLex_le_toLex, Bool.or_eq_true,
    Bool.and_eq_true, decide_eq_true_eq, @eq_comm Instant second.createdAt]

variable {table}

theorem position_distinct (filters : Filters) :
    ((table.rows.filter fun row => filters.Matches row).map Activity.position).Nodup := by
  have hids : ((table.rows.filter fun row => filters.Matches row).map Activity.id).Nodup :=
    table.unique.sublist (List.filter_sublist.map _)
  have hsplit : ((table.rows.filter fun row => filters.Matches row).map Activity.position).map
      (fun position => (ofLex position).2) =
        (table.rows.filter fun row => filters.Matches row).map Activity.id := by
    rw [List.map_map]
    rfl
  exact List.Nodup.of_map _ (hsplit ▸ hids)

/-- What a query finds are the first of the matching rows behind the cursor. -/
theorem findMany_eq (filters : Filters) (position : Option (Instant × Uuid)) (take : ℕ) :
    findMany table filters position take =
      (Paging.ordered Activity.position
        ((table.rows.filter fun row => filters.Matches row).filter
          fun row => Paging.Behind Activity.position (position.map toLex) row)).take take := by
  have hsort : newerFirst = fun first second => decide (second.position ≤ first.position) :=
    funext fun first => funext fun second => newerFirst_iff first second
  have hfilter : table.rows.filter (fun row => filters.Matches row ∧ BehindCursor position row) =
      (table.rows.filter fun row => filters.Matches row).filter
        fun row => Paging.Behind Activity.position (position.map toLex) row := by
    rw [List.filter_filter]
    apply List.filter_congr
    intro row _
    rw [Bool.eq_iff_iff]
    simp [behindCursor_iff, and_comm]
  unfold findMany Paging.ordered
  rw [hfilter, hsort]

/-! ## Requests -/

/-- What a request may ask for, its cursor apart. -/
structure ListInput.Valid (input : ListInput) : Prop where
  limit : ∀ limit ∈ input.limit, isInteger limit = true ∧ 1 ≤ limit.getD 0
  type : input.type.getD "" = "" ∨ input.type.getD "" ∈ activityTypes
  status : input.status.getD "" = "" ∨ input.status.getD "" ∈ activityStatuses

/-- An optional filter; an empty one is none. -/
def asFilter (value : Option String) : Option String :=
  if value.getD "" = "" then none else value

def filtersOf (principal : Principal) (walletAddress : String) (input : ListInput) : Filters where
  ownerUserId := principal.merchantUserId
  walletAddress := walletAddress
  type := asFilter input.type
  status := asFilter input.status

theorem optionalType_ok {value : Option String}
    (hvalue : value.getD "" = "" ∨ value.getD "" ∈ activityTypes) :
    optionalType value = .ok (asFilter value) := by
  unfold optionalType asFilter
  split
  next hempty => rfl
  next hgiven =>
    rw [if_neg (not_not.mpr (hvalue.resolve_left hgiven))]
    rfl

theorem optionalStatus_ok {value : Option String}
    (hvalue : value.getD "" = "" ∨ value.getD "" ∈ activityStatuses) :
    optionalStatus value = .ok (asFilter value) := by
  unfold optionalStatus asFilter
  split
  next hempty => rfl
  next hgiven =>
    rw [if_neg (not_not.mpr (hvalue.resolve_left hgiven))]
    rfl

theorem validateListInput_ok {input : ListInput} (hvalid : input.Valid) {cursor : Option Cursor}
    (hcursor : requestedCursor engine input = .ok cursor) :
    validateListInput engine input = .ok () := by
  unfold validateListInput
  rw [optionalType_ok hvalid.type, optionalStatus_ok hvalid.status, hcursor]
  cases hlimit : input.limit with
  | none => rfl
  | some limit =>
      obtain ⟨hinteger, hpositive⟩ := hvalid.limit limit hlimit
      dsimp only
      rw [if_neg (by simp [hinteger, hpositive])]
      rfl

theorem pageSize_pos (limit : Option (Option ℚ)) : 0 < pageSize limit :=
  Nat.floor_pos.mpr (le_min (le_max_right _ _) (by norm_num))

section Requests

variable {engine principal}

/-- A request whose cursor names a position is answered with the page behind it. -/
theorem list_eq {input : ListInput} (hvalid : input.Valid) {walletAddress : String}
    (hwallet : canonicalWallet engine principal.merchantWalletAddress = .ok walletAddress)
    {cursor : Option Cursor} (hcursor : requestedCursor engine input = .ok cursor)
    {position : Option (Instant × Uuid)} (hposition : locate engine cursor = .ok position) :
    list engine table principal input =
      let page := Paging.page Activity.position
        (table.rows.filter fun row => (filtersOf principal walletAddress input).Matches row)
        (pageSize input.limit) (position.map toLex)
      .ok { items := page.items.map toPublic, nextCursor := page.next.map encodeCursor } := by
  have hnext : ∀ found : List Activity,
      (if pageSize input.limit < found.length then
        (found.take (pageSize input.limit)).getLast?.map encodeCursor else none) =
      (if pageSize input.limit < found.length then
        (found.take (pageSize input.limit)).getLast? else none).map encodeCursor := by
    intro found
    split <;> rfl
  unfold list
  rw [validateListInput_ok engine hvalid hcursor, optionalType_ok hvalid.type,
    optionalStatus_ok hvalid.status, hcursor, hwallet]
  simp only [bind, Except.bind, hposition, findMany_eq, pure, Except.pure, Paging.page]
  rw [hnext]
  rfl

theorem requestedCursor_none {input : ListInput} (hcursor : input.cursor = none) :
    requestedCursor engine input = .ok none := by
  unfold requestedCursor
  rw [hcursor]
  rfl

/-- The cursor of a row asks for the rows behind it. -/
theorem requestedCursor_encodeCursor (input : ListInput) (row : Activity) :
    requestedCursor engine { input with cursor := some (encodeCursor row) } =
      .ok (some { createdAt := row.createdAt, id := .string row.id.text }) := by
  unfold requestedCursor
  rw [Option.getD_some, if_neg (encodeCursor_ne_empty row), decodeCursor_encodeCursor]
  rfl

theorem locate_encodeCursor (row : Activity) :
    locate engine (some { createdAt := row.createdAt, id := .string row.id.text }) =
      .ok (some (row.createdAt, row.id)) := by
  simp only [locate, idOf, Uuid.ofText_text]
  rfl

/-- Whoever follows the pages of the matching rows is answered by the list, page by page. -/
theorem Reads.of_follows {input : ListInput} (hvalid : input.Valid) {walletAddress : String}
    (hwallet : canonicalWallet engine principal.merchantWalletAddress = .ok walletAddress)
    {cursor : Option Cursor} (hcursor : requestedCursor engine input = .ok cursor)
    {position : Option (Instant × Uuid)} (hposition : locate engine cursor = .ok position)
    {pages : List (List Activity)}
    (hfollows : Paging.Follows Activity.position
      (table.rows.filter fun row => (filtersOf principal walletAddress input).Matches row)
      (pageSize input.limit) (position.map toLex) pages) :
    Reads engine table principal input (pages.map (List.map toPublic)) := by
  generalize hfilters : filtersOf principal walletAddress input = filters at hfollows
  generalize hlimit : pageSize input.limit = limit at hfollows
  generalize hplace : position.map toLex = place at hfollows
  -- the next request differs in its cursor only
  induction hfollows generalizing input cursor position with
  | last hlast =>
      subst hfilters hlimit hplace
      exact .last (list_eq hvalid hwallet hcursor hposition)
        (congrArg (Option.map encodeCursor) hlast)
  | @more place row rest hmore _ ih =>
      subst hfilters hlimit hplace
      refine .more (list_eq hvalid hwallet hcursor hposition)
        (congrArg (Option.map encodeCursor) hmore) ?_
      have hnextValid : ListInput.Valid { input with cursor := some (encodeCursor row) } :=
        ⟨hvalid.limit, hvalid.type, hvalid.status⟩
      exact ih hnextValid (requestedCursor_encodeCursor input row) (locate_encodeCursor row)
        rfl rfl rfl

/-- A cursor was made for the last row of its page, and names that row's position. -/
theorem nextCursor_position {input : ListInput} {page : ActivityPage} {cursor : String}
    (hlist : list engine table principal input = .ok page)
    (hnext : page.nextCursor = some cursor) :
    ∃ row ∈ table.rows, page.items.getLast? = some (toPublic row) ∧
      decodeCursor engine cursor = .ok { createdAt := row.createdAt, id := .string row.id.text } ∧
      locate engine (some { createdAt := row.createdAt, id := .string row.id.text }) =
        .ok (some (row.createdAt, row.id)) := by
  unfold list at hlist
  simp only [bind, Except.bind] at hlist
  split at hlist
  next => cases hlist
  next =>
    split at hlist
    next => cases hlist
    next type _ =>
      split at hlist
      next => cases hlist
      next status _ =>
        split at hlist
        next => cases hlist
        next =>
          split at hlist
          next => cases hlist
          next walletAddress _ =>
            split at hlist
            next => cases hlist
            next position _ =>
              obtain rfl := Except.ok.inj hlist
              dsimp only at hnext
              split at hnext
              next =>
                obtain ⟨row, hrow, rfl⟩ := Option.map_eq_some_iff.mp hnext
                have hmember := List.mem_of_mem_take (List.mem_of_getLast? hrow)
                refine ⟨row, ?_, ?_, decodeCursor_encodeCursor engine row, locate_encodeCursor row⟩
                · have hfound := List.mem_of_mem_take hmember
                  rw [List.mem_mergeSort, List.mem_filter] at hfound
                  exact hfound.1
                · rw [List.getLast?_map, hrow, Option.map_some]
              next => cases hnext

theorem Reads.unique {input : ListInput} {pages others : List (List PublicActivity)}
    (hpages : Reads engine table principal input pages)
    (hothers : Reads engine table principal input others) : pages = others := by
  induction hpages generalizing others with
  | last hlist hlast =>
      cases hothers with
      | last hother _ =>
          obtain rfl := Except.ok.inj (hlist.symm.trans hother)
          rfl
      | more hother hmore _ =>
          obtain rfl := Except.ok.inj (hlist.symm.trans hother)
          rw [hlast] at hmore
          cases hmore
  | more hlist hmore _ ih =>
      cases hothers with
      | last hother hlast =>
          obtain rfl := Except.ok.inj (hlist.symm.trans hother)
          rw [hlast] at hmore
          cases hmore
      | more hother hotherMore hrest =>
          obtain rfl := Except.ok.inj (hlist.symm.trans hother)
          obtain rfl := Option.some.inj (hmore.symm.trans hotherMore)
          rw [ih hrest]

end Requests

/-- Following the cursors from the first page ends, and shows every matching row exactly once,
ordered by time and id, newest first; and a cursor decodes to the position it was made for. -/
theorem activity_paging_exact {input : ListInput} (hvalid : input.Valid)
    (hcursor : input.cursor = none) {walletAddress : String}
    (hwallet : canonicalWallet engine principal.merchantWalletAddress = .ok walletAddress) :
    (∃ (pages : List (List PublicActivity)) (rows : List Activity),
      Reads engine table principal input pages ∧
      (∀ others, Reads engine table principal input others → others = pages) ∧
      pages.flatten = rows.map toPublic ∧
      rows.Perm (table.rows.filter fun row =>
        (filtersOf principal walletAddress input).Matches row) ∧
      rows.Pairwise fun first second => second.createdAt < first.createdAt ∨
        (second.createdAt = first.createdAt ∧ second.id < first.id)) ∧
    ∀ request page cursor, list engine table principal request = .ok page →
      page.nextCursor = some cursor →
      ∃ row ∈ table.rows, page.items.getLast? = some (toPublic row) ∧
        decodeCursor engine cursor =
          .ok { createdAt := row.createdAt, id := .string row.id.text } ∧
        locate engine (some { createdAt := row.createdAt, id := .string row.id.text }) =
          .ok (some (row.createdAt, row.id)) := by
  refine ⟨?_, fun request page cursor hlist hnext => nextCursor_position hlist hnext⟩
  have hdistinct := @position_distinct table (filtersOf principal walletAddress input)
  obtain ⟨pages, hfollows, hflatten⟩ :=
    Paging.follows_all hdistinct (pageSize_pos input.limit)
  have hreads := Reads.of_follows hvalid hwallet (requestedCursor_none hcursor) rfl hfollows
  refine ⟨_, pages.flatten, hreads, fun others hothers => hothers.unique hreads, ?_, ?_, ?_⟩
  · rw [List.map_flatten]
  · rw [hflatten]
    exact Paging.perm_ordered
  · rw [hflatten]
    refine (Paging.pairwise_ordered hdistinct).imp fun hbehind => ?_
    exact Prod.Lex.toLex_lt_toLex.mp hbehind

/-! ## Rows of one instant -/

def exampleEngine : Engine where
  toRuntime := .ofTable [] []
  otherDate := fun _ => none
  otherId := fun _ => none
  numberText := id
  replaced := fun _ => ""

def exampleRow (id : Uuid) (status : String) : Activity where
  id := id
  ownerUserId := "user-a"
  walletAddress := "0x1111111111111111111111111111111111111111"
  type := "swap"
  status := status
  createdAt := ⟨1767225600000, by decide⟩

/-- Three completed rows of one instant, and a pending one. -/
def exampleTable : ActivityTable where
  rows := [exampleRow 5 "completed", exampleRow 7 "completed", exampleRow 6 "pending",
    exampleRow 4 "completed"]
  unique := by decide

def examplePrincipal : Principal where
  merchantUserId := "user-a"
  merchantWalletAddress := "0x1111111111111111111111111111111111111111"

/-- One completed row a page. -/
def exampleInput : ListInput where
  cursor := none
  limit := some (some 1)
  type := none
  status := some "completed"

/-- The completed rows of one instant are read one by one, each of them once. -/
theorem activity_paging_exact_ties :
    (filtersOf examplePrincipal "0x1111111111111111111111111111111111111111" exampleInput).Matches
      (exampleRow 7 "completed") ∧
    ∃ (pages : List (List PublicActivity)) (rows : List Activity),
      Reads exampleEngine exampleTable examplePrincipal exampleInput pages ∧
      (∀ others, Reads exampleEngine exampleTable examplePrincipal exampleInput others →
        others = pages) ∧
      pages.flatten = rows.map toPublic ∧
      rows.Perm (exampleTable.rows.filter fun row => (filtersOf examplePrincipal
        "0x1111111111111111111111111111111111111111" exampleInput).Matches row) ∧
      rows.Pairwise fun first second => second.createdAt < first.createdAt ∨
        (second.createdAt = first.createdAt ∧ second.id < first.id) := by
  have hvalid : exampleInput.Valid := by
    refine ⟨fun limit hlimit => ?_, .inl rfl, .inr (by decide)⟩
    obtain rfl := Option.some.inj hlimit
    exact ⟨by decide +kernel, le_rfl⟩
  have hwallet : canonicalWallet exampleEngine examplePrincipal.merchantWalletAddress =
      .ok "0x1111111111111111111111111111111111111111" := by
    decide +kernel
  exact ⟨by decide, (activity_paging_exact exampleEngine examplePrincipal hvalid rfl hwallet).1⟩

end WizPay.Activities
