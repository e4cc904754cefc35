import WizPay.Payroll.Planner

/-!
# The batches of a payroll

Grouping by token and cutting into batches loses, repeats and reorders nothing:
the batches hold the recipients of the request, those of one token in the order
of the request, and only the last batch of a token may have room left.
-/

namespace WizPay.Payroll

/-! ## Slices -/

section

variable {α : Type} {size : ℕ}

@[simp] theorem chunks_nil (hsize : 0 < size) : chunks size ([] : List α) = [] := by
  have hcount : (([] : List α).length + (size - 1)) / size = 0 :=
    Nat.div_eq_of_lt (by rw [List.length_nil]; omega)
  rw [chunks, hcount, slices]

/-- The first slice, and the slices of what it leaves. -/
theorem chunks_of_ne_nil (hsize : 0 < size) {items : List α} (hitems : items ≠ []) :
    chunks size items = items.take size :: chunks size (items.drop size) := by
  have hpos : 0 < items.length := List.length_pos_iff.mpr hitems
  have hcount : (items.length + (size - 1)) / size =
      ((items.drop size).length + (size - 1)) / size + 1 := by
    rw [List.length_drop, ← Nat.add_div_right _ hsize]
    rcases Nat.le_total size items.length with hfull | hshort
    · congr 1
      omega
    · -- one slice takes everything: both counts are one
      rw [Nat.sub_eq_zero_of_le hshort, Nat.div_eq_of_lt_le (k := 1), Nat.div_eq_of_lt_le (k := 1)]
        <;> omega
  rw [chunks, hcount, slices, chunks]

/-- What holds of no items, and of some items when it holds of those after the
first slice, holds of all. -/
theorem slice_induction (hsize : 0 < size) {holds : List α → Prop} (nil : holds [])
    (slice : ∀ items, items ≠ [] → holds (items.drop size) → holds items) (items : List α) :
    holds items := by
  induction hlength : items.length using Nat.strong_induction_on generalizing items with
  | _ length ih =>
      by_cases hitems : items = []
      · rw [hitems]
        exact nil
      · apply slice items hitems
        have hpos : 0 < items.length := List.length_pos_iff.mpr hitems
        exact ih (items.drop size).length (by rw [List.length_drop]; omega) _ rfl

theorem flatten_chunks (hsize : 0 < size) (items : List α) :
    (chunks size items).flatten = items := by
  induction items using slice_induction hsize with
  | nil => simp [hsize]
  | slice items hitems ih =>
      rw [chunks_of_ne_nil hsize hitems, List.flatten_cons, ih, List.take_append_drop]

theorem chunks_bounds (hsize : 0 < size) (items : List α) :
    ∀ chunk ∈ chunks size items, chunk ≠ [] ∧ chunk.length ≤ size := by
  induction items using slice_induction hsize with
  | nil => simp [hsize]
  | slice items hitems ih =>
      rw [chunks_of_ne_nil hsize hitems]
      intro chunk hmem
      rcases List.mem_cons.mp hmem with rfl | hmem
      · refine ⟨?_, ?_⟩
        · simp [hitems, hsize.ne']
        · simp
      · exact ih chunk hmem

/-- A slice with another one after it is full. -/
theorem chunks_full (hsize : 0 < size) (items : List α) :
    (chunks size items).Pairwise fun earlier _ => earlier.length = size := by
  induction items using slice_induction hsize with
  | nil => simp [hsize]
  | slice items hitems ih =>
      rw [chunks_of_ne_nil hsize hitems, List.pairwise_cons]
      refine ⟨fun later hlater => ?_, ih⟩
      have hrest : items.drop size ≠ [] := by
        intro hempty
        simp [hempty, hsize] at hlater
      rw [ne_eq, List.drop_eq_nil_iff] at hrest
      rw [List.length_take]
      omega

end

/-! ## Groups -/

/-- The recipients whose target is the token, in order. -/
def paidIn (token : String) (recipients : List ValidatedRecipient) : List ValidatedRecipient :=
  recipients.filter fun recipient => recipient.targetToken = token

@[simp] theorem paidIn_append (token : String) (first second : List ValidatedRecipient) :
    paidIn token (first ++ second) = paidIn token first ++ paidIn token second := by
  simp [paidIn]

/-- Two lists whose recipients agree token by token hold the same recipients. -/
theorem perm_of_paidIn {first second : List ValidatedRecipient}
    (hsame : ∀ token, paidIn token first = paidIn token second) : first.Perm second := by
  rw [List.perm_iff_count]
  intro recipient
  have hcount (recipients : List ValidatedRecipient) :
      (paidIn recipient.targetToken recipients).count recipient = recipients.count recipient := by
    apply List.count_filter
    simp
  rw [← hcount first, ← hcount second, hsame]

/-- Groups of one token each, no token twice and no group empty. -/
structure Grouped (groups : List (String × List ValidatedRecipient)) : Prop where
  nonempty : ∀ group ∈ groups, group.2 ≠ []
  token : ∀ group ∈ groups, ∀ recipient ∈ group.2, recipient.targetToken = group.1
  distinct : (groups.map Prod.fst).Nodup

theorem Grouped.tail {group : String × List ValidatedRecipient}
    {rest : List (String × List ValidatedRecipient)} (h : Grouped (group :: rest)) :
    Grouped rest where
  nonempty := fun other hmem => h.nonempty other (List.mem_cons_of_mem _ hmem)
  token := fun other hmem => h.token other (List.mem_cons_of_mem _ hmem)
  distinct := (List.nodup_cons.mp h.distinct).2

/-- The recipients of the groups, one group after the other. -/
def members (groups : List (String × List ValidatedRecipient)) : List ValidatedRecipient :=
  groups.flatMap Prod.snd

@[simp] theorem members_cons (group : String × List ValidatedRecipient)
    (rest : List (String × List ValidatedRecipient)) :
    members (group :: rest) = group.2 ++ members rest := by
  simp [members]

/-- Groups of other tokens hold no recipient of this one. -/
theorem Grouped.paidIn_members {groups : List (String × List ValidatedRecipient)}
    (h : Grouped groups) {token : String} (habsent : token ∉ groups.map Prod.fst) :
    paidIn token (members groups) = [] := by
  rw [paidIn, List.filter_eq_nil_iff]
  intro recipient hmem
  obtain ⟨group, hgroup, hmem⟩ := List.mem_flatMap.mp hmem
  have htoken := h.token group hgroup recipient hmem
  simp only [decide_eq_true_eq]
  rintro rfl
  exact habsent (htoken ▸ List.mem_map_of_mem hgroup)

theorem addToGroup_tokens (recipient : ValidatedRecipient)
    (groups : List (String × List ValidatedRecipient)) (token : String) :
    token ∈ (addToGroup recipient groups).map Prod.fst ↔
      token ∈ groups.map Prod.fst ∨ token = recipient.targetToken := by
  induction groups with
  | nil => simp [addToGroup]
  | cons group rest ih =>
      unfold addToGroup
      split
      next hsame => simp only [List.map_cons, List.mem_cons]; grind
      next hother => simp only [List.map_cons, List.mem_cons, ih]; tauto

theorem Grouped.addToGroup {groups : List (String × List ValidatedRecipient)}
    (h : Grouped groups) (recipient : ValidatedRecipient) :
    Grouped (addToGroup recipient groups) := by
  induction groups with
  | nil => constructor <;> simp [Payroll.addToGroup]
  | cons group rest ih =>
      unfold Payroll.addToGroup
      split
      next hsame =>
        refine ⟨?_, ?_, h.distinct⟩
        · intro other hmem
          rcases List.mem_cons.mp hmem with rfl | hmem
          · simp
          · exact h.nonempty other (List.mem_cons_of_mem _ hmem)
        · intro other hmem member hmember
          rcases List.mem_cons.mp hmem with rfl | hmem
          · rcases List.mem_append.mp hmember with hold | hnew
            · exact h.token group List.mem_cons_self member hold
            · rw [List.mem_singleton.mp hnew]
              exact hsame.symm
          · exact h.token other (List.mem_cons_of_mem _ hmem) member hmember
      next hother =>
        have hrest := ih h.tail
        refine ⟨?_, ?_, ?_⟩
        · intro other hmem
          rcases List.mem_cons.mp hmem with rfl | hmem
          · exact h.nonempty other List.mem_cons_self
          · exact hrest.nonempty other hmem
        · intro other hmem
          rcases List.mem_cons.mp hmem with rfl | hmem
          · exact h.token other List.mem_cons_self
          · exact hrest.token other hmem
        · rw [List.map_cons, List.nodup_cons, addToGroup_tokens]
          refine ⟨?_, hrest.distinct⟩
          have hfresh := (List.nodup_cons.mp h.distinct).1
          tauto

/-- A recipient joins the end of its own token's recipients, and no others. -/
theorem Grouped.paidIn_addToGroup {groups : List (String × List ValidatedRecipient)}
    (h : Grouped groups) (recipient : ValidatedRecipient) (token : String) :
    paidIn token (members (Payroll.addToGroup recipient groups)) =
      paidIn token (members groups) ++ paidIn token [recipient] := by
  induction groups with
  | nil => simp [Payroll.addToGroup, members, paidIn]
  | cons group rest ih =>
      unfold Payroll.addToGroup
      split
      next hsame =>
        simp only [members_cons, paidIn_append]
        by_cases htoken : recipient.targetToken = token
        · -- no later group is of this token, so the end of the group is the end
          have hrest : paidIn token (members rest) = [] := by
            apply h.tail.paidIn_members
            rw [← htoken, ← hsame]
            exact (List.nodup_cons.mp h.distinct).1
          rw [hrest, List.append_nil, List.append_nil]
        · have hnone : paidIn token [recipient] = [] := by simp [paidIn, htoken]
          rw [hnone, List.append_nil, List.append_nil]
      next hother =>
        simp only [members_cons, paidIn_append, ih h.tail, List.append_assoc]

theorem grouped_foldl (recipients : List ValidatedRecipient)
    {groups : List (String × List ValidatedRecipient)} (h : Grouped groups) :
    let result := recipients.foldl (fun groups recipient => addToGroup recipient groups) groups
    Grouped result ∧ ∀ token,
      paidIn token (members result) = paidIn token (members groups) ++ paidIn token recipients := by
  induction recipients generalizing groups with
  | nil => exact ⟨h, fun token => by simp [paidIn]⟩
  | cons recipient rest ih =>
      obtain ⟨hgrouped, hpaid⟩ := ih (h.addToGroup recipient)
      refine ⟨hgrouped, fun token => ?_⟩
      have hcons : recipient :: rest = [recipient] ++ rest := rfl
      rw [List.foldl_cons, hpaid token, h.paidIn_addToGroup, hcons, paidIn_append,
        List.append_assoc]

theorem groupByToken_grouped (recipients : List ValidatedRecipient) :
    Grouped (groupByToken recipients) :=
  (@grouped_foldl recipients [] ⟨by simp, by simp, by simp⟩).1

theorem paidIn_groupByToken (recipients : List ValidatedRecipient) (token : String) :
    paidIn token (members (groupByToken recipients)) = paidIn token recipients := by
  have hpaid := (@grouped_foldl recipients [] ⟨by simp, by simp, by simp⟩).2 token
  rw [groupByToken, hpaid]
  rfl

/-! ## Batches -/

/-- The recipients of the batches, batch after batch. -/
def splitRecipients (recipients : List ValidatedRecipient) : List (List ValidatedRecipient) :=
  (groupByToken recipients).flatMap fun group => chunks MAX_BATCH_SIZE group.2

theorem max_batch_size_pos : 0 < MAX_BATCH_SIZE := by
  decide

theorem splitIntoBatches_recipients (recipients : List ValidatedRecipient) :
    (splitIntoBatches recipients).map PayrollBatch.recipients = splitRecipients recipients := by
  apply List.ext_getElem
  · simp [splitIntoBatches, splitRecipients]
  · intro i hleft hright
    simp [splitIntoBatches, splitRecipients]

theorem splitIntoBatches_indexes (recipients : List ValidatedRecipient) :
    (splitIntoBatches recipients).map PayrollBatch.index =
      List.range (splitIntoBatches recipients).length := by
  apply List.ext_getElem
  · simp
  · intro i hleft hright
    simp [splitIntoBatches]

theorem flatten_splitRecipients (recipients : List ValidatedRecipient) :
    (splitRecipients recipients).flatten = members (groupByToken recipients) := by
  rw [splitRecipients, members, List.flatMap, List.flatMap]
  generalize groupByToken recipients = groups
  induction groups with
  | nil => rfl
  | cons group rest ih =>
      simp only [List.map_cons, List.flatten_cons, List.flatten_append, ih,
        flatten_chunks max_batch_size_pos]

theorem mem_splitRecipients {recipients chunk : List ValidatedRecipient}
    (hmem : chunk ∈ splitRecipients recipients) :
    chunk ≠ [] ∧ chunk.length ≤ MAX_BATCH_SIZE ∧
      ∃ token ∈ (groupByToken recipients).map Prod.fst,
        ∀ recipient ∈ chunk, recipient.targetToken = token := by
  obtain ⟨group, hgroup, hchunk⟩ := List.mem_flatMap.mp hmem
  obtain ⟨hne, hlength⟩ := chunks_bounds max_batch_size_pos group.2 chunk hchunk
  refine ⟨hne, hlength, group.1, List.mem_map_of_mem hgroup, fun recipient hrecipient => ?_⟩
  apply (groupByToken_grouped recipients).token group hgroup
  rw [← flatten_chunks max_batch_size_pos group.2]
  exact List.mem_flatten_of_mem hchunk hrecipient

/-- A batch with a later batch of the same token is full. -/
theorem splitRecipients_full (recipients : List ValidatedRecipient) :
    (splitRecipients recipients).Pairwise fun earlier later =>
      (∃ one ∈ earlier, ∃ other ∈ later, one.targetToken = other.targetToken) →
        earlier.length = MAX_BATCH_SIZE := by
  have hgrouped := groupByToken_grouped recipients
  rw [splitRecipients]
  revert hgrouped
  generalize groupByToken recipients = groups
  intro hgrouped
  induction groups with
  | nil => exact List.Pairwise.nil
  | cons group rest ih =>
      rw [List.flatMap_cons, List.pairwise_append]
      refine ⟨?_, ih hgrouped.tail, ?_⟩
      · apply List.Pairwise.imp ?_ (chunks_full max_batch_size_pos group.2)
        intro earlier later hfull _
        exact hfull
      · -- batches of two groups share no token
        intro earlier hearlier later hlater ⟨one, hone, other, hother, hsame⟩
        obtain ⟨second, hsecond, hlater⟩ := List.mem_flatMap.mp hlater
        have hin {chunk : List ValidatedRecipient} {recipient : ValidatedRecipient}
            {of : String × List ValidatedRecipient} (hof : of ∈ group :: rest)
            (hchunk : chunk ∈ chunks MAX_BATCH_SIZE of.2) (hmem : recipient ∈ chunk) :
            recipient.targetToken = of.1 := by
          apply hgrouped.token of hof
          rw [← flatten_chunks max_batch_size_pos of.2]
          exact List.mem_flatten_of_mem hchunk hmem
        have htoken : group.1 = second.1 :=
          calc group.1 = one.targetToken := (hin List.mem_cons_self hearlier hone).symm
            _ = other.targetToken := hsame
            _ = second.1 := hin (List.mem_cons_of_mem _ hsecond) hlater hother
        have hlisted : second.1 ∈ rest.map Prod.fst := List.mem_map_of_mem hsecond
        rw [← htoken] at hlisted
        exact absurd hlisted (List.nodup_cons.mp hgrouped.distinct).1

/-- What cutting a list of recipients into batches must keep. -/
structure OrderedPartition (recipients : List ValidatedRecipient) (batches : List PayrollBatch) :
    Prop where
  perm : (batches.flatMap PayrollBatch.recipients).Perm recipients
  order : ∀ token,
    paidIn token (batches.flatMap PayrollBatch.recipients) = paidIn token recipients
  nonempty : ∀ batch ∈ batches, batch.recipients ≠ []
  bounded : ∀ batch ∈ batches, batch.recipients.length ≤ 50
  single : ∀ batch ∈ batches,
    ∃ token, ∀ recipient ∈ batch.recipients, recipient.targetToken = token
  indexes : batches.map PayrollBatch.index = List.range batches.length
  full : batches.Pairwise fun earlier later =>
    (∃ one ∈ earlier.recipients, ∃ other ∈ later.recipients,
      one.targetToken = other.targetToken) → earlier.recipients.length = 50
  total : ∀ batch ∈ batches,
    batch.totalAmount = (batch.recipients.map ValidatedRecipient.amountUnits).sum

theorem flatMap_recipients (batches : List PayrollBatch) :
    batches.flatMap PayrollBatch.recipients = (batches.map PayrollBatch.recipients).flatten := by
  rw [List.flatMap]

theorem splitIntoBatches_total {recipients : List ValidatedRecipient} {batch : PayrollBatch}
    (hmem : batch ∈ splitIntoBatches recipients) :
    batch.totalAmount = totalUnits batch.recipients := by
  obtain ⟨i, hi, rfl⟩ := List.mem_mapIdx.mp hmem
  rfl

/-- The sum over the batches is the sum over their recipients. -/
theorem sum_batches {batches : List PayrollBatch} (amount : ValidatedRecipient → ℕ) :
    (batches.map fun batch => (batch.recipients.map amount).sum).sum =
      ((batches.flatMap PayrollBatch.recipients).map amount).sum := by
  induction batches with
  | nil => rfl
  | cons batch rest ih =>
      rw [List.map_cons, List.sum_cons, ih, List.flatMap_cons, List.map_append, List.sum_append]

theorem splitIntoBatches_partition (recipients : List ValidatedRecipient) :
    OrderedPartition recipients (splitIntoBatches recipients) := by
  have horder (token : String) :
      paidIn token ((splitIntoBatches recipients).flatMap PayrollBatch.recipients) =
        paidIn token recipients := by
    rw [flatMap_recipients, splitIntoBatches_recipients, flatten_splitRecipients,
      paidIn_groupByToken]
  have hbatch {batch : PayrollBatch} (hmem : batch ∈ splitIntoBatches recipients) :=
    mem_splitRecipients (splitIntoBatches_recipients recipients ▸ List.mem_map_of_mem hmem)
  refine {
    perm := perm_of_paidIn horder
    order := horder
    nonempty := fun batch hmem => (hbatch hmem).1
    bounded := fun batch hmem => (hbatch hmem).2.1
    single := fun batch hmem => ?_
    indexes := splitIntoBatches_indexes recipients
    full := ?_
    total := fun batch hmem => splitIntoBatches_total hmem }
  · obtain ⟨token, -, htoken⟩ := (hbatch hmem).2.2
    exact ⟨token, htoken⟩
  · have hfull := splitRecipients_full recipients
    rw [← splitIntoBatches_recipients, List.pairwise_map] at hfull
    exact hfull

/-- The batches partition the recipients in order, and the totals over the
batches are those over the recipients. -/
theorem batches_partition_recipients (recipients : List ValidatedRecipient) :
    OrderedPartition recipients (splitIntoBatches recipients) ∧
      (calculateTotals (splitIntoBatches recipients)).totalAmount =
        (recipients.map ValidatedRecipient.amountUnits).sum ∧
      (calculateTotals (splitIntoBatches recipients)).totalRecipients = recipients.length ∧
      (calculateTotals (splitIntoBatches recipients)).totalBatches =
        (splitIntoBatches recipients).length := by
  have hpartition := splitIntoBatches_partition recipients
  refine ⟨hpartition, ?_, ?_, rfl⟩
  · have htotals : (splitIntoBatches recipients).map PayrollBatch.totalAmount =
        (splitIntoBatches recipients).map fun batch =>
          (batch.recipients.map ValidatedRecipient.amountUnits).sum :=
      List.map_congr_left hpartition.total
    rw [calculateTotals, htotals, sum_batches]
    exact (hpartition.perm.map _).sum_nat
  · have hcounts : ((splitIntoBatches recipients).map fun batch => batch.recipients.length).sum =
        ((splitIntoBatches recipients).flatMap PayrollBatch.recipients).length := by
      rw [List.length_flatMap]
    rw [calculateTotals, hcounts, hpartition.perm.length_eq]

end WizPay.Payroll
