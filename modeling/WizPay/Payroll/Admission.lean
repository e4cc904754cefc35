import WizPay.Payroll.Approval
import WizPay.Payroll.References

/-!
# What the contract admits of a plan

The rules of a batch are implemented twice: the planner checks a request before it is cut
into batches with references of their own, and the contract checks every batch. The planner
keeps the sizes, the positive amounts and, for a wallet it can read, the employer away from
the payees; the contract alone counts the bytes of a reference, knows its own address and the
zero address, and stays within `uint256`.
-/

namespace WizPay.Payroll

open Backend Evm Foundation PayrollMainnet

/-! ## Accepted recipients -/

section Accepted

variable {runtime : Runtime} {routing : PaymentRouting} {payload : Json}
  {accepted : AcceptedPayroll} {sender : Option String} {recipient : ValidatedRecipient}

/-- A recipient as the planner has checked it. -/
structure Validated (sender : Option String) (recipient : ValidatedRecipient) : Prop where
  address : (addressOf recipient.address).isSome = true
  ne_sender : ∀ text ∈ sender, asciiLower text ≠ asciiLower recipient.address
  positive : 0 < recipient.amountUnits

theorem strictAddress_spec {text address : String} (hstrict : strictAddress runtime text = some address) :
    addressOf address = addressOf (trim text) ∧ (addressOf address).isSome = true := by
  unfold strictAddress at hstrict
  split at hstrict
  · refine ⟨addressOf_getAddress hstrict, ?_⟩
    rw [addressOf_isSome]
    exact (getAddress_spec hstrict).1
  · cases hstrict

/-- The recipient that a turn of the loop keeps without an error. -/
theorem validateRecipient_validated {i : ℕ} {item : Json}
    (hkept : (validateRecipient runtime payload sender i item).2 = some recipient)
    (herrors : (validateRecipient runtime payload sender i item).1 = []) :
    Validated sender recipient := by
  have hpositive := validateRecipient_positive hkept
  unfold validateRecipient at hkept herrors
  rw [apply_ite Prod.snd, ite_eq_iff] at hkept
  rcases hkept with ⟨-, hnone⟩ | ⟨hentry, hsome⟩
  · cases hnone
  · rw [apply_ite Prod.fst, if_neg hentry] at herrors
    obtain ⟨address, haddress, haccepted⟩ := Option.bind_eq_some_iff.mp hsome
    obtain ⟨value, hvalue, hstrict⟩ := Option.bind_eq_some_iff.mp haddress
    obtain ⟨-, hsame⟩ := Option.ite_none_right_eq_some.mp haccepted
    have haddresses := (List.append_eq_nil_iff.mp (List.append_eq_nil_iff.mp herrors).1).1
    have hself : (sender.any fun sender => asciiLower sender = asciiLower address) = false := by
      rw [hvalue] at haddresses
      unfold addressErrors at haddresses
      split at haddresses
      · next hnone => cases hnone
      · cases haddresses
      · next hsome =>
          cases hsome
          rw [hstrict] at haddresses
          by_contra hany
          rw [Bool.not_eq_false] at hany
          simp [hany] at haddresses
    cases hsame
    refine ⟨(strictAddress_spec hstrict).2, fun text htext hlower => ?_, hpositive⟩
    rw [Option.mem_def.mp htext] at hself
    simp [hlower] at hself

theorem validateRecipients_validated {i : ℕ} {items : List Json}
    (hmember : recipient ∈ (validateRecipients runtime payload sender i items).2)
    (herrors : (validateRecipients runtime payload sender i items).1 = []) :
    Validated sender recipient := by
  induction items generalizing i with
  | nil => cases hmember
  | cons item rest ih =>
      obtain ⟨hfirst, hrest⟩ := List.append_eq_nil_iff.mp herrors
      rcases List.mem_append.mp hmember with hkept | hlater
      · exact validateRecipient_validated (Option.mem_toList.mp hkept) hfirst
      · exact ih hlater hrest

theorem acceptPayroll_ok (haccepts : acceptPayroll runtime routing payload = .ok accepted) :
    normalizeTaskOwner payload = .ok accepted.owner ∧ (validate runtime payload).valid = true ∧
      accepted.recipients = (validate runtime payload).recipients := by
  unfold acceptPayroll at haccepts
  obtain ⟨-, -, haccepts⟩ := except_bind_ok.mp haccepts
  obtain ⟨owner, howner, haccepts⟩ := except_bind_ok.mp haccepts
  cases hvalid : (validate runtime payload).valid with
  | false =>
      simp only [hvalid, if_true] at haccepts
      cases haccepts
  | true =>
      simp only [hvalid, Bool.true_eq_false, if_false] at haccepts
      cases haccepts
      exact ⟨howner, rfl, rfl⟩

/-- A valid payload has a list of recipients, and none of its turns leaves an error. -/
theorem validate_valid (hvalid : (validate runtime payload).valid = true) :
    ∃ items, (validateRecipients runtime payload (validationSender runtime payload) 0 items).1 = [] ∧
      (validate runtime payload).recipients =
        (validateRecipients runtime payload (validationSender runtime payload) 0 items).2 := by
  unfold validate at hvalid ⊢
  generalize payload.get? "recipients" = recipients at hvalid ⊢
  cases recipients with
  | none => exact absurd hvalid Bool.false_ne_true
  | some value =>
      cases value with
      | array items =>
          cases items with
          | nil => exact absurd hvalid Bool.false_ne_true
          | cons first rest =>
              exact ⟨first :: rest, (List.append_eq_nil_iff.mp (List.isEmpty_iff.mp hvalid)).2, rfl⟩
      | _ => exact absurd hvalid Bool.false_ne_true

theorem accepted_validated (haccepts : acceptPayroll runtime routing payload = .ok accepted)
    (hmember : recipient ∈ accepted.recipients) :
    Validated (validationSender runtime payload) recipient := by
  obtain ⟨-, hvalid, hrecipients⟩ := acceptPayroll_ok haccepts
  obtain ⟨items, herrors, hkept⟩ := validate_valid hvalid
  rw [hrecipients, hkept] at hmember
  exact validateRecipients_validated hmember herrors

theorem normalizeTaskOwner_ok {owner : String} (howner : normalizeTaskOwner payload = .ok owner) :
    ∃ wallet, payload.get? "walletAddress" = some (.string wallet) ∧
      owner = asciiLower (trim wallet) ∧ isHexText 40 (trim wallet) = true := by
  unfold normalizeTaskOwner at howner
  split at howner
  · next wallet hwallet =>
      split at howner
      · next htext => exact ⟨wallet, hwallet, (Except.ok.inj howner).symm, htext⟩
      · exact absurd howner fun herror => nomatch herror
  · exact absurd howner fun herror => nomatch herror

theorem addressOf_asciiLower {text : String} (htext : isHexText 40 text = true) :
    addressOf (asciiLower text) = addressOf text := by
  obtain ⟨hlower, hidem⟩ := asciiLower_isHexText htext
  rw [addressOf_getD htext]
  exact (addressOf_eq_iff (addressOf_getD htext) hlower).mpr hidem.symm

/-- A wallet that the planner can read strictly is the owner of the task. -/
theorem addressOf_validationSender
    (haccepts : acceptPayroll runtime routing payload = .ok accepted) {text : String}
    (hsender : validationSender runtime payload = some text) :
    addressOf text = addressOf accepted.owner := by
  obtain ⟨wallet, hwallet, howner, htext⟩ := normalizeTaskOwner_ok (acceptPayroll_ok haccepts).1
  unfold validationSender at hsender
  rw [hwallet] at hsender
  rw [(strictAddress_spec hsender).1, howner, addressOf_asciiLower htext]

end Accepted

/-! ## References -/

theorem trimmedField_ne_empty {payload : Json} {key text : String}
    (hfield : trimmedField payload key = some text) : text ≠ "" := by
  unfold trimmedField at hfield
  split at hfield
  · split at hfield
    · cases hfield
    · next hne => exact Option.some.inj hfield ▸ hne
  · cases hfield

theorem normalizeReferenceId_ne_empty (payload : Json) (now : ℕ) :
    normalizeReferenceId payload now ≠ "" := by
  unfold normalizeReferenceId
  cases hfield : trimmedField payload "referenceId" with
  | none =>
      intro hempty
      have hlength := congrArg String.length hempty
      simp at hlength
  | some text => exact trimmedField_ne_empty hfield

/-- A counted reference has a hyphen, and the first one is the base itself. -/
theorem getBatchReferenceId_ne_empty {base : String} (hbase : base ≠ "") (index : ℕ) :
    getBatchReferenceId base index ≠ "" := by
  cases index with
  | zero =>
      rw [getBatchReferenceId_zero]
      exact hbase
  | succ index =>
      rw [getBatchReferenceId_of_pos base (Nat.succ_pos index)]
      intro hempty
      have hlength := congrArg String.length hempty
      simp at hlength

/-! ## Admitted batches -/

namespace PayrollBatch

variable (batch : PayrollBatch)

/-- The accounts that the recipients of a batch name. -/
def payees : List Address := batch.recipients.filterMap fun recipient => addressOf recipient.address

/-- The reference of a batch as the contract gets it. -/
def referenceBytes (referenceId : String) : ByteArray :=
  (getBatchReferenceId referenceId batch.index).toUTF8

end PayrollBatch

section Admission

variable {Hash : Type} {c : Contract Hash Ledgers} {router : Router (Hash → Bool) (Event Hash)}
  {runtime : Runtime} {routing : PaymentRouting} {payload : Json} {accepted : AcceptedPayroll}
  {batch : PayrollBatch} {msg : Msg} {token : Address} {state : State Hash Ledgers}

/-- What the planner leaves to the contract: the bytes of the reference, the zero address, the
address of the contract, and an employer whose own address the planner could not read. -/
structure Clear (runtime : Runtime) (payload : Json) (payroll employer : Address)
    (referenceId : ByteArray) (batch : PayrollBatch) : Prop where
  reference : referenceId.size ≤ 64
  ne_zero : ∀ recipient ∈ batch.recipients, addressOf recipient.address ≠ some 0
  ne_payroll : ∀ recipient ∈ batch.recipients, addressOf recipient.address ≠ some payroll
  ne_employer : validationSender runtime payload = none →
    ∀ recipient ∈ batch.recipients, addressOf recipient.address ≠ some employer

/-- A state that asks nothing more of the batch than its arguments. -/
structure Ready (c : Contract Hash Ledgers) (msg : Msg) (token : Address) (amounts : List ℕ)
    (referenceId : ByteArray) (state : State Hash Ledgers) : Prop where
  supported : token = c.USDC ∨ token = c.EURC
  value : msg.value = 0
  supplied : state.chain.Supplied token
  balance : fundingOf c.feeBps amounts ≤ state.chain.balance token msg.sender
  allowance : fundingOf c.feeBps amounts ≤ state.chain.allowance token msg.sender c.self
  fresh : state.storage (canonicalReferenceHash c msg.sender referenceId) = false
  unpaused : state.paused = false
  unlocked : state.entered = false

/-- A quote that covers so many units. -/
structure Quoted (msg : Msg) (total grossInput minTotalOut minHopPriceX36 deadline : ℕ) : Prop where
  grossInput_ne : grossInput ≠ 0
  grossInput_lt : grossInput < uint128Bound
  minTotalOut_ne : minTotalOut ≠ 0
  minTotalOut_lt : minTotalOut < uint128Bound
  minHopPriceX36_ne : minHopPriceX36 ≠ 0
  deadline_ge : msg.timestamp ≤ deadline
  deadline_le : deadline ≤ msg.timestamp + MAX_DEADLINE_WINDOW
  covered : total ≤ minTotalOut

/-- The payees of a batch are its recipients, one by one. -/
theorem payees_spec (hvalidated : ∀ recipient ∈ batch.recipients,
    (addressOf recipient.address).isSome = true) :
    batch.payees.length = batch.recipients.length ∧
      batch.payees.zip batch.amounts = batch.recipients.filterMap fun recipient =>
        (addressOf recipient.address).map fun address => (address, recipient.amountUnits) := by
  unfold PayrollBatch.payees PayrollBatch.amounts
  generalize batch.recipients = recipients at hvalidated
  induction recipients with
  | nil => exact ⟨rfl, rfl⟩
  | cons recipient rest ih =>
      obtain ⟨hlength, hzip⟩ := ih fun other hother => hvalidated other (List.mem_cons_of_mem _ hother)
      obtain ⟨address, haddress⟩ :=
        Option.isSome_iff_exists.mp (hvalidated recipient List.mem_cons_self)
      simp only [List.filterMap_cons, haddress, Option.map_some, List.map_cons, List.zip_cons_cons,
        List.length_cons, hlength, hzip, and_self]

/-- What the planner guarantees of every batch that it plans. -/
structure PlannedBatch (runtime : Runtime) (payload : Json) (batch : PayrollBatch) : Prop where
  nonempty : batch.recipients ≠ []
  bounded : batch.recipients.length ≤ 50
  total : batch.totalAmount = batch.amounts.sum
  validated : ∀ recipient ∈ batch.recipients, Validated (validationSender runtime payload) recipient

theorem plannedBatch (haccepts : acceptPayroll runtime routing payload = .ok accepted)
    (hbatch : batch ∈ splitIntoBatches accepted.recipients) :
    PlannedBatch runtime payload batch where
  nonempty := (splitIntoBatches_partition accepted.recipients).nonempty batch hbatch
  bounded := (splitIntoBatches_partition accepted.recipients).bounded batch hbatch
  total := splitIntoBatches_total hbatch
  validated recipient hrecipient := by
    apply accepted_validated haccepts
    apply (splitIntoBatches_partition accepted.recipients).perm.subset
    exact List.mem_flatMap.mpr ⟨batch, hbatch, hrecipient⟩

theorem PlannedBatch.payees (hplanned : PlannedBatch runtime payload batch) :
    batch.payees.length = batch.recipients.length ∧
      batch.payees.zip batch.amounts = batch.recipients.filterMap fun recipient =>
        (addressOf recipient.address).map fun address => (address, recipient.amountUnits) :=
  payees_spec fun recipient hrecipient => (hplanned.validated recipient hrecipient).address

/-- A planned batch is clear exactly if it passes the checks that the contract makes of it. -/
theorem PlannedBatch.admissible_iff (haccepts : acceptPayroll runtime routing payload = .ok accepted)
    {employer : Address} (howner : addressOf accepted.owner = some employer)
    (hplanned : PlannedBatch runtime payload batch) {referenceId : ByteArray}
    (hreference : referenceId.size ≠ 0) :
    AdmissibleBatch batch.payees batch.amounts referenceId ∧
        AdmissiblePayments c employer (batch.payees.zip batch.amounts) ↔
      Clear runtime payload c.self employer referenceId batch := by
  obtain ⟨hlength, hzip⟩ := hplanned.payees
  rw [hzip]
  constructor
  · rintro ⟨hbatch, hpayments⟩
    have hpayee : ∀ recipient ∈ batch.recipients, ∀ address,
        addressOf recipient.address = some address → AdmissibleRecipient c.self employer address := by
      intro recipient hrecipient address haddress
      apply And.left
      apply hpayments (address, recipient.amountUnits)
      exact List.mem_filterMap.mpr ⟨recipient, hrecipient, by rw [haddress]; rfl⟩
    exact {
      reference := hbatch.referenceSize
      ne_zero := fun recipient hrecipient hzero => (hpayee recipient hrecipient 0 hzero).ne_zero rfl
      ne_payroll := fun recipient hrecipient hself =>
        (hpayee recipient hrecipient _ hself).ne_payroll rfl
      ne_employer := fun _ recipient hrecipient hself =>
        (hpayee recipient hrecipient _ hself).ne_employer rfl }
  · intro hclear
    refine ⟨⟨?_, ?_, ?_, hreference, hclear.reference⟩, ?_⟩
    · rw [hlength]
      exact fun hnone => hplanned.nonempty (List.eq_nil_of_length_eq_zero hnone)
    · rw [hlength, PayrollBatch.amounts, List.length_map]
    · rw [hlength]
      exact hplanned.bounded
    · intro payment hpayment
      obtain ⟨recipient, hrecipient, hpays⟩ := List.mem_filterMap.mp hpayment
      obtain ⟨address, haddress, rfl⟩ := Option.map_eq_some_iff.mp hpays
      have hvalidated := hplanned.validated recipient hrecipient
      refine ⟨⟨?_, ?_, ?_⟩, hvalidated.positive.ne'⟩
      · rintro rfl
        exact hclear.ne_zero recipient hrecipient haddress
      · -- a sender that the planner has read is the employer, and no recipient is that sender
        rintro rfl
        cases hsender : validationSender runtime payload with
        | none => exact hclear.ne_employer hsender recipient hrecipient haddress
        | some text =>
            have htext : addressOf text = some address :=
              (addressOf_validationSender haccepts hsender).trans howner
            have hvalid : isHexText 40 recipient.address = true := by
              rw [← addressOf_isSome, haddress]
              rfl
            exact hvalidated.ne_sender text hsender ((addressOf_eq_iff htext hvalid).mp haddress)
      · rintro rfl
        exact hclear.ne_payroll recipient hrecipient haddress

/-- A sum that is computed has computed every fee. -/
theorem sumSameToken_fees {payments : List (Address × ℕ)} {totalObligations totalFees : ℕ}
    {result : (ℕ × ℕ) × State Hash Ledgers}
    (hrun : (sumSameToken c msg payments totalObligations totalFees).run state = .ok result) :
    FeesFit c.feeBps (payments.map Prod.snd) := by
  induction payments generalizing totalObligations totalFees with
  | nil => exact fun amount hamount => absurd hamount List.not_mem_nil
  | cons payment rest ih =>
      obtain ⟨recipient, amount⟩ := payment
      simp only [sumSameToken, Call.bind_ok, validateRecipient_ok, revertIf_ok, checkedAdd,
        checked_ok, Prod.mk.injEq, true_and] at hrun
      obtain ⟨_, _, ⟨_, rfl⟩, _, _, ⟨_, rfl⟩, _, _, ⟨_, rfl, rfl⟩, _, _, hfee, _, _,
        ⟨_, rfl, rfl⟩, hrest⟩ := hrun
      have hfits : amount * c.feeBps < uint256Bound := by
        unfold fee bpsFee at hfee
        split at hfee
        · next hzero =>
            rw [hzero, Nat.mul_zero]
            decide
        · simp only [Call.bind_ok, checkedMul, checked_ok] at hfee
          obtain ⟨_, _, ⟨hproduct, -⟩, -⟩ := hfee
          exact hproduct
      obtain ⟨-, rfl⟩ := Prod.mk.inj (fee_ok c hfee)
      intro other hother
      rcases List.mem_cons.mp hother with rfl | hlater
      · exact hfits
      · exact ih hrest other hlater

theorem executeSameTokenPayroll_fees [DecidableEq Hash] {recipients : List Address}
    {amounts : List ℕ} {referenceId : ByteArray} {result : ℕ × State Hash Ledgers}
    (hrun : (executeSameTokenPayroll c msg token recipients amounts referenceId).run state =
      .ok result) :
    FeesFit c.feeBps ((recipients.zip amounts).map Prod.snd) := by
  obtain ⟨funded, last, hfunded, _, hbody, -⟩ := entryPoint_ok hrun
  simp only [Call.bind_ok, validateBatch_ok, revertIf_ok, Prod.mk.injEq, true_and] at hbody
  obtain ⟨_, _, ⟨_, rfl⟩, _, _, ⟨_, rfl⟩, _, _, ⟨_, rfl⟩, _, _, _, _, _, hsum, _⟩ := hbody
  exact sumSameToken_fees hsum

/-- Every batch of an accepted plan, submitted by its owner to a contract that is ready for
it, is executed exactly if it is clear and its fees can be computed; and the same batch, with
a quote that covers it, passes the checks of the cross-token route exactly if it is clear. -/
theorem planned_batch_admitted_iff [DecidableEq Hash] (hc : c.Standard router)
    (haccounts : Accounts c msg.sender)
    (haccepts : acceptPayroll runtime routing payload = .ok accepted)
    (howner : addressOf accepted.owner = some msg.sender) (now : ℕ)
    (hbatch : batch ∈ splitIntoBatches accepted.recipients) :
    let referenceId := batch.referenceBytes (normalizeReferenceId payload now)
    (∀ token state, Ready c msg token batch.amounts referenceId state →
      ((executeSameTokenPayroll c msg token batch.payees batch.amounts referenceId).succeeds state =
          true ↔
        Clear runtime payload c.self msg.sender referenceId batch ∧
          FeesFit c.feeBps batch.amounts)) ∧
    (msg.timestamp + MAX_DEADLINE_WINDOW < uint256Bound →
      ∀ grossInput minTotalOut minHopPriceX36 deadline (state : State Hash Ledgers),
        Quoted msg batch.totalAmount grossInput minTotalOut minHopPriceX36 deadline →
        ((validateCrossTokenDetails c msg batch.payees batch.amounts grossInput minTotalOut
            minHopPriceX36 deadline referenceId).succeeds state = true ↔
          Clear runtime payload c.self msg.sender referenceId batch)) := by
  intro referenceId
  have hplanned := plannedBatch haccepts hbatch
  have hreference : referenceId.size ≠ 0 := by
    have hne := getBatchReferenceId_ne_empty (normalizeReferenceId_ne_empty payload now) batch.index
    intro hsize
    exact hne (String.utf8ByteSize_eq_zero_iff.mp hsize)
  have hadmissible := hplanned.admissible_iff (c := c) haccepts howner hreference
  have hamounts : (batch.payees.zip batch.amounts).map Prod.snd = batch.amounts := by
    apply List.map_snd_zip
    rw [hplanned.payees.1, PayrollBatch.amounts, List.length_map]
  constructor
  · intro token state hready
    rw [Call.succeeds_iff]
    constructor
    · rintro ⟨total, next, hrun⟩
      obtain ⟨hchecked, hpaid, -⟩ := executeSameTokenPayroll_flow hc hrun
      exact ⟨hadmissible.mp ⟨hchecked, hpaid⟩, hamounts ▸ executeSameTokenPayroll_fees hrun⟩
    · rintro ⟨hclear, hfees⟩
      obtain ⟨hchecked, hpaid⟩ := hadmissible.mpr hclear
      obtain ⟨events, chain, hrun, -⟩ := executeSameTokenPayroll_run hc haccounts {
        supported := hready.supported, value := hready.value, batch := hchecked
        payments := hpaid, fees := hfees, supplied := hready.supplied, balance := hready.balance
        allowance := hready.allowance, fresh := hready.fresh, unpaused := hready.unpaused
        unlocked := hready.unlocked }
      exact ⟨_, _, hrun⟩
  · intro htimestamp grossInput minTotalOut minHopPriceX36 deadline state hquoted
    rw [Call.succeeds_iff]
    constructor
    · rintro ⟨total, next, hrun⟩
      obtain ⟨hdetails, -⟩ := validateCrossTokenDetails_ok c hrun
      exact hadmissible.mp ⟨hdetails.batch, hdetails.payments⟩
    · intro hclear
      obtain ⟨hchecked, hpaid⟩ := hadmissible.mpr hclear
      have hcovered : ((batch.payees.zip batch.amounts).map Prod.snd).sum ≤ minTotalOut := by
        rw [hamounts, ← hplanned.total]
        exact hquoted.covered
      exact ⟨_, _, validateCrossTokenDetails_run c {
        batch := hchecked, payments := hpaid, grossInput_ne := hquoted.grossInput_ne
        grossInput_lt := hquoted.grossInput_lt, minTotalOut_ne := hquoted.minTotalOut_ne
        minTotalOut_lt := hquoted.minTotalOut_lt, minHopPriceX36_ne := hquoted.minHopPriceX36_ne
        deadline_ge := hquoted.deadline_ge, deadline_le := hquoted.deadline_le
        covered := hcovered } htimestamp⟩

end Admission


/-! ## A batch that goes through, and one that does not -/

/-- Account 9 pays one USDC to the address. -/
def singlePayload (address : String) : Json := .object [
  ("walletAddress", .string "0x0000000000000000000000000000000000000009"),
  ("sourceToken", .string "USDC"), ("referenceId", .string "PAY-1"),
  ("sourceTokenAddress", .string "0x3600000000000000000000000000000000000000"),
  ("recipients", .array [.object [
    ("address", .string address), ("amount", .string "1"), ("targetToken", .string "USDC"),
    ("targetTokenAddress", .string "0x3600000000000000000000000000000000000000")]])]

def singleAccepted (address : String) : AcceptedPayroll where
  owner := "0x0000000000000000000000000000000000000009"
  recipients := [⟨address, "1", 1000000, "USDC", "0x3600000000000000000000000000000000000000"⟩]
  sourceToken := "USDC"

def singleBatch (address : String) : PayrollBatch := ⟨0, (singleAccepted address).recipients, 1000000⟩

theorem exampleApproved_ready {referenceId : ByteArray} :
    Ready (exampleContract fun _ _ => none) ⟨9, 0, 0⟩ 1 [1000000] referenceId
      (exampleApproved 1010000) where
  supported := .inl rfl
  value := rfl
  supplied := exampleApproved_supplied (by decide) 1
  balance := by decide
  allowance := by decide
  fresh := rfl
  unpaused := rfl
  unlocked := rfl

theorem splitIntoBatches_single (address : String) :
    splitIntoBatches (singleAccepted address).recipients = [singleBatch address] := by
  simp [splitIntoBatches, groupByToken, addToGroup, chunks, slices, singleAccepted, singleBatch,
    totalUnits, MAX_BATCH_SIZE]

/-- The planner accepts both payees; the contract pays account 20 and refuses the zero
address. -/
theorem planned_batch_admitted_iff_single :
    let payee := "0x0000000000000000000000000000000000000014"
    let zero := "0x0000000000000000000000000000000000000000"
    let execute := fun batch : PayrollBatch => executeSameTokenPayroll
      (exampleContract fun _ _ => none) ⟨9, 0, 0⟩ 1 batch.payees batch.amounts
      (batch.referenceBytes "PAY-1")
    (execute (singleBatch payee)).succeeds (exampleApproved 1010000) = true ∧
      (execute (singleBatch zero)).succeeds (exampleApproved 1010000) = false := by
  intro payee zero execute
  have haccounts : Accounts (exampleContract fun _ _ => none) 9 := by constructor <;> decide
  have howner : addressOf "0x0000000000000000000000000000000000000009" = some 9 := by decide +kernel
  have hexecutes : ∀ address, acceptPayroll (.ofTable [] []) arcMainnet (singlePayload address) =
      .ok (singleAccepted address) →
      ((execute (singleBatch address)).succeeds (exampleApproved 1010000) = true ↔
        Clear (.ofTable [] []) (singlePayload address) 100 9
            ((singleBatch address).referenceBytes "PAY-1") (singleBatch address) ∧
          FeesFit 100 (singleBatch address).amounts) := fun address haccepts =>
    (@planned_batch_admitted_iff ExampleHash (exampleContract fun _ _ => none) (fun _ _ => none)
      (.ofTable [] []) arcMainnet (singlePayload address) (singleAccepted address)
      (singleBatch address) ⟨9, 0, 0⟩ _ rfl haccounts haccepts howner 0
      (splitIntoBatches_single address ▸ List.mem_singleton.mpr rfl)).1 1 _ exampleApproved_ready
  constructor
  · refine (hexecutes payee (by decide +kernel)).mpr ⟨?_, ?_⟩
    · constructor <;> decide +kernel
    · intro amount hamount
      obtain rfl := List.mem_singleton.mp hamount
      decide
  · refine Bool.eq_false_iff.mpr fun hsucceeds => ?_
    obtain ⟨hclear, -⟩ := (hexecutes zero (by decide +kernel)).mp hsucceeds
    exact hclear.ne_zero _ (List.mem_singleton.mpr rfl) (by decide +kernel)

end WizPay.Payroll
