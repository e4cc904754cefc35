import WizPay.Payroll.Batches
import WizPay.PayrollMainnet.Funded

/-!
# One approval for the same-token batches

The planner approves once for all same-token recipients, the browser and the
contract each add up a batch at a time. The three agree on every list of
recipients, so the approval pays for every same-token batch, in any order, and
nothing of it is left.
-/

namespace WizPay.Payroll

open Foundation Evm PayrollMainnet

/-! ## Planner, browser and contract -/

def PayrollBatch.amounts (batch : PayrollBatch) : List ℕ :=
  batch.recipients.map ValidatedRecipient.amountUnits

/-- The batches whose recipients are paid in the source token. -/
def sameTokenBatches (recipients : List ValidatedRecipient) (sourceToken : String) :
    List PayrollBatch :=
  (splitIntoBatches recipients).filter fun batch =>
    batch.recipients.head?.any fun recipient => recipient.targetToken = sourceToken

/-- The browser's funding of a batch. -/
def sameTokenFunding (feeBps : ℕ) : List ℕ → ℕ → Except String ℕ
  | [], sum => return sum
  | amount :: rest, sum => do
      if amount ≤ 0 then throw "Payroll amounts must be positive."
      sameTokenFunding feeBps rest (sum + amount + amount * feeBps / 10000)

theorem fundingOf_cons (feeBps amount : ℕ) (rest : List ℕ) :
    fundingOf feeBps (amount :: rest) =
      amount + amount * feeBps / 10000 + fundingOf feeBps rest := by
  simp only [fundingOf, List.map_cons, List.sum_cons]
  omega

/-- Rounding amount by amount, the funding is a sum over the amounts. -/
theorem fundingOf_eq_sum (feeBps : ℕ) (amounts : List ℕ) :
    fundingOf feeBps amounts =
      (amounts.map fun amount => amount + amount * feeBps / 10000).sum := by
  induction amounts with
  | nil => rfl
  | cons amount rest ih => rw [fundingOf_cons, ih, List.map_cons, List.sum_cons]

theorem sameTokenFunding_eq {feeBps : ℕ} {amounts : List ℕ} (hpositive : ∀ amount ∈ amounts, 0 < amount)
    (sum : ℕ) : sameTokenFunding feeBps amounts sum = .ok (sum + fundingOf feeBps amounts) := by
  induction amounts generalizing sum with
  | nil => rfl
  | cons amount rest ih =>
      have hamount := hpositive amount List.mem_cons_self
      have hrest := ih (fun other hmember => hpositive other (List.mem_cons_of_mem _ hmember))
        (sum + amount + amount * feeBps / 10000)
      rw [sameTokenFunding, if_neg (Nat.not_le.mpr hamount), fundingOf_cons, ← Nat.add_assoc,
        ← Nat.add_assoc]
      exact hrest

/-- The recipients of the same-token batches are the same-token recipients. -/
theorem flatMap_sameTokenBatches (recipients : List ValidatedRecipient) (sourceToken : String) :
    (sameTokenBatches recipients sourceToken).flatMap PayrollBatch.recipients =
      paidIn sourceToken recipients := by
  have hpartition := splitIntoBatches_partition recipients
  rw [← hpartition.order sourceToken, sameTokenBatches]
  have hsingle := hpartition.single
  have hnonempty := hpartition.nonempty
  generalize splitIntoBatches recipients = batches at hsingle hnonempty ⊢
  induction batches with
  | nil => rfl
  | cons batch rest ih =>
      have hrest := ih (fun other hmember => hsingle other (List.mem_cons_of_mem _ hmember))
        (fun other hmember => hnonempty other (List.mem_cons_of_mem _ hmember))
      obtain ⟨token, htoken⟩ := hsingle batch List.mem_cons_self
      rw [List.filter_cons, List.flatMap_cons, paidIn_append, ← hrest]
      -- the first recipient of a batch speaks for all of them
      obtain ⟨first, others, hfirst⟩ :=
        List.exists_cons_of_ne_nil (hnonempty batch List.mem_cons_self)
      have hhead : first.targetToken = token := htoken first (by simp [hfirst])
      by_cases hsource : token = sourceToken
      · have hall : paidIn sourceToken batch.recipients = batch.recipients := by
          rw [paidIn, List.filter_eq_self]
          intro recipient hmember
          simp [htoken recipient hmember, hsource]
        rw [if_pos (by simp [hfirst, hhead, hsource]), List.flatMap_cons, hall]
      · have hnone : paidIn sourceToken batch.recipients = [] := by
          rw [paidIn, List.filter_eq_nil_iff]
          intro recipient hmember
          simp [htoken recipient hmember, hsource]
        rw [if_neg (by simp [hfirst, hhead, hsource]), hnone, List.nil_append]

theorem approval_eq_funding (recipients : List ValidatedRecipient) (sourceToken : String)
    (feeBps : ℕ) :
    payrollSameTokenApprovalAmountWithFee recipients sourceToken feeBps =
      ((sameTokenBatches recipients sourceToken).map fun batch =>
        fundingOf feeBps batch.amounts).sum := by
  have hbatches : (sameTokenBatches recipients sourceToken).map (fun batch =>
      fundingOf feeBps batch.amounts) = (sameTokenBatches recipients sourceToken).map fun batch =>
        (batch.recipients.map fun recipient =>
          recipient.amountUnits + recipient.amountUnits * feeBps / 10000).sum := by
    apply List.map_congr_left
    intro batch _
    rw [fundingOf_eq_sum, PayrollBatch.amounts, List.map_map]
    rfl
  rw [hbatches, sum_batches, flatMap_sameTokenBatches]
  rfl

theorem validateRecipient_positive {runtime : Backend.Runtime} {payload item : Backend.Json}
    {sender : Option String} {i : ℕ} {recipient : ValidatedRecipient}
    (hkept : (validateRecipient runtime payload sender i item).2 = some recipient) :
    0 < recipient.amountUnits := by
  unfold validateRecipient at hkept
  rw [apply_ite Prod.snd, ite_eq_iff] at hkept
  rcases hkept with ⟨-, hnone⟩ | ⟨-, hsome⟩
  · cases hnone
  · obtain ⟨address, -, haccepted⟩ := Option.bind_eq_some_iff.mp hsome
    obtain ⟨⟨-, hpositive⟩, hsame⟩ := Option.ite_none_right_eq_some.mp haccepted
    simp only [positiveAmount, Bool.and_eq_true, decide_eq_true_eq] at hpositive
    cases hsame
    dsimp only
    exact hpositive.2

/-- The recipients that pass validation are paid something. -/
theorem validateRecipients_positive {runtime : Backend.Runtime} {payload : Backend.Json}
    {sender : Option String} {i : ℕ} {items : List Backend.Json} {recipient : ValidatedRecipient}
    (hmember : recipient ∈ (validateRecipients runtime payload sender i items).2) :
    0 < recipient.amountUnits := by
  induction items generalizing i with
  | nil => cases hmember
  | cons item rest ih =>
      simp only [validateRecipients, List.mem_append, Option.mem_toList] at hmember
      rcases hmember with hkept | hrest
      · exact validateRecipient_positive hkept
      · exact ih hrest

/-! ## The run of the batches -/

/-- A batch as the employer submits it. -/
structure Submission where
  recipients : List Address
  amounts : List ℕ
  referenceId : ByteArray
  timestamp : ℕ

section Run

variable {Hash : Type} [DecidableEq Hash] (c : Contract Hash Ledgers) (employer token : Address)

def Submission.msg (submission : Submission) : Msg := ⟨employer, 0, submission.timestamp⟩

def Submission.execute (submission : Submission) : PayrollCall Hash Ledgers ℕ :=
  executeSameTokenPayroll c (submission.msg employer) token submission.recipients
    submission.amounts submission.referenceId

def Submission.referenceHash (submission : Submission) : Hash :=
  canonicalReferenceHash c employer submission.referenceId

/-- What the batches still to be submitted pull. -/
def pending (submissions : List Submission) : ℕ :=
  (submissions.map fun submission => fundingOf c.feeBps submission.amounts).sum

/-- The submissions pass the checks of their arguments, and use a reference each. -/
structure Submittable (submissions : List Submission) : Prop where
  batch : ∀ submission ∈ submissions,
    AdmissibleBatch submission.recipients submission.amounts submission.referenceId
  payments : ∀ submission ∈ submissions,
    AdmissiblePayments c employer (submission.recipients.zip submission.amounts)
  references : (submissions.map fun submission => submission.referenceHash c employer).Nodup

/-- The contract runs, the employer holds what is still to be paid, and no reference of it is
consumed. -/
structure Solvent (submissions : List Submission) (state : State Hash Ledgers) : Prop where
  supplied : state.chain.Supplied token
  balance : pending c submissions ≤ state.chain.balance token employer
  fresh : ∀ submission ∈ submissions, state.storage (submission.referenceHash c employer) = false
  unpaused : state.paused = false
  unlocked : state.entered = false

/-- Whatever else happens meanwhile keeps the approval, takes nothing from the employer,
consumes none of the references and leaves the contract running. -/
structure Undisturbed (submissions : List Submission) (before after : State Hash Ledgers) :
    Prop where
  allowance : after.chain.allowance token employer c.self =
    before.chain.allowance token employer c.self
  balance : before.chain.balance token employer ≤ after.chain.balance token employer
  supplied : before.chain.Supplied token → after.chain.Supplied token
  references : ∀ submission ∈ submissions,
    after.storage (submission.referenceHash c employer) =
      before.storage (submission.referenceHash c employer)
  paused : after.paused = before.paused
  entered : after.entered = before.entered

/-- The submissions executed so far, with anything undisturbing between them. -/
inductive Settles (submissions : List Submission) (first : State Hash Ledgers) :
    List Submission → State Hash Ledgers → Prop where
  | start : Settles submissions first [] first
  | meanwhile {done : List Submission} {state next : State Hash Ledgers}
      (before : Settles submissions first done state)
      (undisturbed : Undisturbed c employer token submissions state next) :
      Settles submissions first done next
  | execute {done : List Submission} {state next : State Hash Ledgers} {submission : Submission}
      {total : ℕ} (before : Settles submissions first done state)
      (run : (submission.execute c employer token).run state = .ok (total, next)) :
      Settles submissions first (done ++ [submission]) next

variable {c employer token} {router : Router (Hash → Bool) (Event Hash)}

omit [DecidableEq Hash] in
/-- The next batch finds what it asks for. -/
theorem Solvent.executable (hsupported : token = c.USDC ∨ token = c.EURC) {submission : Submission}
    {rest : List Submission} {state : State Hash Ledgers}
    (hsubmittable : Submittable c employer (submission :: rest))
    (hfits : FeesFit c.feeBps submission.amounts)
    (h : Solvent c employer token (submission :: rest) state)
    (hallowance : state.chain.allowance token employer c.self = pending c (submission :: rest)) :
    Executable c (submission.msg employer) token submission.recipients submission.amounts
      submission.referenceId state where
  supported := hsupported
  value := rfl
  batch := hsubmittable.batch submission List.mem_cons_self
  payments := hsubmittable.payments submission List.mem_cons_self
  fees := hfits
  supplied := h.supplied
  balance := Nat.le_trans (Nat.le_add_right _ _) h.balance
  allowance := hallowance ▸ Nat.le_add_right _ _
  fresh := h.fresh submission List.mem_cons_self
  unpaused := h.unpaused
  unlocked := h.unlocked

omit [DecidableEq Hash] in
theorem Submittable.later {done rest : List Submission}
    (h : Submittable c employer (done ++ rest)) : Submittable c employer rest where
  batch := fun submission hmember => h.batch submission (List.mem_append_right _ hmember)
  payments := fun submission hmember => h.payments submission (List.mem_append_right _ hmember)
  references := by
    have hnodup := h.references
    rw [List.map_append] at hnodup
    exact hnodup.of_append_right

omit [DecidableEq Hash] in
theorem pending_append (first second : List Submission) :
    pending c (first ++ second) = pending c first + pending c second := by
  simp [pending]

/-- One batch takes its funding off the approval and leaves the others payable. -/
theorem Solvent.settle (hc : c.Standard router) (haccounts : Accounts c employer)
    {submission : Submission} {rest : List Submission} {state next : State Hash Ledgers} {total : ℕ}
    (hsubmittable : Submittable c employer (submission :: rest))
    (hlimited : pending c (submission :: rest) ≠ uint256Bound - 1)
    (hexecutable : Executable c (submission.msg employer) token submission.recipients
      submission.amounts submission.referenceId state)
    (h : Solvent c employer token (submission :: rest) state)
    (hallowance : state.chain.allowance token employer c.self = pending c (submission :: rest))
    (hrun : (submission.execute c employer token).run state = .ok (total, next)) :
    Solvent c employer token rest next ∧
      next.chain.allowance token employer c.self = pending c rest := by
  obtain ⟨-, -, -, hflow, -, -, -⟩ := executeSameTokenPayroll_flow hc hrun
  obtain ⟨events, chain, hexact, hleft⟩ := executeSameTokenPayroll_run hc haccounts hexecutable
  obtain ⟨-, rfl⟩ := Prod.mk.inj (Except.ok.inj (hrun.symm.trans hexact))
  have hpending : pending c (submission :: rest) =
      fundingOf c.feeBps submission.amounts + pending c rest := rfl
  have hfunding : submission.amounts.sum +
      (submission.amounts.map fun amount => feeOf c amount).sum =
        fundingOf c.feeBps submission.amounts := rfl
  rw [hfunding] at hflow
  refine ⟨?_, ?_⟩
  · refine {
      supplied := ?_
      balance := ?_
      fresh := fun other hmember => ?_
      unpaused := h.unpaused
      unlocked := h.unlocked }
    · -- the payroll brings to its accounts what it takes from the employer
      let accounts : Finset Address :=
        insert employer (insert c.feeRecipient submission.recipients.toFinset)
      have hmembers : ∀ payment ∈ submission.recipients.zip submission.amounts,
          payment.1 ∈ accounts := by
        intro payment hpayment
        have hrecipient := (List.of_mem_zip hpayment).1
        simp [accounts, hrecipient]
      have hlengths := (hsubmittable.batch submission List.mem_cons_self).lengths
      have hemployer : employer ∈ accounts := by simp [accounts]
      have hcollector : c.feeRecipient ∈ accounts := by simp [accounts]
      refine @Ledgers.TokenFlow.supplied _ _ _ _ _ accounts hflow h.supplied ?_ ?_
      · intro account haccount
        have howed :
            Ledger.owed (submission.recipients.zip submission.amounts) account = 0 := by
          apply Ledger.owed_of_not_mem
          rintro payment hpayment rfl
          exact haccount (hmembers payment hpayment)
        have hother : account ≠ c.feeRecipient := by
          rintro rfl
          exact haccount hcollector
        rw [Pi.add_apply, howed, Pi.single_eq_of_ne hother]
        rfl
      · have hsender : (submission.msg employer).sender = employer := rfl
        simp only [Pi.add_apply, Finset.sum_add_distrib, hsender]
        rw [sum_owed hmembers, Ledger.total_zip hlengths, Finset.sum_pi_single',
          Finset.sum_pi_single', if_pos hemployer, if_pos hcollector]
        exact le_rfl
    · have hbalance := h.balance
      have hemployer := hflow.flow.apply employer
      have hsender : (submission.msg employer).sender = employer := rfl
      rw [hsender, Pi.single_eq_same] at hemployer
      dsimp only at hemployer ⊢
      omega
    · have hdistinct := (List.nodup_cons.mp hsubmittable.references).1
      have hne : other.referenceHash c employer ≠ submission.referenceHash c employer :=
        fun heq => hdistinct (List.mem_map.mpr ⟨other, hmember, heq⟩)
      change Function.update state.storage (submission.referenceHash c employer) true
        (other.referenceHash c employer) = false
      rw [Function.update_of_ne hne]
      exact h.fresh other (List.mem_cons_of_mem _ hmember)
  · have hsame : (submission.msg employer).sender = employer := rfl
    rw [hsame, hallowance, Ledgers.leftOver, if_neg hlimited] at hleft
    dsimp only
    omega

/-- The approval covers what is still to be paid, at every moment of the run. -/
theorem settles_solvent (hc : c.Standard router) (haccounts : Accounts c employer)
    (hsupported : token = c.USDC ∨ token = c.EURC) {submissions : List Submission}
    (hsubmittable : Submittable c employer submissions)
    (hfits : ∀ submission ∈ submissions, FeesFit c.feeBps submission.amounts)
    (hlimited : pending c submissions ≠ uint256Bound - 1) {first : State Hash Ledgers}
    (hfirst : Solvent c employer token submissions first)
    (happroved : first.chain.allowance token employer c.self = pending c submissions)
    {done rest : List Submission} {state : State Hash Ledgers} (hsplit : submissions = done ++ rest)
    (hsettles : Settles c employer token submissions first done state) :
    Solvent c employer token rest state ∧
      state.chain.allowance token employer c.self = pending c rest := by
  induction hsettles generalizing rest with
  | start =>
      obtain rfl : submissions = rest := hsplit
      exact ⟨hfirst, happroved⟩
  | meanwhile before undisturbed ih =>
      obtain ⟨hsolvent, hallowance⟩ := ih hsplit
      refine ⟨{
        supplied := undisturbed.supplied hsolvent.supplied
        balance := Nat.le_trans hsolvent.balance undisturbed.balance
        fresh := fun submission hmember => ?_
        unpaused := undisturbed.paused.trans hsolvent.unpaused
        unlocked := undisturbed.entered.trans hsolvent.unlocked },
        undisturbed.allowance.trans hallowance⟩
      rw [undisturbed.references submission (hsplit ▸ List.mem_append_right _ hmember)]
      exact hsolvent.fresh submission hmember
  | @execute done state next submission total before run ih =>
      have hcons : submissions = done ++ submission :: rest := by
        rw [hsplit, List.append_assoc, List.singleton_append]
      obtain ⟨hsolvent, hallowance⟩ := ih hcons
      have hlater : Submittable c employer (submission :: rest) := (hcons ▸ hsubmittable).later
      have hmember : submission ∈ submissions := by simp [hcons]
      have hexecutable :=
        hsolvent.executable hsupported hlater (hfits submission hmember) hallowance
      apply hsolvent.settle hc haccounts hlater ?_ hexecutable hallowance run
      -- what is left is no more than the whole, and the whole is a `uint256`
      have hwhole := Nat.lt_of_le_of_lt hfirst.balance (hfirst.supplied.lt employer)
      have hpart : pending c submissions = pending c done + pending c (submission :: rest) := by
        rw [hcons, pending_append]
      omega

omit [DecidableEq Hash] in
/-- Submissions that carry the amounts of the same-token batches, in any order, pull the
approval. -/
theorem pending_eq_approval {recipients : List ValidatedRecipient} {sourceToken : String}
    {submissions : List Submission}
    (hperm : (submissions.map Submission.amounts).Perm
      ((sameTokenBatches recipients sourceToken).map PayrollBatch.amounts)) :
    pending c submissions =
      payrollSameTokenApprovalAmountWithFee recipients sourceToken c.feeBps := by
  have hsum := (hperm.map (fundingOf c.feeBps)).sum_nat
  rw [List.map_map, List.map_map] at hsum
  rw [approval_eq_funding]
  exact hsum

theorem sameTokenBatches_amounts {recipients : List ValidatedRecipient} {sourceToken : String}
    {batch : PayrollBatch} (hbatch : batch ∈ sameTokenBatches recipients sourceToken) {amount : ℕ}
    (hamount : amount ∈ batch.amounts) :
    ∃ recipient ∈ paidIn sourceToken recipients, recipient.amountUnits = amount := by
  obtain ⟨recipient, hrecipient, rfl⟩ := List.mem_map.mp hamount
  refine ⟨recipient, ?_, rfl⟩
  rw [← flatMap_sameTokenBatches]
  exact List.mem_flatMap.mpr ⟨batch, hbatch, hrecipient⟩

/-- The planned approval is what the contract pulls and what the browser adds up for the
same-token batches. Approved once, it covers every one of them in whatever order they are
submitted, and is used up by the last. -/
theorem approval_funds_batches (hc : c.Standard router) (haccounts : Accounts c employer)
    (hsupported : token = c.USDC ∨ token = c.EURC) {recipients : List ValidatedRecipient}
    (hvalidated : ∀ recipient ∈ recipients, 0 < recipient.amountUnits) (sourceToken : String) :
    let batches := sameTokenBatches recipients sourceToken
    let approval := payrollSameTokenApprovalAmountWithFee recipients sourceToken
    (∀ feeBps, approval feeBps = (batches.map fun batch => fundingOf feeBps batch.amounts).sum) ∧
    (∀ feeBps, batches.mapM (fun batch => sameTokenFunding feeBps batch.amounts 0) =
      .ok (batches.map fun batch => fundingOf feeBps batch.amounts)) ∧
    ∀ submissions first,
      (submissions.map Submission.amounts).Perm (batches.map PayrollBatch.amounts) →
      Submittable c employer submissions →
      Solvent c employer token submissions first →
      (∀ recipient ∈ paidIn sourceToken recipients,
        recipient.amountUnits * c.feeBps < uint256Bound) →
      first.chain.allowance token employer c.self = approval c.feeBps →
      approval c.feeBps ≠ uint256Bound - 1 →
      ∀ done rest state, submissions = done ++ rest →
        Settles c employer token submissions first done state →
          state.chain.allowance token employer c.self = pending c rest ∧
          ∀ submission later, rest = submission :: later →
            ∃ next inflow, (submission.execute c employer token).run state =
                .ok (submission.amounts.sum, next) ∧
              state.chain.TokenFlow token next.chain
                (Pi.single employer (fundingOf c.feeBps submission.amounts)) inflow := by
  intro batches approval
  refine ⟨approval_eq_funding recipients sourceToken, fun feeBps => ?_, ?_⟩
  · have hfunding : ∀ batch ∈ batches, sameTokenFunding feeBps batch.amounts 0 =
        .ok (fundingOf feeBps batch.amounts) := by
      intro batch hbatch
      rw [sameTokenFunding_eq, Nat.zero_add]
      intro amount hamount
      obtain ⟨recipient, hrecipient, rfl⟩ := sameTokenBatches_amounts hbatch hamount
      exact hvalidated recipient (List.mem_of_mem_filter hrecipient)
    clear_value batches
    induction batches with
    | nil => rfl
    | cons batch rest ih =>
        have hrest := ih fun other hmember => hfunding other (List.mem_cons_of_mem _ hmember)
        rw [List.mapM_cons, hfunding batch List.mem_cons_self, hrest]
        rfl
  · intro submissions first hperm hsubmittable hsolvent hfits happroved hlimited done rest state
      hsplit hsettles
    have hpending := pending_eq_approval (c := c) hperm
    have hfees : ∀ submission ∈ submissions, FeesFit c.feeBps submission.amounts := by
      intro submission hsubmission amount hamount
      obtain ⟨batch, hbatch, hsame⟩ :=
        List.mem_map.mp (hperm.subset (List.mem_map_of_mem hsubmission))
      obtain ⟨recipient, hrecipient, rfl⟩ := sameTokenBatches_amounts hbatch (hsame ▸ hamount)
      exact hfits recipient hrecipient
    obtain ⟨hstill, hallowance⟩ := settles_solvent hc haccounts hsupported hsubmittable hfees
      (hpending ▸ hlimited) hsolvent (happroved.trans hpending.symm) hsplit hsettles
    refine ⟨hallowance, ?_⟩
    rintro submission later rfl
    have hlater : Submittable c employer (submission :: later) := (hsplit ▸ hsubmittable).later
    have hmember : submission ∈ submissions := by simp [hsplit]
    have hexecutable :=
      hstill.executable hsupported hlater (hfees submission hmember) hallowance
    obtain ⟨events, chain, hrun, -⟩ := executeSameTokenPayroll_run hc haccounts hexecutable
    obtain ⟨-, -, -, hflow, -, -, -⟩ := executeSameTokenPayroll_flow hc hrun
    exact ⟨_, _, hrun, hflow⟩

end Run

/-! ## A run of one batch, and amounts too large for it -/

/-- A recipient of so many USDC units. -/
def examplePayee (amount : String) (amountUnits : ℕ) : ValidatedRecipient where
  address := "0x0000000000000000000000000000000000000014"
  amount
  amountUnits
  targetToken := "USDC"
  targetTokenAddress := "0x0000000000000000000000000000000000000001"

/-- The same contract without a fee. -/
def exampleFreeContract : Contract ExampleHash Ledgers where
  toImmutables := { exampleImmutables with feeBps := 0, feeBps_le := by decide }
  keccak := exampleKeccak
  ext := standardExternals exampleImmutables.self exampleImmutables.universalRouter
    fun _ _ => none

/-- Account 9 holds and has approved exactly these units. -/
def exampleApproved (units : ℕ) : State ExampleHash Ledgers where
  storage := fun _ => false
  paused := false
  entered := false
  events := []
  chain := {
    native := 0
    balance := fun _ => Pi.single 9 units
    allowance := fun _ _ _ => units
    permit2Allowance := fun _ _ _ => (0, 0) }

theorem exampleApproved_supplied {units : ℕ} (hunits : units < uint256Bound) (token : Address) :
    (exampleApproved units).chain.Supplied token := by
  intro accounts
  have hsum : ∑ account ∈ accounts, (exampleApproved units).chain.balance token account =
      if (9 : Address) ∈ accounts then units else 0 :=
    Finset.sum_pi_single' (9 : Address) units accounts
  rw [hsum]
  split
  · exact hunits
  · exact Nat.lt_of_le_of_lt (Nat.zero_le units) hunits

/-- The batch that pays account 20 so many units. -/
def exampleSubmission (amountUnits : ℕ) : Submission where
  recipients := [20]
  amounts := [amountUnits]
  referenceId := exampleReference
  timestamp := 0

theorem exampleSubmission_submittable (c : Contract ExampleHash Ledgers) (hself : c.self = 100)
    {amountUnits : ℕ} (hpositive : amountUnits ≠ 0) :
    Submittable c 9 [exampleSubmission amountUnits] where
  batch := by
    intro submission hmember
    obtain rfl := List.mem_singleton.mp hmember
    refine ⟨?_, rfl, ?_, ?_, ?_⟩
    · exact Nat.one_ne_zero
    · exact (by decide : 1 ≤ PayrollMainnet.MAX_BATCH_SIZE)
    · exact (by decide : exampleReference.size ≠ 0)
    · exact (by decide : exampleReference.size ≤ PayrollMainnet.MAX_REFERENCE_ID_LENGTH)
  payments := by
    intro submission hmember payment hpayment
    obtain rfl := List.mem_singleton.mp hmember
    obtain rfl := List.mem_singleton.mp hpayment
    refine ⟨⟨?_, ?_, ?_⟩, hpositive⟩
    · exact (by decide : (20 : Address) ≠ 0)
    · exact (by decide : (20 : Address) ≠ 9)
    · rw [hself]
      exact (by decide : (20 : Address) ≠ 100)
  references := List.nodup_singleton _

theorem exampleApproved_solvent (c : Contract ExampleHash Ledgers) {amountUnits units : ℕ}
    (hunits : units < uint256Bound) (hbalance : pending c [exampleSubmission amountUnits] ≤ units) :
    Solvent c 9 1 [exampleSubmission amountUnits] (exampleApproved units) where
  supplied := exampleApproved_supplied hunits 1
  balance := by
    have hheld : (exampleApproved units).chain.balance 1 9 = units :=
      @Pi.single_eq_same Address (fun _ => ℕ) _ _ 9 units
    rw [hheld]
    exact hbalance
  fresh := fun _ _ => rfl
  unpaused := rfl
  unlocked := rfl

/-- 1 000 units with their fee of 1% are approved, paid, and used up. -/
theorem approval_funds_batches_thousand :
    let submission := exampleSubmission 1000
    let c := exampleContract fun _ _ => none
    payrollSameTokenApprovalAmountWithFee [examplePayee "0.001" 1000] "USDC" c.feeBps = 1010 ∧
      ∃ next, (submission.execute c 9 1).run (exampleApproved 1010) = .ok (1000, next) ∧
        next.chain.allowance 1 9 c.self = 0 := by
  intro submission c
  refine ⟨by decide, ?_⟩
  have haccounts : Accounts c 9 := by constructor <;> decide
  obtain ⟨-, -, hrun⟩ := @approval_funds_batches ExampleHash _ c 9 1 (fun _ _ => none) rfl haccounts
    (.inl rfl) [examplePayee "0.001" 1000]
    (by intro recipient hmember; obtain rfl := List.mem_singleton.mp hmember; decide) "USDC"
  have hsettles := hrun [submission] (exampleApproved 1010) (by decide)
    (exampleSubmission_submittable c rfl (by decide))
    (exampleApproved_solvent c (by decide) (by decide))
    (by
      intro recipient hmember
      obtain rfl := List.mem_singleton.mp (List.mem_of_mem_filter hmember)
      decide)
    (by decide) (by decide)
  obtain ⟨-, hnext⟩ := hsettles [] [submission] _ rfl .start
  obtain ⟨next, -, hexecuted, -⟩ := hnext submission [] rfl
  obtain ⟨hallowance, -⟩ := hsettles [submission] [] next rfl (.execute .start hexecuted)
  exact ⟨next, hexecuted, hallowance⟩

/-- A text of zeros, for large amounts. -/
def zeros (count : ℕ) : String := String.ofList (List.replicate count '0')

/-- Two approvals that do not do. The fee product of 2e75 units does not fit a `uint256`, so
the contract refuses a batch its employer can fund; and an approval of every unit there can
be is unlimited, so it is still there after the batch. -/
theorem approval_of_huge_amounts :
    (payrollSameTokenApprovalAmountWithFee [examplePayee ("2" ++ zeros 69) (2 * 10 ^ 75)]
        "USDC" 100 = 202 * 10 ^ 73 ∧
      Submittable (exampleContract fun _ _ => none) 9 [exampleSubmission (2 * 10 ^ 75)] ∧
      Solvent (exampleContract fun _ _ => none) 9 1 [exampleSubmission (2 * 10 ^ 75)]
        (exampleApproved (202 * 10 ^ 73)) ∧
      ((exampleSubmission (2 * 10 ^ 75)).execute (exampleContract fun _ _ => none) 9 1).succeeds
        (exampleApproved (202 * 10 ^ 73)) = false) ∧
    (payrollSameTokenApprovalAmountWithFee [examplePayee
        "115792089237316195423570985008687907853269984665640564039457584007913129.639935"
        (2 ^ 256 - 1)] "USDC" exampleFreeContract.feeBps = 2 ^ 256 - 1 ∧
      ∃ next, ((exampleSubmission (2 ^ 256 - 1)).execute exampleFreeContract 9 1).run
          (exampleApproved (2 ^ 256 - 1)) = .ok (2 ^ 256 - 1, next) ∧
        next.chain.allowance 1 9 exampleFreeContract.self = 2 ^ 256 - 1) := by
  refine ⟨⟨by decide, ?_, ?_, by decide +kernel⟩, by decide, ?_⟩
  · exact exampleSubmission_submittable _ rfl (by decide)
  · exact exampleApproved_solvent _ (by decide) (by decide)
  · have haccounts : Accounts exampleFreeContract 9 := by constructor <;> decide
    have hsubmittable : Submittable exampleFreeContract 9 [exampleSubmission (2 ^ 256 - 1)] :=
      exampleSubmission_submittable exampleFreeContract rfl (by decide)
    have hsolvent : Solvent exampleFreeContract 9 1 [exampleSubmission (2 ^ 256 - 1)]
        (exampleApproved (2 ^ 256 - 1)) :=
      exampleApproved_solvent exampleFreeContract (by decide) (by decide)
    have hfits : FeesFit exampleFreeContract.feeBps [2 ^ 256 - 1] := by
      intro amount hmember
      obtain rfl := List.mem_singleton.mp hmember
      decide
    have hstandard : exampleFreeContract.Standard fun _ _ => none := rfl
    obtain ⟨events, chain, hrun, hleft⟩ := executeSameTokenPayroll_run hstandard haccounts
      (hsolvent.executable (.inl rfl) hsubmittable hfits (by decide))
    exact ⟨_, hrun, hleft⟩

end WizPay.Payroll
