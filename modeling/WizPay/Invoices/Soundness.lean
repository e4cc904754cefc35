import WizPay.Invoices.Settlement

/-!
# Runs over created invoices

Along every run of concurrent calls the invoices stay in their lifecycle, and a
paid one was paid once, by a completed intent made for it. The first holds
whatever a verifier answers, the second for the verifier that asks the node.
-/

namespace WizPay.Invoices

open Foundation Backend Intents

variable {runtime : Runtime} {routing : PaymentRouting} {accepts : Acceptance}

/-! ## Runs -/

/-- Invoices as they were created, next to any intents. -/
structure CreatedInvoices where
  intents : List ExecutionIntent
  invoices : List InvoiceRow
  uniqueIntents : UniqueIntents intents
  uniqueIds : invoices.Pairwise fun first second =>
    first.id ≠ second.id ∧ first.publicId ≠ second.publicId
  areOpen : ∀ row ∈ invoices, row.status = .OPEN

def CreatedInvoices.state (created : CreatedInvoices) : InvoiceState :=
  ⟨created.intents, created.invoices, []⟩

theorem CreatedInvoices.follows (created : CreatedInvoices) :
    Follows accepts created.state created.state := by
  refine follows_refl ⟨created.uniqueIds, List.Pairwise.nil, ?_, ?_, ?_⟩ created.uniqueIntents
  · intro row hrow
    refine iff_of_false ?_ ?_
    · rintro ⟨payment, hpayment, -⟩
      cases hpayment
    · rw [created.areOpen row hrow]
      simp
  · intro row hrow hpaid
    rw [created.areOpen row hrow] at hpaid
    cases hpaid
  · intro row _ payment hpayment
    cases hpayment

/-- Along a run of concurrent calls the invoices stay consistent, and every moment
follows the earlier ones. -/
theorem run_follows (routing : PaymentRouting) {verifier : Verifier}
    (hverifier : verifier.Accepts runtime accepts) (calls : List InvoiceCall)
    (created : CreatedInvoices) (choices rest : List (ℕ × InvoiceInput)) :
    Follows accepts
      ((invoicePool runtime routing verifier calls created.state).run
        (invoiceMachine runtime routing) choices).state
      ((invoicePool runtime routing verifier calls created.state).run
        (invoiceMachine runtime routing) (choices ++ rest)).state := by
  have hmeets : (invoicePool runtime routing verifier calls created.state).Meets
      (invoiceMachine runtime routing) (Follows accepts) (SettlesBacked accepts) := by
    intro program hprogram
    obtain ⟨call, -, rfl⟩ := List.mem_map.mp hprogram
    exact (call.meets hverifier created.state).mono fun _ _ _ => trivial
  obtain ⟨hfirst, hmeets, -⟩ := hmeets.run follows_isRely answer_follows created.follows choices
  rw [Pool.run_append]
  exact (hmeets.run follows_isRely answer_follows (follows_isRely.refl_after hfirst) rest).1

/-! ## The lifecycle -/

/-- An invoice has a payment as long as it is verified or paid, and is paid when
that payment is verified. -/
structure InLifecycle (state : InvoiceState) : Prop where
  submitted : ∀ row ∈ state.invoices, (∃ payment ∈ state.payments, payment.invoiceId = row.id) ↔
    row.status = .VERIFYING ∨ row.status = .PAID
  paid : ∀ row ∈ state.invoices, row.status = .PAID ↔
    ∃ payment ∈ state.payments, payment.invoiceId = row.id ∧ payment.status = .VERIFIED

/-- What later moments keep: closed invoices, verified payments, and a submitted
payment keeps its invoice from being cancelled or expired. -/
structure Keeps (before after : InvoiceState) : Prop where
  invoices : ∀ row ∈ before.invoices, (∃ next ∈ after.invoices, next.id = row.id) ∧
    ∀ next ∈ after.invoices, next.id = row.id → row.status ∈ [.PAID, .EXPIRED, .CANCELLED] →
      next.status = row.status
  payments : ∀ payment ∈ before.payments,
    (∃ next ∈ after.payments, next.invoiceId = payment.invoiceId) ∧
    ∀ next ∈ after.payments, next.invoiceId = payment.invoiceId → payment.status = .VERIFIED →
      next.status = .VERIFIED
  submitted : ∀ payment ∈ before.payments, ∀ next ∈ after.invoices, next.id = payment.invoiceId →
    next.status ≠ .CANCELLED ∧ next.status ≠ .EXPIRED

theorem Consistent.inLifecycle {state : InvoiceState} (hconsistent : Consistent accepts state) :
    InLifecycle state := by
  refine ⟨hconsistent.submitted, fun row hrow => ⟨fun hpaid => ?_, ?_⟩⟩
  · obtain ⟨payment, hpayment, hof, hverified, -⟩ := hconsistent.paid row hrow hpaid
    exact ⟨payment, hpayment, hof, hverified⟩
  · rintro ⟨payment, hpayment, hof, hverified⟩
    exact hconsistent.verified row hrow payment hpayment hof hverified

theorem Follows.keeps {before after : InvoiceState} (hfollows : Follows accepts before after) :
    Keeps before after := by
  have hconsistent := hfollows.consistent
  refine ⟨fun row hrow => ?_, fun payment hpayment => ?_, fun payment hpayment next hnext hid => ?_⟩
  · obtain ⟨kept, hkept, hevolves⟩ := hfollows.invoices row hrow
    refine ⟨⟨kept, hkept, hevolves.id⟩, fun next hnext hid hclosed => ?_⟩
    rw [row_unique hconsistent hnext hkept (.inl (hid.trans hevolves.id.symm))]
    exact hevolves.closed (decide_eq_true hclosed)
  · obtain ⟨kept, hkept, hevolves⟩ := hfollows.payments payment hpayment
    refine ⟨⟨kept, hkept, hevolves.invoiceId⟩, fun next hnext hid hverified => ?_⟩
    rw [payment_unique hconsistent hnext hkept (.inl (hid.trans hevolves.invoiceId.symm)),
      hevolves.verified hverified, hverified]
  · obtain ⟨kept, hkept, hevolves⟩ := hfollows.payments payment hpayment
    have hstatus := (hconsistent.submitted next hnext).mp
      ⟨kept, hkept, hevolves.invoiceId.trans hid.symm⟩
    rcases hstatus with hstatus | hstatus <;> rw [hstatus] <;> exact ⟨nofun, nofun⟩

/-- In every run of concurrent calls over created invoices, whatever the verifier
answers, every moment is in the lifecycle and kept by all later ones. -/
theorem invoice_lifecycle (runtime : Runtime) (routing : PaymentRouting) (verifier : Verifier)
    (calls : List InvoiceCall) (created : CreatedInvoices) (choices rest : List (ℕ × InvoiceInput)) :
    let pool := invoicePool runtime routing verifier calls created.state
    InLifecycle (pool.run (invoiceMachine runtime routing) choices).state ∧
      Keeps (pool.run (invoiceMachine runtime routing) choices).state
        (pool.run (invoiceMachine runtime routing) (choices ++ rest)).state := by
  intro pool
  have hverifier : verifier.Accepts runtime fun _ _ _ => True := by
    intro input stored submittedHash _ _
    exact Program.Returns.of_forall (fun _ _ _ _ _ => trivial) _
  have hstart := run_follows routing hverifier calls created [] choices
  exact ⟨hstart.consistent.inLifecycle, (run_follows routing hverifier calls created choices rest).keeps⟩

/-! ## One settlement -/

/-- What the verifier accepts: a payment by another account than the merchant's,
with the hash in lower case. -/
def acceptsExternal : Acceptance := fun merchant transactionHash payer =>
  asciiLower transactionHash = transactionHash ∧ ¬ SameAccount payer merchant

theorem verify_accepts (hlower : runtime.LowerCases) (confirmationsRequired : ℕ) :
    Verifier.Accepts runtime acceptsExternal (verify runtime routing confirmationsRequired) := by
  intro input stored submittedHash hstored hhash
  refine (verify_external confirmationsRequired input).mono fun outcome hexternal => ?_
  intro verdict hverdict verified hverified
  refine ⟨by rw [hhash, hlower], fun hsame => ?_⟩
  have hmerchant := getAddress_spec hstored
  exact hexternal verdict hverdict verified hverified
    ⟨hsame.first, hmerchant.1, hsame.lower.trans hmerchant.2.symm⟩

/-- A payment of the invoice by another account, which a completed intent for this
invoice made. -/
structure SettledBy (state : InvoiceState) (row : InvoiceRow) (payment : InvoicePayment)
    (payer : String) : Prop where
  payerAddress : payment.payerAddress = some payer
  external : ¬ SameAccount payer row.merchantWalletAddress
  completed : ∃ intent ∈ state.intents, intent.transactionHash = some payment.transactionHash ∧
    Settles intent row payment.transactionHash payer

/-- A transaction hash is the payment of one invoice, now and later, and the payment
of a paid invoice is that of a completed intent. -/
structure SettledOnce (state later : InvoiceState) : Prop where
  hashes : ∀ first ∈ state.payments, ∀ second ∈ later.payments,
    first.transactionHash = second.transactionHash → first.invoiceId = second.invoiceId
  paid : ∀ row ∈ state.invoices, row.status = .PAID →
    (∃ payment ∈ state.payments, payment.invoiceId = row.id) ∧
    ∀ payment ∈ state.payments, payment.invoiceId = row.id →
      ∃ payer, SettledBy state row payment payer

/-- In every run of concurrent calls over created invoices a transaction hash is
the payment of one invoice for good, and the payment of a paid invoice is that of
a completed intent for it, made by another account than the merchant's. -/
theorem one_transaction_settles_one_invoice (runtime : Runtime) (routing : PaymentRouting)
    (hlower : runtime.LowerCases) (confirmationsRequired : ℕ) (calls : List InvoiceCall)
    (created : CreatedInvoices) (choices rest : List (ℕ × InvoiceInput)) :
    let pool := invoicePool runtime routing (verify runtime routing confirmationsRequired) calls
      created.state
    SettledOnce (pool.run (invoiceMachine runtime routing) choices).state
      (pool.run (invoiceMachine runtime routing) (choices ++ rest)).state := by
  intro pool
  have hverifier : Verifier.Accepts runtime acceptsExternal
    (verify runtime routing confirmationsRequired) := verify_accepts hlower confirmationsRequired
  have hlater := run_follows routing hverifier calls created choices rest
  have hconsistent := (run_follows routing hverifier calls created [] choices).consistent
  constructor
  · intro first hfirst second hsecond hhash
    obtain ⟨kept, hkept, hevolves⟩ := hlater.payments first hfirst
    rw [← hevolves.invoiceId, payment_unique hlater.consistent hkept hsecond
      (.inr (hevolves.transactionHash.trans hhash))]
  · intro row hrow hpaid
    obtain ⟨payment, hpayment, hof, hverified, payer, hpayer, hbacked⟩ :=
      hconsistent.paid row hrow hpaid
    refine ⟨⟨payment, hpayment, hof⟩, fun other hother hothers => ⟨payer, ?_⟩⟩
    rw [payment_unique hconsistent hother hpayment (.inl (hothers.trans hof.symm))]
    obtain ⟨intent, hintent, hsettles⟩ := hbacked.completed
    refine ⟨hpayer, hbacked.accepted.2, intent, hintent, ?_, hsettles⟩
    rw [hsettles.transactionHash, hbacked.accepted.1]

/-- None of the texts of the example needs a digest. -/
def plainRuntime : Runtime := .ofTable [] []

/-- One open invoice, and the submitted intent of a payer for it. -/
def exampleInvoices : CreatedInvoices where
  intents := [{
    id := "intent-1"
    network := "arc-mainnet"
    operation := .INVOICE_SETTLEMENT
    ownerId := none
    walletId := none
    sourceWallet := "0x1111111111111111111111111111111111111111"
    recipient := some "0x2222222222222222222222222222222222222222"
    batchDigest := none
    tokenIn := "0x3600000000000000000000000000000000000000"
    tokenOut := "0x3600000000000000000000000000000000000000"
    amountUnits := "1000000"
    externalReference := "AAAAAAAAAAAAAAAAAAAAAA"
    logicalKey := "logical-1"
    requestFingerprint := "fingerprint-1"
    idempotencyKey := "key-1"
    route := .DIRECT_TRANSFER
    provider := none
    contractAddress := none
    calldataHash := none
    status := .SUBMITTED
    circleChallengeId := none
    circleTransactionId := none
    transactionHash := some "0x3333333333333333333333333333333333333333333333333333333333333333"
    taskId := none
    leaseOwner := none
    leaseExpiresAt := none
    attemptCount := 0
    failureCode := none
    completedAt := none }]
  invoices := [{
    publicId := "AAAAAAAAAAAAAAAAAAAAAA"
    status := .OPEN
    expiresAt := none
    chainId := 5042
    merchantWalletAddress := "0x2222222222222222222222222222222222222222"
    tokenAddress := "0x3600000000000000000000000000000000000000"
    amountUnits := "1000000"
    settlementKind := .INVOICE
    id := "invoice-1"
    merchantUserId := "merchant-1"
    tokenSymbol := "USDC"
    tokenDecimals := 6
    title := "One"
    description := none
    invoiceNumber := none
    paidAt := none
    cancelledAt := none }]
  uniqueIntents := List.pairwise_singleton _ _
  uniqueIds := List.pairwise_singleton _ _
  areOpen := by simp

/-- The node reports the transfer of the payer in a block with two confirmations. -/
def exampleTransfer : InvoiceInput where
  now := 1000
  freshId := "fresh"
  outage := none
  applied := true
  chainIdAnswer := .ok 5042
  transactionAnswer := .ok (some ⟨5042, 0⟩)
  receiptAnswer := .ok (some {
    succeeded := true
    blockNumber := 10
    logs := [{
      address := 0x3600000000000000000000000000000000000000#160
      topic := some TRANSFER_TOPIC
      transfer := some {
        source := 0x1111111111111111111111111111111111111111#160
        target := 0x2222222222222222222222222222222222222222#160
        amount := 1000000 } }] })
  blockNumberAnswer := .ok 11

def exampleVerification : List InvoiceCall := [.verifyPublicPayment "AAAAAAAAAAAAAAAAAAAAAA"
  "0x3333333333333333333333333333333333333333333333333333333333333333"]

def exampleSteps : List (ℕ × InvoiceInput) := List.replicate 25 (0, exampleTransfer)

theorem one_transaction_settles_one_invoice_paid :
    let pool := invoicePool plainRuntime arcMainnet (verify plainRuntime arcMainnet 2)
      exampleVerification exampleInvoices.state
    (pool.run (invoiceMachine plainRuntime arcMainnet) exampleSteps).state.invoices.map
        (fun row => row.status) = [.PAID] ∧
      SettledOnce (pool.run (invoiceMachine plainRuntime arcMainnet) exampleSteps).state
        (pool.run (invoiceMachine plainRuntime arcMainnet) (exampleSteps ++ [])).state := by
  refine ⟨?_, one_transaction_settles_one_invoice plainRuntime arcMainnet
    (Runtime.ofTable_lowerCases _ _) 2 exampleVerification exampleInvoices exampleSteps []⟩
  decide +kernel

end WizPay.Invoices
