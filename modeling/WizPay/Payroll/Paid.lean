import WizPay.Intents.Underway
import WizPay.Payroll.Service

/-!
# A batch that was paid

The transaction of a submitted payroll intent is mined and pays its batch. Resubmissions of
the payroll verify it, with nodes that may know less than the whole truth, and complete the
intent or leave it for later; none declares it failed, unless a node has not even reached the
block of the receipt, or the database gives no answer inside of a verification.
-/

namespace WizPay.Payroll

open Foundation Backend Evm PayrollMainnet Intents ExecutionIntentStatus

section

variable {Hash Body Calldata : Type}

/-! ## The payment -/

/-- What is verified for the batch of an intent. -/
def receiptInput (intent : ExecutionIntent) (transactionHash batchDigest : String)
    (batch : PayrollBatch) : PayrollReceiptInput where
  transactionHash
  sourceWallet := intent.sourceWallet
  token := intent.tokenOut
  totalAmountUnits := intent.amountUnits
  expectedBatchDigest := batchDigest
  referenceId := intent.externalReference
  recipients := batch.recipients.map fun recipient =>
    ⟨recipient.address, toString recipient.amountUnits⟩

/-- A transaction and its receipt that pay a batch. -/
structure Pays [DecidableEq Hash] (runtime : Runtime) (network : PayrollNetwork Hash Body Calldata)
    (transaction : ChainTransaction Calldata) (receipt : ChainReceipt Body)
    (input : PayrollReceiptInput) (contract : String) (parties : PayrollParties)
    (verified : VerifiedCall) : Prop where
  deployed : nonempty network.wizpay = some contract
  wellFormed : wellFormedInput input = true
  parsed : parseParties contract input = some parties
  hex : isHexText 64 transaction.hash = true
  hash : asciiLower transaction.hash = input.transactionHash
  mined : transactionMatches runtime network input parties transaction receipt = true
  call : (network.decodeFunctionData transaction.input).bind
    (verifyMainnetCall network input parties transaction.value) = some verified
  total : toString verified.amounts.sum = input.totalAmountUnits
  lower : runtime.toLowerCase input.expectedBatchDigest = input.expectedBatchDigest
  digest : verifiedDigest runtime verified.tokenOut verified.recipients verified.amounts =
    .ok input.expectedBatchDigest
  events : verifyMainnetPayrollEvents network.keccak network.codec
    (payrollEventsInput network input parties verified) receipt.logs = true

variable {runtime : Runtime} {network : PayrollNetwork Hash Body Calldata}
  {transaction : ChainTransaction Calldata} {receipt : ChainReceipt Body}
  {input : PayrollReceiptInput} {contract : String} {parties : PayrollParties}
  {verified : VerifiedCall}

theorem sameAccount_checksummed {text : String} {address : Address}
    (haddress : addressOf text = some address) :
    SameAccount text (checksummed runtime address) := by
  have htext : isHexText 40 text = true := by
    rw [← addressOf_isSome, haddress]
    rfl
  have hcanonical : isHexText 40 (addressText address) = true := by
    rw [← addressOf_isSome, addressOf_addressText]
    rfl
  obtain ⟨hchecksum, hlower⟩ := checksumAddress_spec hcanonical
  refine ⟨htext, hchecksum, ?_⟩
  rw [checksummed, hlower]
  exact (addressOf_eq_iff haddress hcanonical).mp (addressOf_addressText address)

theorem parseParties_ok (hparties : parseParties contract input = some parties) :
    addressOf input.sourceWallet = some parties.sourceWallet ∧
      addressOf input.token = some parties.token := by
  simp only [parseParties, bind, Option.bind_eq_some_iff] at hparties
  obtain ⟨sourceWallet, hsource, token, htoken, self, -, recipients, -, hsame⟩ := hparties
  obtain rfl := Option.some.inj hsame
  exact ⟨hsource, htoken⟩

theorem verifyMainnetCall_token {value : ℕ} {call : MainnetCall}
    (hverified : verifyMainnetCall network input parties value call = some verified) :
    verified.tokenOut = parties.token := by
  have htoken : ∀ {token recipients amounts referenceId},
      callRecipientsMatch input parties token recipients amounts referenceId = true →
        token = parties.token := by
    intro token recipients amounts referenceId hmatch
    simp only [callRecipientsMatch, Bool.and_eq_true, decide_eq_true_eq] at hmatch
    exact hmatch.1.1.1
  cases call with
  | executeSameTokenPayroll token recipients amounts referenceId =>
      simp only [verifyMainnetCall, Option.ite_none_right_eq_some, Option.some.injEq] at hverified
      obtain ⟨⟨-, hmatch⟩, rfl⟩ := hverified
      exact htoken hmatch
  | executeCrossTokenPayroll tokenIn tokenOut recipients outputAmounts grossInput minTotalOut
      minHopPriceX36 deadline referenceId =>
      simp only [verifyMainnetCall, Option.ite_none_right_eq_some, Option.some.injEq] at hverified
      obtain ⟨⟨-, hmatch⟩, rfl⟩ := hverified
      exact htoken hmatch
  | other => cases hverified

/-- The evidence of a payment agrees with the intent it pays. -/
theorem Pays.agrees [DecidableEq Hash] {paid : ExecutionIntent} {hash batchDigest : String}
    {batch : PayrollBatch} (hpays : Pays runtime network transaction receipt
      (receiptInput paid hash batchDigest batch) contract parties verified)
    (hnetwork : paid.network = network.key) (hbound : paid.transactionHash = some hash)
    (hdigest : paid.batchDigest = some batchDigest) (hrecipient : nonempty paid.recipient = none)
    (blockNumber confirmations : ℕ) :
    ReceiptAgrees paid (evidence runtime network (receiptInput paid hash batchDigest batch)
      parties verified transaction.hash batchDigest blockNumber
      confirmations).toVerifiedExecutionReceipt := by
  obtain ⟨hsource, htoken⟩ := parseParties_ok hpays.parsed
  obtain ⟨call, -, hcall⟩ := Option.bind_eq_some_iff.mp hpays.call
  refine ⟨hnetwork, ?_, sameAccount_checksummed hsource, ?_, hpays.total.symm, ?_, ?_⟩
  · rw [hbound]
    exact congrArg some hpays.hash.symm
  · rw [← verifyMainnetCall_token hcall] at htoken
    exact sameAccount_checksummed htoken
  · intro recipient hsome
    rw [hrecipient] at hsome
    cases hsome
  · exact fun _ => ⟨batchDigest, hdigest, rfl⟩

/-! ## What nodes and the database say -/

/-- A payment of a batch for an intent. -/
structure Payment (Body Calldata : Type) where
  intent : ExecutionIntent
  transactionHash : String
  batchDigest : String
  transaction : ChainTransaction Calldata
  receipt : ChainReceipt Body

variable {routing : PaymentRouting} {payment : Payment Body Calldata}

/-- The intent is bound to the transaction of its payment. -/
structure Payment.Bound (payment : Payment Body Calldata) (routing : PaymentRouting)
    (network : PayrollNetwork Hash Body Calldata) : Prop where
  network : payment.intent.network = network.key
  selected : payment.intent.network = routing.network
  hash : payment.intent.transactionHash = some payment.transactionHash
  digest : payment.intent.batchDigest = some payment.batchDigest
  recipient : nonempty payment.intent.recipient = none

theorem Payment.Bound.ne_none (hbound : payment.Bound routing network) :
    payment.intent.transactionHash ≠ none := by
  rw [hbound.hash]
  exact Option.some_ne_none _

/-- The transaction pays the batch. -/
def Payment.PaysBatch [DecidableEq Hash] (payment : Payment Body Calldata) (runtime : Runtime)
    (network : PayrollNetwork Hash Body Calldata) (batch : PayrollBatch) : Prop :=
  ∃ contract parties verified, Pays runtime network payment.transaction payment.receipt
    (receiptInput payment.intent payment.transactionHash payment.batchDigest batch) contract
    parties verified

/-- Nodes say the truth about the payment, or nothing, and have reached its block; the
database answers the methods that verify it. -/
def Truthful (runtime : Runtime) (routing : PaymentRouting)
    (network : PayrollNetwork Hash Body Calldata) (payment : Payment Body Calldata)
    (op : PayrollOp) (input : PayrollInput Body Calldata) (state : PayrollState) : Prop :=
  match op with
  | .intents op => Begins runtime routing payment.intent op input.toInput state.database
  | .completing op => Completes runtime routing payment.intent op input.toInput state.database
  | .reportUnit taskId unitId report =>
      report.succeeded = true → report.txHash = some payment.intent.transactionHash →
        Except.isOk (writeThrough input.toInput state .database
          (state.reportUnit taskId unitId report)).1
  | .getChainId hash => hash = payment.transactionHash →
      ∀ chainId, input.chainIdAnswer = some chainId → chainId = network.chainId
  | .getTransaction hash => hash = payment.transactionHash →
      ∀ transaction, input.transactionAnswer = some transaction → transaction = payment.transaction
  | .getTransactionReceipt hash => hash = payment.transactionHash →
      ∀ receipt, input.receiptAnswer = some receipt → receipt = payment.receipt
  | .getBlockNumber hash _ => hash = payment.transactionHash →
      ∀ latestBlock, input.blockNumberAnswer = some latestBlock →
        payment.receipt.blockNumber ≤ latestBlock
  | _ => True

deriving instance DecidableEq for ChainTransaction
deriving instance DecidableEq for Log
deriving instance DecidableEq for ChainReceipt

instance decidableTruthful {Hash Body Calldata : Type} [DecidableEq Body] [DecidableEq Calldata]
    (runtime : Runtime) (routing : PaymentRouting) (network : PayrollNetwork Hash Body Calldata)
    (payment : Payment Body Calldata) : (op : PayrollOp) → (input : PayrollInput Body Calldata) →
      (state : PayrollState) → Decidable (Truthful runtime routing network payment op input state)
  | .intents op, input, state =>
      inferInstanceAs (Decidable (Begins _ _ _ op input.toInput state.database))
  | .completing op, input, state =>
      inferInstanceAs (Decidable (Completes _ _ _ op input.toInput state.database))
  | .reportUnit _ _ _, _, _ => inferInstanceAs (Decidable (_ → _ → (_ : Bool) = true))
  | .getChainId _, input, _ =>
      inferInstanceAs (Decidable (_ → ∀ chainId ∈ input.chainIdAnswer, chainId = network.chainId))
  | .getTransaction _, input, _ => inferInstanceAs
      (Decidable (_ → ∀ transaction ∈ input.transactionAnswer, transaction = payment.transaction))
  | .getTransactionReceipt _, input, _ =>
      inferInstanceAs (Decidable (_ → ∀ receipt ∈ input.receiptAnswer, receipt = payment.receipt))
  | .getBlockNumber _ _, input, _ => inferInstanceAs (Decidable (_ →
      ∀ latestBlock ∈ input.blockNumberAnswer, payment.receipt.blockNumber ≤ latestBlock))
  | .findTask _, _, _ => isTrue trivial
  | .findTaskOrThrow _, _, _ => isTrue trivial
  | .createPayrollTask _ _, _, _ => isTrue trivial
  | .setExecutionIntentStatus _ _, _, _ => isTrue trivial

/-- The intent moves only ahead, and no unit is reported failed for its transaction. -/
def SparesPayment (payment : Payment Body Calldata) (op : PayrollOp) (state : PayrollState) :
    Prop :=
  match op with
  | .intents op => Spares payment.intent op state.database
  | .completing op => Spares payment.intent op state.database
  | .reportUnit _ _ report =>
      report.succeeded = false → report.txHash ≠ some payment.intent.transactionHash
  | _ => True

/-- What the state of the database is to that of the intents. -/
abbrev SettlesPayment (payment : Payment Body Calldata) (before after : PayrollState) : Prop :=
  Settles payment.intent before.database after.database

theorem settlesPayment_isRely : IsRely (SettlesPayment payment) where
  trans := settles_isRely.trans
  refl_after := settles_isRely.refl_after

theorem writeThrough_database {ε β : Type} {input : Input} {state : PayrollState}
    {toError : DbError → ε} {outcome : Except ε β × PayrollState}
    (hsame : outcome.2.database = state.database) :
    (writeThrough input state toError outcome).2.database = state.database := by
  unfold writeThrough
  split
  · exact hsame
  · dsimp only
    split
    · exact hsame
    · rfl

theorem answer_settlesPayment {op : PayrollOp} {input : PayrollInput Body Calldata}
    {state : PayrollState} (hsettles : SettlesPayment payment state state)
    (hspares : SparesPayment payment op state) :
    SettlesPayment payment state ((payrollMachine runtime routing).answer op input state).2 := by
  have hkept : ∀ later : PayrollState, later.database = state.database →
      SettlesPayment payment state later := by
    intro later hsame
    unfold SettlesPayment
    rw [hsame]
    exact hsettles
  cases op with
  | intents op => exact answer_settles hsettles hspares
  | completing op => exact answer_settles hsettles hspares
  | createPayrollTask task units =>
      refine hkept _ (writeThrough_database ?_)
      unfold PayrollState.createPayrollTask
      dsimp only
      split <;> rfl
  | reportUnit taskId unitId report =>
      refine hkept _ (writeThrough_database ?_)
      unfold PayrollState.reportUnit
      split
      · rfl
      · split
        · rfl
        · dsimp only
          split <;> rfl
  | setExecutionIntentStatus unitId status =>
      refine hkept _ (writeThrough_database ?_)
      unfold PayrollState.setExecutionIntentStatus
      split <;> rfl
  | findTask | findTaskOrThrow | getChainId | getTransaction | getTransactionReceipt
  | getBlockNumber => exact hsettles

/-! ## Methods -/

open Service

/-- A method that moves the intent only ahead and reports no failure of its transaction. -/
abbrev Keeps (runtime : Runtime) (routing : PaymentRouting)
    (network : PayrollNetwork Hash Body Calldata) (payment : Payment Body Calldata) {α : Type}
    (post : Except ServiceError α → PayrollState → Prop) (service : PayrollService Body Calldata α)
    (state : PayrollState) : Prop :=
  Ends (payrollMachine runtime routing) (SettlesPayment payment)
    (Truthful runtime routing network payment) (fun op _ state => SparesPayment payment op state)
    post service state

variable {α : Type} {state : PayrollState} {status : ExecutionIntentStatus}

/-- The intent stays where it was, or moves ahead. -/
theorem Keeps.framed {post : Except ServiceError α → PayrollState → Prop}
    {service : PayrollService Body Calldata α}
    (hservice : Keeps runtime routing network payment post service state)
    (hreached : ∃ next ∈ status.ahead, Reached payment.intent next state.database) :
    Keeps runtime routing network payment
      (fun outcome later => post outcome later ∧
        ∃ next ∈ status.ahead, Reached payment.intent next later.database) service state := by
  refine Program.Expects.frame settlesPayment_isRely ?_ ?_ hservice hreached
  · rintro before later hlater ⟨next, hnext, hbefore⟩
    obtain ⟨last, hlast, hahead⟩ := hbefore.settles hlater
    exact ⟨last, ahead_trans hnext hahead, hlast⟩
  · exact fun _ _ _ hsettles _ hspares => answer_settlesPayment hsettles hspares

/-- A method of the intents keeps the promise it makes over their database. -/
theorem intents_ends {rely : Database → Database → Prop}
    {condition guar : IntentOp → Input → Database → Prop}
    {post : Except ServiceError α → Database → Prop} {service : IntentService α}
    (hrely : ∀ before after : Database, Settles payment.intent before after → rely before after)
    (hcondition : ∀ op input database,
      Begins runtime routing payment.intent op input database → condition op input database)
    (hguar : ∀ op input database, guar op input database → Spares payment.intent op database)
    (hservice : Ends (intentMachine runtime routing) rely condition guar post service
      state.database) :
    Keeps runtime routing network payment (fun outcome later => post outcome later.database)
      (intents service) state :=
  @Program.Expects.lift intentSignature Input Database _ (intentMachine runtime routing) rely
    condition guar post (payrollSignature Body Calldata) (PayrollInput Body Calldata) PayrollState
    (payrollMachine runtime routing) (SettlesPayment payment)
    (Truthful runtime routing network payment) (fun op _ state => SparesPayment payment op state)
    .intents (fun _ answer => answer) PayrollState.database PayrollInput.toInput
    (fun _ _ _ => rfl) (fun _ _ _ => rfl) (fun hlater => hrely _ _ hlater)
    (fun op choice state => hcondition op choice.toInput state.database)
    (fun op choice state => hguar op choice.toInput state.database) _ state hservice

theorem intents_keeps {post : Except ServiceError α → Database → Prop} {service : IntentService α}
    (hservice : Handles runtime routing payment.intent (Begins runtime routing payment.intent) post
      service state.database) :
    Keeps runtime routing network payment (fun outcome later => post outcome later.database)
      (intents service) state :=
  intents_ends (fun _ _ => id) (fun _ _ _ => id) (fun _ _ _ => id) hservice

theorem completing_keeps {post : Except ServiceError α → Database → Prop}
    {service : IntentService α}
    (hservice : Handles runtime routing payment.intent (Completes runtime routing payment.intent)
      post service state.database) :
    Keeps runtime routing network payment (fun outcome later => post outcome later.database)
      (completing service) state :=
  @Program.Expects.lift intentSignature Input Database _ (intentMachine runtime routing)
    (Settles payment.intent) (Completes runtime routing payment.intent)
    (fun op _ state => Spares payment.intent op state) post (payrollSignature Body Calldata)
    (PayrollInput Body Calldata) PayrollState (payrollMachine runtime routing)
    (SettlesPayment payment) (Truthful runtime routing network payment)
    (fun op _ state => SparesPayment payment op state) .completing (fun _ answer => answer)
    PayrollState.database PayrollInput.toInput (fun _ _ _ => rfl) (fun _ _ _ => rfl) id
    (fun _ _ _ => id) (fun _ _ _ => id) _ state hservice

/-- A method that returns or throws anything, from which the payment is still standing. -/
theorem Keeps.stands {post : Except ServiceError α → PayrollState → Prop}
    {service : PayrollService Body Calldata α}
    (hservice : Keeps runtime routing network payment post service state)
    (hstands : SettlesPayment payment state state) :
    Keeps runtime routing network payment
      (fun outcome later => post outcome later ∧ SettlesPayment payment later later) service
      state :=
  Program.Expects.frame settlesPayment_isRely
    (fun hlater _ => settlesPayment_isRely.refl_after hlater)
    (fun _ _ _ hsettles _ hspares => answer_settlesPayment hsettles hspares) hservice hstands

/-- Operations that declare nothing failed and report nothing. -/
def PayrollOp.quiet : PayrollOp → Prop
  | .intents op => MovesTo harmless op
  | .completing op => MovesTo harmless op
  | .reportUnit _ _ _ => False
  | _ => True

theorem quiet_keeps (hbound : payment.Bound routing network)
    {service : PayrollService Body Calldata α}
    (hservice : Service.Performs (S := payrollSignature Body Calldata) PayrollOp.quiet service)
    (state : PayrollState) :
    Keeps runtime routing network payment (fun _ _ => True) service state := by
  refine ends_of_performs ?_ hservice state
  intro op hquiet _ before later hlater
  obtain ⟨_, status, -, hreached, hahead⟩ := hlater.ahead
  have hspares : ∀ op, MovesTo harmless op → Spares payment.intent op later.database :=
    fun op hop => spares_of_movesTo hop hbound.ne_none hreached (ahead_self hahead)
  cases op with
  | intents op => exact hspares op hquiet
  | completing op => exact hspares op hquiet
  | reportUnit => exact hquiet.elim
  | findTask | findTaskOrThrow | createPayrollTask | setExecutionIntentStatus | getChainId
  | getTransaction | getTransactionReceipt | getBlockNumber => trivial

theorem intents_quiet {service : IntentService α} {targets : List ExecutionIntentStatus}
    (hservice : Service.Performs (MovesTo targets) service) (htargets : targets ⊆ harmless) :
    Service.Performs (S := payrollSignature Body Calldata) PayrollOp.quiet
      (intents service : PayrollService Body Calldata α) := by
  have hlift : ∀ program : Program intentSignature (Except ServiceError α),
      program.Performs (MovesTo targets) →
        (program.lift (T := payrollSignature Body Calldata) .intents
          (fun _ answer => answer)).Performs PayrollOp.quiet := by
    intro program hprogram
    induction program with
    | done value => trivial
    | perform op next ih =>
        refine ⟨fun status hstatus => htargets (hprogram.1 status hstatus), fun answer => ?_⟩
        exact ih _ (hprogram.2 answer)
  exact hlift _ hservice

/-! ## Verifying the payment -/

/-- An operation whose truthful answers all have a property. -/
theorem perform_keeps (op : PayrollOp) (post : op.Res Body Calldata → Prop)
    (hop : ∀ input state, Truthful runtime routing network payment op input state →
      SparesPayment payment op state ∧
        post ((payrollMachine runtime routing).answer op input state).1) :
    Keeps runtime routing network payment (fun outcome _ => ∃ answer, outcome = .ok answer ∧
      post answer) (perform (S := payrollSignature Body Calldata) op) state := by
  refine @ends_perform (payrollSignature Body Calldata) (PayrollInput Body Calldata) PayrollState
    _ _ _ _ _ op _ ?_
  intro later _ input htruthful
  obtain ⟨hspares, hpost⟩ := hop input later htruthful
  exact ⟨hspares, fun _ _ => ⟨_, rfl, hpost⟩⟩

/-- The evidence of the payment, or an error that leaves the question open. -/
def Verified (runtime : Runtime) (network : PayrollNetwork Hash Body Calldata)
    (payment : Payment Body Calldata) (input : PayrollReceiptInput) (parties : PayrollParties)
    (verified : VerifiedCall) (outcome : Except ServiceError VerifiedPayrollReceipt) : Prop :=
  (∃ blockNumber confirmations, outcome = .ok (evidence runtime network input parties verified
    payment.transaction.hash input.expectedBatchDigest blockNumber confirmations)) ∨
  ∃ error, outcome = .error error ∧ retryable error = true

section

variable [DecidableEq Hash]

theorem finishMainnetReceipt_keeps (hpays : Pays runtime network payment.transaction
      payment.receipt input contract parties verified)
    (hhash : input.transactionHash = payment.transactionHash) :
    Keeps runtime routing network payment
      (fun outcome _ => Verified runtime network payment input parties verified outcome)
      (finishMainnetReceipt runtime network input parties verified payment.transaction
        payment.receipt) state := by
  have hblock : Keeps runtime routing network payment
      (fun outcome _ => ∃ answer, outcome = .ok answer ∧ ∀ latestBlock, answer = some latestBlock →
        payment.receipt.blockNumber ≤ latestBlock)
      (getBlockNumber input.transactionHash payment.receipt.blockNumber) state :=
    perform_keeps (.getBlockNumber input.transactionHash payment.receipt.blockNumber)
      (fun answer : Option ℕ => ∀ latestBlock, answer = some latestBlock →
        payment.receipt.blockNumber ≤ latestBlock)
      fun _ _ htruthful => ⟨trivial, htruthful hhash⟩
  unfold finishMainnetReceipt
  refine ends_ofExcept_bind hpays.digest ?_
  refine ends_throwIf_bind ?_ ?_
  · rw [hpays.lower]
    exact not_or.mpr ⟨not_not.mpr hpays.total, not_not.mpr rfl⟩
  refine ends_bind_ok settlesPayment_isRely hblock fun answer later hreached => ?_
  cases answer with
  | none => exact ends_throw fun _ _ => .inr ⟨_, rfl, rfl⟩
  | some latestBlock =>
      refine ends_throwIf_bind (Nat.not_lt.mpr (hreached latestBlock rfl)) ?_
      refine ends_throwIf_or (fun _ _ _ => .inr ⟨_, rfl, rfl⟩) fun _ => ?_
      refine ends_throwIf_bind (by rw [hpays.events]; decide) ?_
      exact ends_pure fun _ _ => .inl ⟨_, _, rfl⟩

/-- A payment is verified, or the question is left open. -/
theorem verify_keeps (hpays : Pays runtime network payment.transaction payment.receipt input
      contract parties verified)
    (hhash : input.transactionHash = payment.transactionHash) :
    Keeps runtime routing network payment
      (fun outcome _ => Verified runtime network payment input parties verified outcome)
      (verify runtime network input) state := by
  have hchain : ∀ state, Keeps runtime routing network payment
      (fun outcome _ => ∃ answer, outcome = .ok answer ∧ ∀ chainId, answer = some chainId →
        chainId = network.chainId) (getChainId input.transactionHash) state :=
    fun state => perform_keeps (.getChainId input.transactionHash)
      (fun answer : Option ℕ => ∀ chainId, answer = some chainId → chainId = network.chainId)
      fun _ _ htruthful => ⟨trivial, htruthful hhash⟩
  have htransaction : ∀ state, Keeps runtime routing network payment
      (fun outcome _ => ∃ answer, outcome = .ok answer ∧ ∀ found, answer = some found →
        found = payment.transaction) (getTransaction input.transactionHash) state :=
    fun state => perform_keeps (.getTransaction input.transactionHash)
      (fun answer : Option (ChainTransaction Calldata) => ∀ found, answer = some found →
        found = payment.transaction)
      fun _ _ htruthful => ⟨trivial, htruthful hhash⟩
  have hreceipt : ∀ state, Keeps runtime routing network payment
      (fun outcome _ => ∃ answer, outcome = .ok answer ∧ ∀ found, answer = some found →
        found = payment.receipt) (getTransactionReceipt input.transactionHash) state :=
    fun state => perform_keeps (.getTransactionReceipt input.transactionHash)
      (fun answer : Option (ChainReceipt Body) => ∀ found, answer = some found →
        found = payment.receipt)
      fun _ _ htruthful => ⟨trivial, htruthful hhash⟩
  unfold verify
  rw [hpays.deployed]
  dsimp only
  refine ends_throwIf_bind (by rw [hpays.wellFormed]; decide) ?_
  rw [hpays.parsed]
  dsimp only
  refine ends_bind_ok settlesPayment_isRely (hchain state) fun chainId later hchainId => ?_
  cases chainId with
  | none => exact ends_throw fun _ _ => .inr ⟨_, rfl, rfl⟩
  | some chainId =>
      refine ends_throwIf_bind (not_not.mpr (hchainId chainId rfl)) ?_
      refine ends_bind_ok settlesPayment_isRely (htransaction later)
        fun transaction later hsent => ?_
      refine ends_bind_ok settlesPayment_isRely (hreceipt later) fun receipt later hmined => ?_
      cases transaction with
      | none => exact ends_throw fun _ _ => .inr ⟨_, rfl, rfl⟩
      | some transaction =>
          cases receipt with
          | none => exact ends_throw fun _ _ => .inr ⟨_, rfl, rfl⟩
          | some receipt =>
              obtain rfl := hsent transaction rfl
              obtain rfl := hmined receipt rfl
              refine ends_throwIf_bind (by rw [hpays.mined]; decide) ?_
              rw [hpays.call]
              exact finishMainnetReceipt_keeps hpays hhash

theorem verify_quiet (runtime : Runtime) (network : PayrollNetwork Hash Body Calldata)
    (input : PayrollReceiptInput) :
    Service.Performs (S := payrollSignature Body Calldata) PayrollOp.quiet
      (verify runtime network input) := by
  have hask : ∀ op : PayrollOp, op.quiet → Service.Performs
      (S := payrollSignature Body Calldata) PayrollOp.quiet
      (perform (S := payrollSignature Body Calldata) op) := fun op hop => performs_perform hop
  have hfinish : ∀ parties verified transaction receipt, Service.Performs
      (S := payrollSignature Body Calldata) PayrollOp.quiet
      (finishMainnetReceipt runtime network input parties verified transaction receipt) := by
    intro parties verified transaction receipt
    refine performs_bind (performs_ofExcept _) fun digest => ?_
    refine performs_bind (performs_throwIf _) fun _ => ?_
    refine performs_bind (hask (.getBlockNumber input.transactionHash receipt.blockNumber) trivial)
      fun latestBlock => ?_
    split
    · exact performs_throw _
    · refine performs_bind (performs_throwIf _) fun _ => ?_
      refine performs_bind (performs_throwIf _) fun _ => ?_
      exact performs_bind (performs_throwIf _) fun _ => performs_pure _
  unfold verify
  split
  · exact performs_throw _
  · refine performs_bind (performs_throwIf _) fun _ => ?_
    split
    · exact performs_throw _
    · refine performs_bind (hask (.getChainId input.transactionHash) trivial) fun chainId => ?_
      split
      · exact performs_throw _
      · refine performs_bind (performs_throwIf _) fun _ => ?_
        refine performs_bind (hask (.getTransaction input.transactionHash) trivial)
          fun transaction => ?_
        refine performs_bind (hask (.getTransactionReceipt input.transactionHash) trivial)
          fun receipt => ?_
        split
        · refine performs_bind (performs_throwIf _) fun _ => ?_
          split
          · exact performs_throw _
          · exact hfinish _ _ _ _
        · exact performs_throw _

end

end

end WizPay.Payroll
