import WizPay.Backend.NumberText
import WizPay.Intents.Soundness

/-!
# Direct transfers

The verifier of direct transfers compares what a node answers about a transaction with the
claim of an intent. An intent that is completed through it was paid by one successful token
transfer of exactly its amount, from its wallet to its recipient.
-/

namespace WizPay.Intents

open Foundation Backend ExecutionIntentStatus

/-! ## The node -/

structure TokenTransfer where
  source : Evm.Address
  target : Evm.Address
  value : ℕ
deriving DecidableEq

/-- A log, and the `Transfer` that `decodeEventLog` gives of it. -/
structure TransferLog where
  address : Evm.Address
  transfer : Option TokenTransfer

/-- A transaction, and the arguments of `transfer` that `decodeFunctionData` gives of its
calldata. -/
structure TransferTransaction where
  hash : String
  chainId : Option ℕ
  source : Evm.Address
  target : Option Evm.Address
  value : ℕ
  transfer : Option (Evm.Address × ℕ)

structure TransferReceipt where
  transactionHash : String
  succeeded : Bool
  blockNumber : ℕ
  logs : List TransferLog

/-- What the node answers during one verification; a call that fails answers nothing. -/
structure TransferNode where
  chainId : Option ℕ
  transaction : String → Option TransferTransaction
  receipt : String → Option TransferReceipt
  blockNumber : Option ℕ

/-- The configured network, and the confirmations it asks for. -/
structure TransferNetwork where
  key : String
  chainId : ℕ
  confirmationsRequired : ℕ
  confirmationsRequired_pos : 0 < confirmationsRequired

/-! ## The verifier -/

namespace DirectTransferReceiptVerifierService

def reject (message : String) : ServiceError :=
  .unprocessable "EXECUTION_INTENT_RECEIPT_MISMATCH" message

def receiptPending (message : String) : ServiceError :=
  .pending "EXECUTION_INTENT_RECEIPT_PENDING" message

def refuseIf (condition : Prop) [Decidable condition] (error : ServiceError) :
    Except ServiceError Unit :=
  if condition then .error error else .ok ()

/-- The parties of a claim, parsed. -/
structure TransferParties where
  sender : Evm.Address
  recipient : Evm.Address
  token : Evm.Address

/-- `getAddress` of each party; it throws on a text that is no address. -/
def parties (claim : DirectTransferClaim) : Except ServiceError TransferParties :=
  match addressOf claim.sender, addressOf claim.recipient, addressOf claim.token with
  | some sender, some recipient, some token => .ok ⟨sender, recipient, token⟩
  | _, _, _ => .error invalidAddress

variable (runtime : Runtime) (network : TransferNetwork)

/-- The logs of the token that report the intended transfer. -/
def matchingLogs (parties : TransferParties) (amount : ℕ) (logs : List TransferLog) :
    List TransferLog :=
  logs.filter fun log =>
    log.address = parties.token &&
      log.transfer = some ⟨parties.sender, parties.recipient, amount⟩

/-- Whatever the block of the receipt is, a node behind it confirms nothing. -/
def confirmations (receiptBlock currentBlock : ℕ) : ℕ :=
  if receiptBlock ≤ currentBlock then toDouble (currentBlock - receiptBlock + 1) else 0

/-- The checks on the transaction and its receipt. -/
def matchTransfer (claim : DirectTransferClaim) (transaction : TransferTransaction)
    (receipt : TransferReceipt) : Except ServiceError TransferParties := do
  refuseIf (runtime.toLowerCase transaction.hash ≠ runtime.toLowerCase claim.transactionHash ∨
      runtime.toLowerCase receipt.transactionHash ≠ runtime.toLowerCase claim.transactionHash)
    (reject "The returned transaction hash does not match the intent.")
  refuseIf (receipt.succeeded = false) (reject "The transaction receipt failed.")
  refuseIf (transaction.chainId ≠ some network.chainId)
    (reject "The transaction was submitted on the wrong Arc network.")
  refuseIf (transaction.value ≠ 0) (reject "The token transfer unexpectedly included native value.")
  let parties ← parties claim
  let amount := bigInt claim.amountUnits
  refuseIf (transaction.target ≠ some parties.token ∨ transaction.source ≠ parties.sender)
    (reject "Transaction target or sender does not match the intent.")
  refuseIf (transaction.transfer ≠ some (parties.recipient, amount))
    (reject "Transaction calldata does not match the intent.")
  refuseIf ((matchingLogs parties amount receipt.logs).length ≠ 1)
    (reject "Receipt does not contain one exact intended token transfer.")
  return parties

def verified (claim : DirectTransferClaim) (parties : TransferParties) :
    VerifiedExecutionReceipt where
  network := network.key
  transactionHash := claim.transactionHash
  sourceWallet := checksumAddress runtime (addressText parties.sender)
  token := checksumAddress runtime (addressText parties.token)
  recipient := some (checksumAddress runtime (addressText parties.recipient))
  batchDigest := none
  amountUnits := toString (bigInt claim.amountUnits)

/-- The three calls that are made first; the last two of them at once. -/
def readTransfer (node : TransferNode) (hash : String) :
    Except ServiceError (ℕ × TransferTransaction × TransferReceipt) :=
  match node.chainId, node.transaction hash, node.receipt hash with
  | some providerChainId, some transaction, some receipt =>
      .ok (providerChainId, transaction, receipt)
  | _, _, _ => .error (receiptPending "The selected Arc receipt is not available yet.")

def readBlockNumber (node : TransferNode) : Except ServiceError ℕ :=
  match node.blockNumber with
  | some currentBlock => .ok currentBlock
  | none => .error (receiptPending "The selected Arc confirmation state is not available yet.")

def verify (node : TransferNode) : DirectTransferVerifier := fun claim => do
  let (providerChainId, transaction, receipt) ← readTransfer node claim.transactionHash
  refuseIf (providerChainId ≠ network.chainId)
    (reject "Receipt provider is connected to the wrong Arc network.")
  let parties ← matchTransfer runtime network claim transaction receipt
  let currentBlock ← readBlockNumber node
  refuseIf (confirmations receipt.blockNumber currentBlock < network.confirmationsRequired)
    (receiptPending ("The selected Arc receipt needs " ++
      toString network.confirmationsRequired ++ " confirmations."))
  return verified runtime network claim parties

/-! ## What is accepted -/

variable {runtime network} {node : TransferNode} {claim : DirectTransferClaim}
  {transaction : TransferTransaction} {receipt : TransferReceipt}

/-- The transaction makes the transfer of the claim, and only once. -/
structure Pays (runtime : Runtime) (network : TransferNetwork) (claim : DirectTransferClaim)
    (transaction : TransferTransaction) (receipt : TransferReceipt) (parties : TransferParties) :
    Prop where
  hash : runtime.toLowerCase transaction.hash = runtime.toLowerCase claim.transactionHash
  receiptHash : runtime.toLowerCase receipt.transactionHash =
    runtime.toLowerCase claim.transactionHash
  succeeded : receipt.succeeded = true
  chainId : transaction.chainId = some network.chainId
  value : transaction.value = 0
  sender : addressOf claim.sender = some parties.sender
  recipient : addressOf claim.recipient = some parties.recipient
  token : addressOf claim.token = some parties.token
  target : transaction.target = some parties.token
  source : transaction.source = parties.sender
  call : transaction.transfer = some (parties.recipient, bigInt claim.amountUnits)
  logged : (matchingLogs parties (bigInt claim.amountUnits) receipt.logs).length = 1

@[simp] theorem refuseIf_ok {condition : Prop} [Decidable condition] {error : ServiceError}
    {value : Unit} : refuseIf condition error = .ok value ↔ ¬ condition := by
  unfold refuseIf
  split <;> simp_all

@[simp] theorem readTransfer_ok {hash : String} {providerChainId : ℕ} :
    readTransfer node hash = .ok (providerChainId, transaction, receipt) ↔
      node.chainId = some providerChainId ∧ node.transaction hash = some transaction ∧
        node.receipt hash = some receipt := by
  unfold readTransfer
  split
  · next hchain htransaction hreceipt => simp [hchain, htransaction, hreceipt]
  · next hmissing =>
      refine iff_of_false (fun hread => nomatch hread) fun ⟨hchain, htransaction, hreceipt⟩ => ?_
      exact hmissing _ _ _ hchain htransaction hreceipt

@[simp] theorem readBlockNumber_ok {currentBlock : ℕ} :
    readBlockNumber node = .ok currentBlock ↔ node.blockNumber = some currentBlock := by
  unfold readBlockNumber
  split
  · next hblock => simp [hblock]
  · next hblock => simp [hblock]

theorem parties_ok {found : TransferParties} :
    parties claim = .ok found ↔ addressOf claim.sender = some found.sender ∧
      addressOf claim.recipient = some found.recipient ∧
      addressOf claim.token = some found.token := by
  unfold parties
  cases hsender : addressOf claim.sender with
  | none => simp
  | some sender =>
      cases hrecipient : addressOf claim.recipient with
      | none => simp
      | some recipient =>
          cases htoken : addressOf claim.token with
          | none => simp
          | some token =>
              simp only [Except.ok.injEq, Option.some.injEq]
              constructor
              · intro hsame
                subst hsame
                exact ⟨rfl, rfl, rfl⟩
              · intro ⟨hfirst, hsecond, hthird⟩
                rw [hfirst, hsecond, hthird]

theorem matchTransfer_ok {found : TransferParties} :
    matchTransfer runtime network claim transaction receipt = .ok found ↔
      Pays runtime network claim transaction receipt found := by
  simp only [matchTransfer, except_bind_ok, refuseIf_ok, parties_ok, not_or, not_not,
    Bool.not_eq_false, exists_const, pure, Except.pure, Except.ok.injEq]
  constructor
  · intro ⟨⟨hhash, hreceipt⟩, hsucceeded, hchain, hvalue, parties, ⟨hsender, hrecipient, htoken⟩,
      ⟨htarget, hsource⟩, hcall, hlogged, hsame⟩
    subst hsame
    exact ⟨hhash, hreceipt, hsucceeded, hchain, hvalue, hsender, hrecipient, htoken, htarget,
      hsource, hcall, hlogged⟩
  · intro hpays
    exact ⟨⟨hpays.hash, hpays.receiptHash⟩, hpays.succeeded, hpays.chainId, hpays.value, found,
      ⟨hpays.sender, hpays.recipient, hpays.token⟩, ⟨hpays.target, hpays.source⟩, hpays.call,
      hpays.logged, rfl⟩

/-- What the node shows of an accepted claim. -/
structure Shows (runtime : Runtime) (network : TransferNetwork) (node : TransferNode)
    (claim : DirectTransferClaim) (parties : TransferParties) : Prop where
  chainId : node.chainId = some network.chainId
  paid : ∃ transaction receipt currentBlock,
    node.transaction claim.transactionHash = some transaction ∧
      node.receipt claim.transactionHash = some receipt ∧
      node.blockNumber = some currentBlock ∧
      Pays runtime network claim transaction receipt parties ∧
      network.confirmationsRequired ≤ confirmations receipt.blockNumber currentBlock

/-- A claim is accepted exactly if the node shows a confirmed transaction that makes its
transfer. -/
theorem verify_ok_iff {accepted : VerifiedExecutionReceipt} :
    verify runtime network node claim = .ok accepted ↔
      ∃ parties, Shows runtime network node claim parties ∧
        accepted = verified runtime network claim parties := by
  have hchecks : verify runtime network node claim = .ok accepted ↔
      ∃ providerChainId transaction receipt currentBlock parties,
        (node.chainId = some providerChainId ∧
          node.transaction claim.transactionHash = some transaction ∧
          node.receipt claim.transactionHash = some receipt) ∧
        providerChainId = network.chainId ∧ Pays runtime network claim transaction receipt parties ∧
        node.blockNumber = some currentBlock ∧
        network.confirmationsRequired ≤ confirmations receipt.blockNumber currentBlock ∧
        verified runtime network claim parties = accepted := by
    simp only [verify, except_bind_ok, Prod.exists, readTransfer_ok, refuseIf_ok, not_not,
      matchTransfer_ok, readBlockNumber_ok, Nat.not_lt, exists_const, pure, Except.pure,
      Except.ok.injEq]
    constructor
    · intro ⟨chain, transaction, receipt, hread, hchain, parties, hpays, block, hblock, hconfirmed,
        hsame⟩
      exact ⟨chain, transaction, receipt, block, parties, hread, hchain, hpays, hblock, hconfirmed,
        hsame⟩
    · intro ⟨chain, transaction, receipt, block, parties, hread, hchain, hpays, hblock, hconfirmed,
        hsame⟩
      exact ⟨chain, transaction, receipt, hread, hchain, parties, hpays, block, hblock, hconfirmed,
        hsame⟩
  rw [hchecks]
  constructor
  · intro ⟨chain, transaction, receipt, block, parties, ⟨hprovider, htransaction, hreceipt⟩, hchain,
      hpays, hblock, hconfirmed, hsame⟩
    refine ⟨parties, ⟨hprovider.trans (congrArg some hchain), ?_⟩, hsame.symm⟩
    exact ⟨transaction, receipt, block, htransaction, hreceipt, hblock, hpays, hconfirmed⟩
  · intro ⟨parties, hshows, haccepted⟩
    obtain ⟨transaction, receipt, block, htransaction, hreceipt, hblock, hpays, hconfirmed⟩ :=
      hshows.paid
    exact ⟨network.chainId, transaction, receipt, block, parties,
      ⟨hshows.chainId, htransaction, hreceipt⟩, rfl, hpays, hblock, hconfirmed, haccepted.symm⟩

end DirectTransferReceiptVerifierService

/-! ## Completed intents -/

namespace DirectTransferReceiptVerifierService

variable {runtime : Runtime} {network : TransferNetwork} {node : TransferNode}

theorem addressOf_sameAccount {text : String} {address : Evm.Address}
    (hsame : SameAccount text (checksumAddress runtime (addressText address))) :
    addressOf text = some address := by
  have haddress := addressOf_addressText address
  have htext : isHexText 40 (addressText address) = true := by
    rw [← addressOf_isSome, haddress]
    rfl
  rw [addressOf_eq_iff haddress hsame.first, hsame.lower]
  exact (checksumAddress_spec htext).2.symm

/-- A claim may be spelled in any way. -/
theorem Shows.respell {claim other : DirectTransferClaim} {parties : TransferParties}
    (hshows : Shows runtime network node claim parties)
    (hhash : other.transactionHash = claim.transactionHash)
    (hsender : addressOf other.sender = some parties.sender)
    (hrecipient : addressOf other.recipient = some parties.recipient)
    (htoken : addressOf other.token = some parties.token)
    (hamount : bigInt other.amountUnits = bigInt claim.amountUnits) :
    Shows runtime network node other parties := by
  obtain ⟨transaction, receipt, block, htransaction, hreceipt, hblock, hpays, hconfirmed⟩ :=
    hshows.paid
  refine ⟨hshows.chainId, transaction, receipt, block, ?_, ?_, hblock, ?_, hconfirmed⟩
  · rw [hhash, htransaction]
  · rw [hhash, hreceipt]
  · exact { hpays with
      hash := by rw [hhash, hpays.hash]
      receiptHash := by rw [hhash, hpays.receiptHash]
      sender := hsender
      recipient := hrecipient
      token := htoken
      call := by rw [hamount, hpays.call]
      logged := by rw [hamount, hpays.logged] }

end DirectTransferReceiptVerifierService

open DirectTransferReceiptVerifierService in
/-- The node showed a transaction that makes the transfer an intent asked for. -/
def PaidDirectly (runtime : Runtime) (network : TransferNetwork) (node : TransferNode)
    (intent : ExecutionIntent) : Prop :=
  intent.network = network.key ∧ ∃ hash recipient parties,
    intent.transactionHash = some (asciiLower hash) ∧ intent.recipient = some recipient ∧
      Shows runtime network node
        ⟨hash, intent.sourceWallet, recipient, intent.tokenOut, intent.amountUnits⟩ parties

open DirectTransferReceiptVerifierService in
theorem ReceiptAgrees.paidDirectly {runtime : Runtime} {network : TransferNetwork}
    {node : TransferNode} {intent : ExecutionIntent} {claim : DirectTransferClaim}
    {parties : TransferParties} (hshows : Shows runtime network node claim parties)
    (hagrees : ReceiptAgrees intent (verified runtime network claim parties)) :
    PaidDirectly runtime network node intent := by
  refine ⟨hagrees.network, claim.transactionHash, ?_⟩
  cases hrecipient : nonempty intent.recipient with
  | none =>
      -- a receipt of the verifier has no digest
      obtain ⟨digest, -, hdigest⟩ := hagrees.batchDigest hrecipient
      cases hdigest
  | some recipient =>
      obtain ⟨paid, hpaid, hsame⟩ := hagrees.recipient recipient hrecipient
      obtain rfl := Option.some.inj hpaid
      refine ⟨recipient, parties, hagrees.transactionHash, nonempty_eq_some hrecipient, ?_⟩
      refine hshows.respell rfl (addressOf_sameAccount hagrees.sourceWallet)
        (addressOf_sameAccount hsame) (addressOf_sameAccount hagrees.token) ?_
      rw [hagrees.amountUnits]
      exact bigInt_toString _

variable {runtime : Runtime} {routing : PaymentRouting} {network : TransferNetwork}

def exampleNetwork : TransferNetwork where
  key := "arc-mainnet"
  chainId := 5042
  confirmationsRequired := 1
  confirmationsRequired_pos := Nat.one_pos

/-- A node that shows one transaction, the transfer of `exampleSend`. -/
def exampleTransferNode : TransferNode where
  chainId := some 5042
  transaction := fun hash => some {
    hash, chainId := some 5042, value := 0
    source := 0x1111111111111111111111111111111111111111
    target := some 0x3600000000000000000000000000000000000000
    transfer := some (0x2222222222222222222222222222222222222222, 1000000) }
  receipt := fun hash => some {
    transactionHash := hash, succeeded := true, blockNumber := 7
    logs := [⟨0x3600000000000000000000000000000000000000, some
      ⟨0x1111111111111111111111111111111111111111, 0x2222222222222222222222222222222222222222,
        1000000⟩⟩] }
  blockNumber := some 7

/-- The payment of `exampleSend`, submitted and verified. -/
def exampleVerification : List IntentCall := [
  .postAcquire exampleSend,
  .postTransactionHash 2 "intent-1" (.object [
    ("idempotencyKey", .string "4c4fed01-cc08-5f3e-9415-22aaf27433af"),
    ("transactionHash",
      .string "0x3333333333333333333333333333333333333333333333333333333333333333")]),
  .postVerify (DirectTransferReceiptVerifierService.verify exampleRuntime exampleNetwork
    exampleTransferNode) "intent-1" (.object [
    ("idempotencyKey", .string "4c4fed01-cc08-5f3e-9415-22aaf27433af")])]

def verifiedInOrder : List (ℕ × Input) :=
  [0, 1, 1, 1, 1, 2, 2, 2, 2, 2, 2, 2, 2, 2].map fun thread => (thread, exampleAcquired)

end WizPay.Intents
