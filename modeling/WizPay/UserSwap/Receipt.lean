import WizPay.SwapExecutor.Logs
import WizPay.UserSwap.Protocol

/-!
# The receipt of a swap

`verifySwapReceipt` scans the logs of a transaction for the executor's event and for the
transfers of the input and of the output. What one log adds to the scan depends on the log
alone, so the scan of a receipt is a sum over its logs.
-/

namespace WizPay.UserSwap

open Foundation Backend Evm SwapExecutor

def ARC_NATIVE_USDC_TRANSFER_EMITTER : String := "0xfffffffffffffffffffffffffffffffffffffffe"

def transferTopic : String :=
  "0xddf252ad1be2c89b69c2b068fc378daa952ba7f163c4a11628f55a4df523b3ef"

/-! ## Receipts -/

structure ReceiptLog where
  address : String
  topics : List String
  data : String

inductive ReceiptStatus where
  | success
  | reverted
  | numbered (value : ℤ)
deriving DecidableEq

structure Receipt where
  chainId : ℤ
  status : ReceiptStatus
  sender : String
  target : String
  input : String
  value : String
  logs : List ReceiptLog

/-- What the receipt should show. Its addresses are texts that `isAddressEqual` takes. -/
structure ExpectedSwap where
  walletAddress : String
  recipient : String
  tokenIn : String
  tokenOut : String
  amountIn : ℕ
  minAmountOut : ℕ
  transactionData : String
  transactionValue : ℕ
  wallet_isHexText : isHexText 40 walletAddress = true
  recipient_isHexText : isHexText 40 recipient = true
  tokenIn_isHexText : isHexText 40 tokenIn = true
  tokenOut_isHexText : isHexText 40 tokenOut = true

/-- What `decodeEventLog` gives of the executor's event. -/
structure DecodedSwap where
  caller : String
  tokenIn : String
  tokenOut : String
  amountIn : ℕ
  amountOut : ℕ

/-- `decodeEventLog` for the executor's event, by topics and data; it throws on all other
logs. -/
abbrev DecodeSwap : Type := List String → String → Option DecodedSwap

structure VerifiedSwap where
  amountOut : ℕ
  tokenInSpent : ℕ
deriving DecidableEq

def invalidReceipt (message : String) : ProtocolError := .protocol "INVALID_RECEIPT" message

/-- `first && second`, where both may throw. -/
def bothHold (first second : Except ProtocolError Bool) : Except ProtocolError Bool := do
  if ← first then second else return false

/-! ## The scan -/

structure Scan where
  tokenInSpent : ℕ
  amountOut : ℕ
  nativeInputTransferred : ℕ
  executorEvents : ℕ
  eventAmountOut : ℕ
deriving DecidableEq

def Scan.start : Scan := ⟨0, 0, 0, 0, 0⟩

section Code

variable (runtime : Runtime) (decode : DecodeSwap) (expected : ExpectedSwap)

def requireAddress (value label : String) : Except ProtocolError String := do
  if isAddress runtime value = false then
    throw (invalidReceipt (label ++ " must be a non-zero address."))
  if ← sameAddress value "0x0000000000000000000000000000000000000000" then
    throw (invalidReceipt (label ++ " must be a non-zero address."))
  match getAddress runtime value with
  | some address => return address
  | none => throw .invalidAddress

/-- The test of a decoded event. -/
def eventMatches (args : DecodedSwap) : Except ProtocolError Bool :=
  bothHold (sameAddress args.caller expected.walletAddress) <|
  bothHold (sameAddress args.tokenIn expected.tokenIn) <|
  bothHold (sameAddress args.tokenOut expected.tokenOut)
    (return args.amountIn = expected.amountIn ∧ expected.minAmountOut ≤ args.amountOut)

/-- The event of a log of the executor; `none` is the `continue` of the `catch`. -/
def scanEvent (log : ReceiptLog) (scan : Scan) : Option Scan :=
  match decode log.topics log.data with
  | none => none
  | some args =>
      match eventMatches expected args with
      | .error _ => none
      | .ok true => some { scan with
          executorEvents := scan.executorEvents + 1, eventAmountOut := args.amountOut }
      | .ok false => some scan

/-- `0x${topic.slice(-40)}` of a topic of 32 bytes. -/
def topicAddress (topic : String) : String := String.ofList ('0' :: 'x' :: topic.toList.drop 26)

/-- `BigInt` of a text of the shape `/^0x[0-9a-fA-F]{1,64}$/`. -/
def hexAmount (data : String) : Option ℕ :=
  match data.toList with
  | '0' :: 'x' :: digits =>
      if 1 ≤ digits.length ∧ digits.length ≤ 64 ∧ digits.all isHexDigit = true then
        some (hexNat digits)
      else none
  | _ => none

/-- The source, the target and the amount of a `Transfer`, as its log spells them. -/
def transferParts (log : ReceiptLog) : Option (String × String × ℕ) :=
  match log.topics with
  | topic :: source :: target :: _ =>
      if runtime.toLowerCase topic = transferTopic ∧ isHexText 64 source = true ∧
          isHexText 64 target = true then
        (hexAmount log.data).map fun value => (topicAddress source, topicAddress target, value)
      else none
  | _ => none

/-- What a transfer adds to the scan, by the account that reports it. -/
def scanTransfer (address : String) (parts : String × String × ℕ) (scan : Scan) :
    Except ProtocolError Scan := do
  let (transferFrom, transferTo, value) := parts
  let spends ← bothHold (sameAddress address expected.tokenIn) <|
    bothHold (sameAddress transferFrom expected.walletAddress)
      (sameAddress transferTo WIZPAY_SWAP_EXECUTOR_MAINNET_ADDRESS)
  let sends ← bothHold (sameAddress address ARC_NATIVE_USDC_TRANSFER_EMITTER) <|
    bothHold (sameAddress transferFrom expected.walletAddress)
      (sameAddress transferTo WIZPAY_SWAP_EXECUTOR_MAINNET_ADDRESS)
  let delivers ← bothHold (sameAddress address expected.tokenOut)
    (sameAddress transferTo expected.recipient)
  return { scan with
    tokenInSpent := if spends then scan.tokenInSpent + value else scan.tokenInSpent
    nativeInputTransferred :=
      if sends then scan.nativeInputTransferred + value else scan.nativeInputTransferred
    amountOut := if delivers then scan.amountOut + value else scan.amountOut }

/-- One turn of the loop. -/
def scanLog (scan : Scan) (log : ReceiptLog) : Except ProtocolError Scan := do
  if isAddress runtime log.address = false then return scan
  match getAddress runtime log.address with
  | none => throw .invalidAddress
  | some address =>
      let isExecutor ← sameAddress address WIZPAY_SWAP_EXECUTOR_MAINNET_ADDRESS
      match if isExecutor then scanEvent decode expected log scan else some scan with
      | none => return scan
      | some scan =>
          match transferParts runtime log with
          | none => return scan
          | some parts => scanTransfer expected address parts scan

def scanLogs (logs : List ReceiptLog) (scan : Scan) : Except ProtocolError Scan :=
  logs.foldlM (scanLog runtime decode expected) scan

/-- The value of a transaction, as `/^\\d+$/` and `BigInt` read it. -/
def valueMatches (value : String) : Bool :=
  value.toList.all isDigit && value.toList ≠ [] && bigInt value = expected.transactionValue

def verifySwapReceipt (receipt : Receipt) : Except ProtocolError VerifiedSwap := do
  if (← sameAddress expected.walletAddress expected.recipient) = false then
    throw (invalidReceipt "Expected recipient must equal the initiating external wallet.")
  if receipt.chainId ≠ 5042 then
    throw (invalidReceipt "Receipt chain ID must be Arc Mainnet (5042).")
  if receipt.status ≠ .success ∧ receipt.status ≠ .numbered 1 then
    throw (invalidReceipt "Swap receipt did not succeed.")
  let sender ← requireAddress runtime receipt.sender "receipt.from"
  let target ← requireAddress runtime receipt.target "receipt.to"
  if (← sameAddress sender expected.walletAddress) = false then
    throw (invalidReceipt "Receipt sender must be the user-controlled wallet.")
  if (← sameAddress target WIZPAY_SWAP_EXECUTOR_MAINNET_ADDRESS) = false then
    throw (invalidReceipt "Receipt target must be WizPaySwapExecutorMainnet.")
  if runtime.toLowerCase receipt.input ≠ runtime.toLowerCase expected.transactionData ∨
      valueMatches expected receipt.value = false then
    throw (invalidReceipt
      "Receipt transaction data or native value does not match the prepared swap.")
  let scan ← scanLogs runtime decode expected receipt.logs .start
  let paysUsdc ← sameAddress expected.tokenIn ARC_MAINNET_UNISWAP_V4_USDC
  let tokenInSpent := if paysUsdc then expected.amountIn else scan.tokenInSpent
  if scan.executorEvents ≠ 1 ∨ scan.eventAmountOut < expected.minAmountOut then
    throw (invalidReceipt "Swap Executor event evidence does not match the expected swap.")
  if paysUsdc = false ∧ tokenInSpent ≠ expected.amountIn then
    throw (invalidReceipt "Actual input spent does not match the quoted amountIn.")
  if paysUsdc = true ∧ scan.nativeInputTransferred ≠ expected.transactionValue then
    throw (invalidReceipt "Native USDC transfer does not match the transaction value.")
  if scan.amountOut < expected.minAmountOut then
    throw (invalidReceipt "Actual output is below the slippage-protected minimum.")
  return { amountOut := scan.eventAmountOut, tokenInSpent }

end Code

/-! ## What one log adds -/

def executorAddress : Address := 0x7A051F17B237750EF9D4E63fb75381B9F8755774
def nativeEmitter : Address := 0xfffffffffffffffffffffffffffffffffffffffe
def usdcAddress : Address := 0x3600000000000000000000000000000000000000
def eurcAddress : Address := 0xbEf5f6d51CB62b58e6A8f77868681825C6fe21c1

theorem addressOf_constants :
    addressOf WIZPAY_SWAP_EXECUTOR_MAINNET_ADDRESS = some executorAddress ∧
      addressOf ARC_NATIVE_USDC_TRANSFER_EMITTER = some nativeEmitter ∧
      addressOf ARC_MAINNET_UNISWAP_V4_USDC = some usdcAddress ∧
      addressOf ARC_MAINNET_UNISWAP_V4_EURC = some eurcAddress := by
  decide +kernel

/-- Two texts are compared by the addresses they stand for. -/
theorem sameAddress_addressOf {first second : String} {address address' : Address}
    (hfirst : addressOf first = some address) (hsecond : addressOf second = some address') :
    sameAddress first second = .ok (decide (address = address')) := by
  have hfirstText : isHexText 40 first = true := by
    rw [← addressOf_isSome, hfirst]
    rfl
  have hsecondText : isHexText 40 second = true := by
    rw [← addressOf_isSome, hsecond]
    rfl
  rw [sameAddress_eq hfirstText hsecondText]
  have hiff : address' = address ↔ asciiLower first = asciiLower second := by
    rw [← addressOf_eq_iff hfirst hsecondText, hsecond, Option.some.injEq]
  simp only [← hiff, eq_comm]

theorem bothHold_ok (first second : Bool) : bothHold (.ok first) (.ok second) = .ok (first && second) := by
  cases first
  · rfl
  · rfl

namespace ExpectedSwap

variable (expected : ExpectedSwap)

/-- The addresses that the texts stand for. -/
def wallet : Address := (addressOf expected.walletAddress).getD 0

def payee : Address := (addressOf expected.recipient).getD 0

def input : Address := (addressOf expected.tokenIn).getD 0

def output : Address := (addressOf expected.tokenOut).getD 0

theorem addressOf_wallet : addressOf expected.walletAddress = some expected.wallet :=
  addressOf_getD expected.wallet_isHexText

theorem addressOf_payee : addressOf expected.recipient = some expected.payee :=
  addressOf_getD expected.recipient_isHexText

theorem addressOf_input : addressOf expected.tokenIn = some expected.input :=
  addressOf_getD expected.tokenIn_isHexText

theorem addressOf_output : addressOf expected.tokenOut = some expected.output :=
  addressOf_getD expected.tokenOut_isHexText

end ExpectedSwap

section Reading

variable (runtime : Runtime) (decode : DecodeSwap) (expected : ExpectedSwap)

/-- The account of a log, if its text passes for an address. -/
def emitterOf (log : ReceiptLog) : Option Address :=
  if isAddress runtime log.address then addressOf log.address else none

/-- The output that a log reports if it decodes to a matching event. -/
def matchedOutput (log : ReceiptLog) : Option ℕ :=
  (decode log.topics log.data).bind fun args =>
    match eventMatches expected args with
    | .ok true => some args.amountOut
    | _ => none

/-- The output that a matching event of the executor reports. -/
def eventOutput (log : ReceiptLog) : Option ℕ :=
  if emitterOf runtime log = some executorAddress then matchedOutput decode expected log else none

/-- Whether the `catch` passes over a log of the executor. -/
def IsUndecoded (log : ReceiptLog) : Prop :=
  emitterOf runtime log = some executorAddress ∧ scanEvent decode expected log .start = none

instance (log : ReceiptLog) : Decidable (IsUndecoded runtime decode expected log) := by
  unfold IsUndecoded
  infer_instance

/-- The transfer that a log reports. -/
def transferOf (log : ReceiptLog) : Option Movement :=
  if IsUndecoded runtime decode expected log then none
  else do
    let emitter ← emitterOf runtime log
    let (transferFrom, transferTo, value) ← transferParts runtime log
    let source ← addressOf transferFrom
    let target ← addressOf transferTo
    return ⟨emitter, source, target, value⟩

/-- The scan after it has seen matching events and transfers. -/
def Scan.add (events : List ℕ) (transfers : List Movement) (scan : Scan) : Scan where
  tokenInSpent :=
    scan.tokenInSpent + moved expected.input expected.wallet executorAddress transfers
  amountOut := scan.amountOut + Evm.received expected.output expected.payee transfers
  nativeInputTransferred :=
    scan.nativeInputTransferred + moved nativeEmitter expected.wallet executorAddress transfers
  executorEvents := scan.executorEvents + events.length
  eventAmountOut := events.getLast?.getD scan.eventAmountOut

end Reading

section Scanning

variable {runtime : Runtime} {decode : DecodeSwap} {expected : ExpectedSwap}

theorem Scan.add_append (events events' : List ℕ) (transfers transfers' : List Movement)
    (scan : Scan) :
    (scan.add expected events transfers).add expected events' transfers' =
      scan.add expected (events ++ events') (transfers ++ transfers') := by
  simp only [Scan.add, moved_append, received_append, List.length_append, List.getLast?_append,
    Nat.add_assoc, Scan.mk.injEq, true_and]
  cases events'.getLast? with
  | none => rfl
  | some last => rfl

theorem filterMap_cons_toList {α β : Type} (f : α → Option β) (first : α) (rest : List α) :
    (first :: rest).filterMap f = (f first).toList ++ rest.filterMap f := by
  rw [List.filterMap_cons]
  cases f first with
  | none => rfl
  | some value => rfl

/-- The last forty digits of a topic are an address. -/
theorem topicAddress_isHexText {topic : String} (htopic : isHexText 64 topic = true) :
    isHexText 40 (topicAddress topic) = true := by
  obtain ⟨digits, rfl, hlength, hdigits⟩ := isHexText_iff.mp htopic
  refine isHexText_iff.mpr ⟨digits.drop 24, ?_, ?_, ?_⟩
  · rw [topicAddress, String.toList_ofList]
    rfl
  · rw [List.length_drop, hlength]
  · intro c hmem
    exact hdigits c (List.mem_of_mem_drop hmem)

/-- A transfer is added to the sums it belongs to. -/
theorem scanTransfer_eq {address transferFrom transferTo : String} {emitter source target : Address}
    (hemitter : addressOf address = some emitter) (hsource : addressOf transferFrom = some source)
    (htarget : addressOf transferTo = some target) (value : ℕ) (scan : Scan) :
    scanTransfer expected address (transferFrom, transferTo, value) scan =
      .ok (scan.add expected [] [⟨emitter, source, target, value⟩]) := by
  obtain ⟨hexecutor, hnative, -, -⟩ := addressOf_constants
  simp only [scanTransfer, sameAddress_addressOf hemitter expected.addressOf_input,
    sameAddress_addressOf hsource expected.addressOf_wallet,
    sameAddress_addressOf htarget hexecutor, sameAddress_addressOf hemitter hnative,
    sameAddress_addressOf hemitter expected.addressOf_output,
    sameAddress_addressOf htarget expected.addressOf_payee, bothHold_ok]
  refine congrArg Except.ok ?_
  simp only [Scan.add, moved_singleton, received_singleton, Bool.and_eq_true, decide_eq_true_eq,
    List.length_nil, Nat.add_zero, List.getLast?_nil, Option.getD_none, Scan.mk.injEq, and_true]
  refine ⟨?_, ?_, ?_⟩
  · split
    · rfl
    · rfl
  · split
    · rfl
    · rfl
  · split
    · rfl
    · rfl

theorem transferParts_addressOf {log : ReceiptLog} {transferFrom transferTo : String} {value : ℕ}
    (hparts : transferParts runtime log = some (transferFrom, transferTo, value)) :
    ∃ source target, addressOf transferFrom = some source ∧ addressOf transferTo = some target := by
  unfold transferParts at hparts
  split at hparts
  · next topic source target _ _ =>
      split at hparts
      · next hshape =>
          obtain ⟨_, -, hsame⟩ := Option.map_eq_some_iff.mp hparts
          cases hsame
          exact ⟨_, _, addressOf_getD (topicAddress_isHexText hshape.2.1),
            addressOf_getD (topicAddress_isHexText hshape.2.2)⟩
      · cases hparts
  · cases hparts

/-- What the event of a log adds does not depend on the scan. -/
theorem scanEvent_eq (log : ReceiptLog) (scan : Scan) :
    scanEvent decode expected log scan =
      (scanEvent decode expected log .start).map fun _ =>
        scan.add expected (matchedOutput decode expected log).toList [] := by
  unfold scanEvent matchedOutput
  cases hdecode : decode log.topics log.data with
  | none => rfl
  | some args =>
      simp only [Option.bind_some]
      cases hmatches : eventMatches expected args with
      | error => rfl
      | ok holds =>
          cases holds with
          | false => rfl
          | true => rfl

theorem matchedOutput_of_undecoded {log : ReceiptLog}
    (hundecoded : scanEvent decode expected log .start = none) :
    matchedOutput decode expected log = none := by
  unfold scanEvent at hundecoded
  unfold matchedOutput
  cases hdecode : decode log.topics log.data with
  | none => rfl
  | some args =>
      rw [hdecode] at hundecoded
      cases hmatches : eventMatches expected args with
      | error => simp [hmatches]
      | ok holds =>
          cases holds with
          | false => simp [hmatches]
          | true => simp [hmatches] at hundecoded

theorem Scan.add_nil (scan : Scan) : scan.add expected [] [] = scan := rfl

/-- The transfer of a log that is read to its end. -/
theorem scanTransfers_eq {log : ReceiptLog} {address : String} {emitter : Address}
    (hemitter : addressOf address = some emitter) (hread : emitterOf runtime log = some emitter)
    (hdecoded : ¬ IsUndecoded runtime decode expected log) (scan : Scan) :
    (match transferParts runtime log with
      | none => return scan
      | some parts => scanTransfer expected address parts scan) =
      .ok (scan.add expected [] (transferOf runtime decode expected log).toList) := by
  unfold transferOf
  rw [if_neg hdecoded, hread]
  cases hparts : transferParts runtime log with
  | none => rfl
  | some parts =>
      obtain ⟨transferFrom, transferTo, value⟩ := parts
      obtain ⟨source, target, hsource, htarget⟩ := transferParts_addressOf hparts
      simp only [Option.bind_eq_bind, Option.bind_some, hsource, htarget]
      exact scanTransfer_eq hemitter hsource htarget value scan

/-- One turn of the loop adds what the log reports. -/
theorem scanLog_eq (log : ReceiptLog) (scan : Scan) :
    scanLog runtime decode expected scan log =
      .ok (scan.add expected (eventOutput runtime decode expected log).toList
        (transferOf runtime decode expected log).toList) := by
  unfold scanLog
  cases hvalid : isAddress runtime log.address with
  | false =>
      have hnone : emitterOf runtime log = none := by
        rw [emitterOf, hvalid]
        rfl
      have hevent : eventOutput runtime decode expected log = none := by
        rw [eventOutput, hnone]
        exact if_neg (Option.some_ne_none _).symm
      have htransfer : transferOf runtime decode expected log = none := by
        unfold transferOf
        rw [if_neg fun h => absurd (hnone.symm.trans h.1) (Option.some_ne_none _).symm, hnone]
        rfl
      rw [hevent, htransfer]
      rfl
  | true =>
      have htext := isHexText_of_isAddress hvalid
      obtain ⟨address, haddress⟩ : ∃ address, getAddress runtime log.address = some address :=
        ⟨_, getAddress_eq_some.mpr ⟨htext, rfl⟩⟩
      obtain ⟨emitter, hlog⟩ : ∃ emitter, addressOf log.address = some emitter :=
        ⟨_, addressOf_getD htext⟩
      have hemitter : addressOf address = some emitter := by
        rw [addressOf_getAddress haddress, hlog]
      have hread : emitterOf runtime log = some emitter := by
        rw [emitterOf, hvalid]
        exact hlog
      rw [haddress]
      simp only [reduceCtorEq, if_false, sameAddress_addressOf hemitter addressOf_constants.1]
      by_cases hexecutor : emitter = executorAddress
      · subst hexecutor
        have hevent : eventOutput runtime decode expected log = matchedOutput decode expected log :=
          if_pos hread
        rw [hevent]
        change (match scanEvent decode expected log scan with
          | none => return scan
          | some scan => _) = _
        rw [scanEvent_eq]
        cases hdecoded : scanEvent decode expected log .start with
        | none =>
            have htransfer : transferOf runtime decode expected log = none :=
              if_pos ⟨hread, hdecoded⟩
            rw [matchedOutput_of_undecoded hdecoded, htransfer]
            rfl
        | some _ =>
            have hnot : ¬ IsUndecoded runtime decode expected log := by
              intro hundecoded
              rw [hundecoded.2] at hdecoded
              cases hdecoded
            refine (scanTransfers_eq hemitter hread hnot _).trans ?_
            rw [Scan.add_append, List.append_nil, List.nil_append]
      · have hevent : eventOutput runtime decode expected log = none := by
          rw [eventOutput, hread]
          exact if_neg fun hsame => hexecutor (Option.some.inj hsame)
        have hnot : ¬ IsUndecoded runtime decode expected log := by
          intro hundecoded
          exact hexecutor (Option.some.inj (hread.symm.trans hundecoded.1))
        rw [hevent, decide_eq_false hexecutor]
        exact scanTransfers_eq hemitter hread hnot scan

/-- The scan of a receipt adds up what its logs report. -/
theorem scanLogs_eq (logs : List ReceiptLog) (scan : Scan) :
    scanLogs runtime decode expected logs scan =
      .ok (scan.add expected (logs.filterMap (eventOutput runtime decode expected))
        (logs.filterMap (transferOf runtime decode expected))) := by
  induction logs generalizing scan with
  | nil => rfl
  | cons log rest ih =>
      have hstep : scanLogs runtime decode expected (log :: rest) scan =
          scanLog runtime decode expected scan log >>= scanLogs runtime decode expected rest :=
        List.foldlM_cons
      rw [hstep, scanLog_eq]
      refine (ih _).trans ?_
      rw [Scan.add_append, filterMap_cons_toList, filterMap_cons_toList]

/-! ## What is accepted -/

variable (runtime decode expected) in
/-- What the logs of an accepted receipt show: one matching event, the input that left the
wallet for the executor, and enough of the output. -/
structure SwapEvidence (logs : List ReceiptLog) (result : VerifiedSwap) : Prop where
  event : logs.filterMap (eventOutput runtime decode expected) = [result.amountOut]
  sufficient : expected.minAmountOut ≤ result.amountOut
  input : moved (if expected.input = usdcAddress then nativeEmitter else expected.input)
      expected.wallet executorAddress (logs.filterMap (transferOf runtime decode expected)) =
    if expected.input = usdcAddress then expected.transactionValue else expected.amountIn
  delivered : expected.minAmountOut ≤ Evm.received expected.output expected.payee
    (logs.filterMap (transferOf runtime decode expected))
  spent : result.tokenInSpent = expected.amountIn

variable (runtime expected) in
/-- What a receipt shows of the transaction itself. -/
structure ReceiptMatches (receipt : Receipt) : Prop where
  payee : expected.wallet = expected.payee
  chainId : receipt.chainId = 5042
  status : receipt.status = .success ∨ receipt.status = .numbered 1
  sender : ∃ sender, requireAddress runtime receipt.sender "receipt.from" = .ok sender ∧
    sameAddress sender expected.walletAddress = .ok true
  target : ∃ target, requireAddress runtime receipt.target "receipt.to" = .ok target ∧
    sameAddress target WIZPAY_SWAP_EXECUTOR_MAINNET_ADDRESS = .ok true
  input : runtime.toLowerCase receipt.input = runtime.toLowerCase expected.transactionData
  value : valueMatches expected receipt.value = true

/-- A check and what follows it. -/
theorem check_ok {ε α : Type} {condition : Prop} [Decidable condition] {error : ε}
    {rest : Unit → Except ε α} {result : α} :
    (if condition then throw error >>= rest else rest ()) = .ok result ↔
      ¬ condition ∧ rest () = .ok result := by
  split
  · next hcondition =>
      constructor
      · intro hthrow
        cases hthrow
      · intro hrest
        exact absurd hcondition hrest.1
  · next hcondition => simp [hcondition]

theorem Scan.start_add (events : List ℕ) (transfers : List Movement) :
    Scan.start.add expected events transfers =
      { tokenInSpent := moved expected.input expected.wallet executorAddress transfers
        amountOut := Evm.received expected.output expected.payee transfers
        nativeInputTransferred := moved nativeEmitter expected.wallet executorAddress transfers
        executorEvents := events.length
        eventAmountOut := events.getLast?.getD 0 } := by
  simp [Scan.add, Scan.start]

/-- A receipt is accepted when it shows the transaction and its logs show the swap. -/
theorem verifySwapReceipt_ok {receipt : Receipt} {result : VerifiedSwap} :
    verifySwapReceipt runtime decode expected receipt = .ok result ↔
      ReceiptMatches runtime expected receipt ∧
        SwapEvidence runtime decode expected receipt.logs result := by
  unfold verifySwapReceipt
  simp only [sameAddress_addressOf expected.addressOf_wallet expected.addressOf_payee,
    sameAddress_addressOf expected.addressOf_input addressOf_constants.2.2.1, scanLogs_eq,
    except_bind_ok, check_ok, Except.ok.injEq, exists_eq_left', Scan.start_add]
  constructor
  · intro haccepted
    obtain ⟨hpayee, hchain, hstatus, sender, hsender, target, htarget, hrest⟩ := haccepted
    obtain ⟨sent, hsent, hown, reached, hreached, hexecutor, hdata, hevent, hrest⟩ := hrest
    obtain ⟨hinput, hnative, hout, hresult⟩ := hrest
    simp only [Bool.not_eq_false, not_not, not_or, decide_eq_true_eq, not_lt] at *
    rw [hown] at hsent
    rw [hexecutor] at hreached
    obtain ⟨output, houtput⟩ := List.length_eq_one_iff.mp hevent.1
    have hlast : (receipt.logs.filterMap (eventOutput runtime decode expected)).getLast?.getD 0 =
        output := by
      rw [houtput]
      rfl
    cases hresult
    refine ⟨⟨hpayee, hchain, ?_, ⟨sender, hsender, hsent⟩, ⟨target, htarget, hreached⟩,
      hdata.1, hdata.2⟩, ?_⟩
    · by_contra hneither
      rw [not_or] at hneither
      exact hstatus hneither
    · by_cases husdc : expected.input = usdcAddress
      · refine ⟨by rw [houtput]; rfl, hevent.2, ?_, hout, if_pos husdc⟩
        rw [if_pos husdc, if_pos husdc]
        by_contra hother
        exact hnative ⟨husdc, hother⟩
      · have hspent : moved expected.input expected.wallet executorAddress
            (receipt.logs.filterMap (transferOf runtime decode expected)) = expected.amountIn := by
          by_contra hother
          rw [if_neg husdc] at hinput
          exact hinput ⟨decide_eq_false husdc, hother⟩
        refine ⟨by rw [houtput]; rfl, hevent.2, ?_, hout, (if_neg husdc).trans hspent⟩
        rw [if_neg husdc, if_neg husdc]
        exact hspent
  · intro hshown
    obtain ⟨hreceipt, hevidence⟩ := hshown
    obtain ⟨sender, hsender, hsent⟩ := hreceipt.sender
    obtain ⟨target, htarget, hreached⟩ := hreceipt.target
    have hinput := hevidence.input
    simp only [Bool.not_eq_false, not_not, not_or, decide_eq_true_eq, not_lt, hevidence.event]
    refine ⟨hreceipt.payee, hreceipt.chainId, ?_, sender, hsender, target, htarget, true, hsent, rfl,
      true, hreached, rfl, ⟨hreceipt.input, hreceipt.value⟩, ⟨rfl, hevidence.sufficient⟩, ?_, ?_,
      hevidence.delivered, ?_⟩
    · intro hneither
      exact hreceipt.status.elim hneither.1 hneither.2
    · intro hother
      have husdc : ¬ expected.input = usdcAddress := of_decide_eq_false hother.1
      rw [if_neg husdc, if_neg husdc] at hinput
      rw [if_neg husdc] at hother
      exact hother.2 hinput
    · intro hother
      rw [if_pos hother.1, if_pos hother.1] at hinput
      exact hother.2 hinput
    · have hspent : (if expected.input = usdcAddress then expected.amountIn
          else moved expected.input expected.wallet executorAddress
            (receipt.logs.filterMap (transferOf runtime decode expected))) = expected.amountIn := by
        split
        · rfl
        · next husdc =>
            rw [if_neg husdc, if_neg husdc] at hinput
            exact hinput
      rw [hspent, ← hevidence.spent]
      rfl

end Scanning

end WizPay.UserSwap
