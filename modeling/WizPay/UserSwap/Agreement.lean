import WizPay.Backend.NumberText
import WizPay.Evm.StandardTokens
import WizPay.UserSwap.Receipt

/-!
# The receipt of a swap and the executor

What the executor checks of a swap, its receipt shows: the scan accepts the logs of a
successful swap among whatever else was logged, and what it accepts is the event of one swap
whose input did move.
-/

namespace WizPay.UserSwap

open Foundation Backend Evm SwapExecutor

/-! ## Logs as text -/

/-- A word in hexadecimal. -/
def wordText (value : ℕ) : String := String.ofList ('0' :: 'x' :: hexDigits 64 value)

/-- The log of a transfer. -/
def transferLog (movement : Movement) : ReceiptLog where
  address := addressText movement.emitter
  topics := [transferTopic, wordText movement.source.toNat, wordText movement.target.toNat]
  data := wordText movement.amount

variable {runtime : Runtime} {decode : DecodeSwap} {expected : ExpectedSwap}

theorem emitterOf_addressText (address : Address) (topics : List String) (data : String) :
    emitterOf runtime ⟨addressText address, topics, data⟩ = some address := by
  rw [emitterOf, if_pos (isAddress_addressText address), addressOf_addressText]

theorem isHexText_wordText (value : ℕ) : isHexText 64 (wordText value) = true :=
  isHexText_iff.mpr ⟨_, rfl, hexDigits_length _ _, hexDigits_isHexDigit _ _⟩

theorem hexAmount_wordText {value : ℕ} (hword : value < uint256Bound) :
    hexAmount (wordText value) = some value := by
  have hvalue : value < 16 ^ 64 := hword.trans_eq (by decide)
  rw [hexAmount, wordText, String.toList_ofList]
  have hdigits : (hexDigits 64 value).all isHexDigit = true :=
    List.all_eq_true.mpr (hexDigits_isHexDigit 64 value)
  have hshape : 1 ≤ (hexDigits 64 value).length ∧ (hexDigits 64 value).length ≤ 64 ∧
      (hexDigits 64 value).all isHexDigit = true := by
    rw [hexDigits_length]
    exact ⟨by decide, le_rfl, hdigits⟩
  exact (if_pos hshape).trans (congrArg some (hexNat_hexDigits hvalue))

/-- A number with fewer digits ends as it does in a word. -/
theorem drop_hexDigits (extra count value : ℕ) :
    (hexDigits (extra + count) value).drop extra = hexDigits count value := by
  induction count generalizing value with
  | zero => rw [Nat.add_zero, List.drop_of_length_le (hexDigits_length _ _).le]; rfl
  | succ count ih =>
      rw [← Nat.add_assoc, hexDigits, List.drop_append_of_le_length, ih, hexDigits]
      rw [hexDigits_length]
      exact Nat.le_add_right extra count

theorem topicAddress_wordText (address : Address) :
    topicAddress (wordText address.toNat) = addressText address := by
  have hdrop : (hexDigits 64 address.toNat).drop 24 = hexDigits 40 address.toNat :=
    drop_hexDigits 24 40 address.toNat
  rw [topicAddress, wordText, String.toList_ofList, List.drop_succ_cons, List.drop_succ_cons, hdrop,
    addressText]

theorem transferOf_transferLog (hruntime : runtime.Documented) {movement : Movement}
    (hword : movement.amount < uint256Bound) (hemitter : movement.emitter ≠ executorAddress) :
    transferOf runtime decode expected (transferLog movement) = some movement := by
  have hread : emitterOf runtime (transferLog movement) = some movement.emitter :=
    emitterOf_addressText ..
  have hnot : ¬ IsUndecoded runtime decode expected (transferLog movement) := by
    intro hundecoded
    exact hemitter (Option.some.inj (hread.symm.trans hundecoded.1))
  have htopic : runtime.toLowerCase transferTopic = transferTopic := by
    rw [hruntime.toLowerCase_ascii _ (by decide +kernel)]
    decide +kernel
  have hparts : transferParts runtime (transferLog movement) =
      some (addressText movement.source, addressText movement.target, movement.amount) := by
    simp only [transferParts, transferLog, htopic, isHexText_wordText, hexAmount_wordText hword,
      topicAddress_wordText]
    rfl
  unfold transferOf
  rw [if_neg hnot, hread, hparts]
  simp only [Option.bind_eq_bind, Option.bind_some, addressOf_addressText]
  rfl

/-! ## Sums over receipts -/

theorem transferOf_emitter {log : ReceiptLog} {movement : Movement}
    (htransfer : transferOf runtime decode expected log = some movement) :
    emitterOf runtime log = some movement.emitter := by
  unfold transferOf at htransfer
  split at htransfer
  · cases htransfer
  · simp only [Option.bind_eq_bind, Option.bind_eq_some_iff] at htransfer
    obtain ⟨emitter, hemitter, _, _, _, _, _, _, hsame⟩ := htransfer
    cases hsame
    exact hemitter

/-- Logs of other accounts add nothing to what one account reports. -/
theorem moved_others {emitter source target : Address} {logs : List ReceiptLog}
    (hothers : ∀ log ∈ logs, emitterOf runtime log ≠ some emitter) :
    moved emitter source target (logs.filterMap (transferOf runtime decode expected)) = 0 := by
  apply moved_eq_zero_of_emitter
  intro movement hmem hsame
  obtain ⟨log, hlog, htransfer⟩ := List.mem_filterMap.mp hmem
  apply hothers log hlog
  rw [transferOf_emitter htransfer, hsame]

theorem filterMap_transferLogs (hruntime : runtime.Documented) {movements : List Movement}
    (hwords : ∀ movement ∈ movements,
      movement.amount < uint256Bound ∧ movement.emitter ≠ executorAddress) :
    (movements.map transferLog).filterMap (transferOf runtime decode expected) = movements := by
  induction movements with
  | nil => rfl
  | cons movement rest ih =>
      obtain ⟨hword, hemitter⟩ := hwords movement List.mem_cons_self
      rw [List.map_cons, filterMap_cons_toList, transferOf_transferLog hruntime hword hemitter,
        ih fun other hother => hwords other (List.mem_cons_of_mem _ hother)]
      rfl

theorem filterMap_eventOutput_others {logs : List ReceiptLog}
    (hothers : ∀ log ∈ logs, emitterOf runtime log ≠ some executorAddress) :
    logs.filterMap (eventOutput runtime decode expected) = [] := by
  rw [List.filterMap_eq_nil_iff]
  intro log hlog
  exact if_neg (hothers log hlog)

/-! ## The transaction of a swap -/

/-- `decodeEventLog` reads the executor's event back from the topics and data it was put in. -/
def DecodesSwaps (decode : DecodeSwap) (encode : Event → List String × String) : Prop :=
  ∀ args, Fits args → ∃ decoded, decode (encode (.wizPayMainnetSwapExecuted args)).1
      (encode (.wizPayMainnetSwapExecuted args)).2 = some decoded ∧
    addressOf decoded.caller = some args.caller ∧ addressOf decoded.tokenIn = some args.tokenIn ∧
    addressOf decoded.tokenOut = some args.tokenOut ∧ decoded.amountIn = args.amountIn ∧
    decoded.amountOut = args.amountOut

/-- The log of an event of the executor. -/
def eventLog (encode : Event → List String × String) (event : Event) : ReceiptLog where
  address := addressText executorAddress
  topics := (encode event).1
  data := (encode event).2

/-- What is expected of a swap, as its call asked for it. -/
structure ExpectedSwap.Describes (expected : ExpectedSwap) (msg : Msg) (tokenIn tokenOut : Address)
    (amountIn minAmountOut : ℕ) (data : String) : Prop where
  wallet : expected.wallet = msg.sender
  payee : expected.payee = msg.sender
  input : expected.input = tokenIn
  output : expected.output = tokenOut
  amountIn : expected.amountIn = amountIn
  minAmountOut : expected.minAmountOut = minAmountOut
  data : expected.transactionData = data
  value : expected.transactionValue = msg.value

variable (runtime) in
/-- The receipt of a successful transaction to the executor. -/
structure Receipt.Shows (receipt : Receipt) (msg : Msg) (data : String) (logs : List ReceiptLog) :
    Prop where
  chainId : receipt.chainId = 5042
  status : receipt.status = .success ∨ receipt.status = .numbered 1
  sender : isAddress runtime receipt.sender = true ∧ addressOf receipt.sender = some msg.sender
  target : isAddress runtime receipt.target = true ∧ addressOf receipt.target = some executorAddress
  input : receipt.input = data
  value : receipt.value = toString msg.value
  logs : receipt.logs.Perm logs

theorem requireAddress_of {text label : String} {address : Address}
    (hvalid : isAddress runtime text = true) (haddress : addressOf text = some address)
    (hnonzero : address ≠ 0) :
    ∃ value, requireAddress runtime text label = .ok value ∧ addressOf value = some address := by
  have hzero : addressOf "0x0000000000000000000000000000000000000000" = some 0 := by decide +kernel
  have hget : getAddress runtime text = some (checksumAddress runtime text) :=
    getAddress_eq_some.mpr ⟨isHexText_of_isAddress hvalid, rfl⟩
  refine ⟨checksumAddress runtime text, ?_, (addressOf_getAddress hget).trans haddress⟩
  unfold requireAddress
  rw [hvalid, sameAddress_addressOf haddress hzero, decide_eq_false hnonzero, hget]
  rfl

theorem valueMatches_toString {value : ℕ} (hvalue : expected.transactionValue = value) :
    valueMatches expected (toString value) = true := by
  have hdigits : (toString value).toList.all isDigit = true := by
    rw [toList_toString]
    exact List.all_eq_true.mpr fun c hmem => isDigit_of_mem_toDigits hmem
  rw [valueMatches, hdigits, bigInt_toString, hvalue]
  simp

theorem Receipt.Shows.matches {receipt : Receipt} {msg : Msg} {tokenIn tokenOut : Address}
    {amountIn minAmountOut : ℕ} {data : String} {logs : List ReceiptLog}
    (hshows : receipt.Shows runtime msg data logs)
    (hexpected : expected.Describes msg tokenIn tokenOut amountIn minAmountOut data)
    (hsender : msg.sender ≠ 0) : ReceiptMatches runtime expected receipt := by
  have hexecutor : executorAddress ≠ 0 := by decide
  obtain ⟨sender, hrequired, haddress⟩ := requireAddress_of hshows.sender.1 hshows.sender.2 hsender
  obtain ⟨target, hrequired', haddress'⟩ :=
    requireAddress_of hshows.target.1 hshows.target.2 hexecutor
  refine ⟨hexpected.wallet.trans hexpected.payee.symm, hshows.chainId, hshows.status,
    ⟨sender, hrequired, ?_⟩, ⟨target, hrequired', ?_⟩, ?_, ?_⟩
  · rw [sameAddress_addressOf haddress expected.addressOf_wallet, hexpected.wallet]
    exact congrArg Except.ok (decide_eq_true rfl)
  · rw [sameAddress_addressOf haddress' addressOf_constants.1]
    exact congrArg Except.ok (decide_eq_true rfl)
  · rw [hshows.input, hexpected.data]
  · rw [hshows.value]
    exact valueMatches_toString hexpected.value

/-! ## Agreement -/

/-- The event of a swap matches what is expected of it. -/
theorem eventOutput_eventLog {encode : Event → List String × String}
    (hcodec : DecodesSwaps decode encode) {msg : Msg} {tokenIn tokenOut : Address}
    {amountIn minAmountOut : ℕ} {data : String}
    (hexpected : expected.Describes msg tokenIn tokenOut amountIn minAmountOut data)
    {args : WizPayMainnetSwapExecuted} (hfits : Fits args) (hcaller : args.caller = msg.sender)
    (hin : args.tokenIn = tokenIn) (hout : args.tokenOut = tokenOut)
    (hamount : args.amountIn = amountIn) (henough : minAmountOut ≤ args.amountOut) :
    eventOutput runtime decode expected (eventLog encode (.wizPayMainnetSwapExecuted args)) =
      some args.amountOut := by
  obtain ⟨decoded, hdecode, hcaller', hin', hout', hamount', houtput'⟩ := hcodec args hfits
  have hmatches : eventMatches expected decoded = .ok true := by
    unfold eventMatches
    rw [sameAddress_addressOf hcaller' expected.addressOf_wallet,
      sameAddress_addressOf hin' expected.addressOf_input,
      sameAddress_addressOf hout' expected.addressOf_output, hexpected.wallet, hexpected.input,
      hexpected.output, hexpected.amountIn, hexpected.minAmountOut, hcaller, hin, hout, hamount',
      hamount, houtput', decide_eq_true rfl, decide_eq_true rfl, decide_eq_true rfl,
      decide_eq_true (show amountIn = amountIn ∧ minAmountOut ≤ args.amountOut from ⟨rfl, henough⟩)]
    rfl
  have hemitter : emitterOf runtime (eventLog encode (.wizPayMainnetSwapExecuted args)) =
      some executorAddress := emitterOf_addressText ..
  rw [eventOutput, if_pos hemitter, matchedOutput]
  simp only [eventLog, hdecode, Option.bind_some, hmatches, houtput']

variable {χ : Type} {c : Executor χ} {movements : χ → List Movement}

/-- What a swap transaction added to the logs of the executor and of the assets. -/
def ownLogs (movements : χ → List Movement) (encode : Event → List String × String)
    (before after : State χ) : List ReceiptLog :=
  (after.events.drop before.events.length).map (eventLog encode) ++
    ((movements after.chain).drop (movements before.chain).length).map transferLog

/-- The executor of the receipts: deployed where they look for it, for the tokens they name. -/
structure IsDeployed (c : Executor χ) : Prop where
  self : c.self = executorAddress
  usdc : c.USDC = usdcAddress
  eurc : c.EURC = eurcAddress

/-- The logs of a successful swap, among logs of other accounts, are the evidence of it. -/
theorem swapEvidence_of_logs (hruntime : runtime.Documented) (hdeployed : IsDeployed c)
    {encode : Event → List String × String} (hcodec : DecodesSwaps decode encode)
    {msg : Msg} {tokenIn tokenOut : Address} {amountIn minAmountOut amountOut : ℕ}
    {before after : State χ} {new : List Movement}
    (hlogs : SwapLogs c nativeEmitter movements msg tokenIn tokenOut amountIn minAmountOut amountOut
      before after new) {data : String}
    (hexpected : expected.Describes msg tokenIn tokenOut amountIn minAmountOut data)
    {logs further : List ReceiptLog}
    (hperm : logs.Perm (ownLogs movements encode before after ++ further))
    (hfurther : ∀ log ∈ further, ∀ account ∈ [executorAddress, usdcAddress, eurcAddress,
      nativeEmitter], emitterOf runtime log ≠ some account) :
    SwapEvidence runtime decode expected logs ⟨amountOut, amountIn⟩ := by
  let event := eventLog encode (.wizPayMainnetSwapExecuted
    (swapEvent c msg tokenIn tokenOut amountIn minAmountOut amountOut))
  have hevent : emitterOf runtime event = some executorAddress := emitterOf_addressText ..
  have hown : ownLogs movements encode before after = event :: new.map transferLog := by
    rw [ownLogs, hlogs.events, hlogs.movements, List.drop_left, List.drop_left]
    rfl
  have hwords := hlogs.wellFormed
  rw [hdeployed.self] at hwords
  rw [hown] at hperm
  -- the transfers of the receipt, up to order: those of the swap and those of others
  have htransfers := hperm.filterMap (transferOf runtime decode expected)
  rw [List.cons_append, filterMap_cons_toList, List.filterMap_append,
    filterMap_transferLogs hruntime hwords] at htransfers
  have houtputs := hperm.filterMap (eventOutput runtime decode expected)
  have hmatched : eventOutput runtime decode expected event = some amountOut :=
    eventOutput_eventLog hcodec hexpected hlogs.fits rfl rfl rfl rfl hlogs.sufficient
  have hquiet : ∀ log ∈ new.map transferLog, emitterOf runtime log ≠ some executorAddress := by
    intro log hlog hsame
    obtain ⟨movement, hmem, rfl⟩ := List.mem_map.mp hlog
    exact (hwords movement hmem).2 (Option.some.inj ((emitterOf_addressText ..).symm.trans hsame))
  rw [List.cons_append, filterMap_cons_toList, List.filterMap_append, hmatched,
    filterMap_eventOutput_others hquiet,
    filterMap_eventOutput_others fun log hlog => hfurther log hlog _ (by simp)] at houtputs
  have hmoved : ∀ emitter ∈ [usdcAddress, eurcAddress, nativeEmitter],
      moved emitter msg.sender executorAddress
          (logs.filterMap (transferOf runtime decode expected)) =
        moved emitter msg.sender executorAddress new := by
    intro emitter hemitter
    have hother : emitter ≠ executorAddress := by
      intro hsame
      rw [hsame] at hemitter
      exact absurd hemitter (by decide)
    have hnone : moved emitter msg.sender executorAddress
        (transferOf runtime decode expected event).toList = 0 := by
      apply moved_eq_zero_of_emitter
      intro movement hmem hsame
      have hread := transferOf_emitter (Option.mem_toList.mp hmem)
      exact hother (hsame.symm.trans (Option.some.inj (hread.symm.trans hevent)))
    rw [moved_perm htransfers, moved_append, moved_append, hnone,
      moved_others fun log hlog => hfurther log hlog emitter (List.mem_cons_of_mem _ hemitter)]
    omega
  have hinput := hlogs.input
  rw [hdeployed.self, hdeployed.usdc] at hinput
  have hpair := hlogs.pair
  rw [hdeployed.usdc, hdeployed.eurc] at hpair
  have hvalue := hlogs.value
  rw [hdeployed.usdc] at hvalue
  refine ⟨List.perm_singleton.mp houtputs, ?_, ?_, ?_, ?_⟩
  · rw [hexpected.minAmountOut]
    exact hlogs.sufficient
  · rw [hexpected.wallet, hexpected.input, hexpected.value, hexpected.amountIn, hvalue]
    by_cases husdc : tokenIn = usdcAddress
    · rw [if_pos husdc, if_pos husdc] at hinput
      rw [if_pos husdc, if_pos husdc, if_pos husdc, hmoved _ (by simp)]
      exact hinput
    · rw [if_neg husdc, if_neg husdc] at hinput
      have heurc : tokenIn = eurcAddress := (hpair.resolve_left fun h => husdc h.1).1
      rw [if_neg husdc, if_neg husdc, hmoved _ (by simp [heurc])]
      exact hinput
  · rw [hexpected.minAmountOut, hexpected.output, hexpected.payee, received_perm htransfers,
      received_append, received_append]
    have houtput := hlogs.output
    have hsufficient := hlogs.sufficient
    omega
  · exact hexpected.amountIn.symm

/-- Whoever expects a swap of native USDC expects its value in native units. -/
def ExpectedSwap.Prepared (expected : ExpectedSwap) : Prop :=
  expected.input = usdcAddress →
    expected.transactionValue = expected.amountIn * ARC_NATIVE_USDC_SCALE

/-- The verification of a receipt agrees with the executor. The receipt of a successful swap
is accepted with the output of its event, whatever other accounts logged and wherever. What is
accepted shows exactly one matching event and an input that moved in full. -/
theorem swap_receipt_agrees (hruntime : runtime.Documented)
    {encode : Event → List String × String} (hcodec : DecodesSwaps decode encode)
    (hdeployed : IsDeployed c) {msg : Msg}
    (hlogged : Logged c nativeEmitter movements msg.sender) (hself : msg.sender ≠ c.self)
    (hsender : msg.sender ≠ 0) :
    (∀ tokenIn tokenOut amountIn minAmountOut minHopPriceX36 deadline amountOut before after,
      (executeSwap c msg tokenIn tokenOut amountIn minAmountOut minHopPriceX36 deadline).run before =
        .ok (amountOut, after) →
      after.events = before.events ++ [.wizPayMainnetSwapExecuted
        (swapEvent c msg tokenIn tokenOut amountIn minAmountOut amountOut)] ∧
      ∀ (expected : ExpectedSwap) data receipt further,
        expected.Describes msg tokenIn tokenOut amountIn minAmountOut data →
        (∀ log ∈ further, ∀ account ∈ [executorAddress, usdcAddress, eurcAddress, nativeEmitter],
          emitterOf runtime log ≠ some account) →
        receipt.Shows runtime msg data (ownLogs movements encode before after ++ further) →
        expected.Prepared ∧ verifySwapReceipt runtime decode expected receipt =
          .ok { amountOut := amountOut, tokenInSpent := amountIn }) ∧
    ∀ (expected : ExpectedSwap) receipt result, expected.Prepared →
      verifySwapReceipt runtime decode expected receipt = .ok result →
      receipt.logs.filterMap (eventOutput runtime decode expected) = [result.amountOut] ∧
        expected.minAmountOut ≤ result.amountOut ∧ result.tokenInSpent = expected.amountIn ∧
        moved (if expected.input = usdcAddress then nativeEmitter else expected.input)
            expected.wallet executorAddress
            (receipt.logs.filterMap (transferOf runtime decode expected)) =
          if expected.input = usdcAddress then expected.amountIn * ARC_NATIVE_USDC_SCALE
          else expected.amountIn := by
  constructor
  · intro tokenIn tokenOut amountIn minAmountOut minHopPriceX36 deadline amountOut before after hrun
    obtain ⟨new, hlogs⟩ := executeSwap_reports hlogged rfl hself hrun
    refine ⟨hlogs.events, ?_⟩
    intro expected data receipt further hexpected hfurther hshows
    constructor
    · intro husdc
      have hvalue := hlogs.value
      rw [hdeployed.usdc, ← hexpected.input, if_pos husdc, ← hexpected.amountIn,
        ← hexpected.value] at hvalue
      exact hvalue
    · exact verifySwapReceipt_ok.mpr ⟨hshows.matches hexpected hsender,
        swapEvidence_of_logs hruntime hdeployed hcodec hlogs hexpected hshows.logs hfurther⟩
  · intro expected receipt result hprepared hverify
    obtain ⟨-, hevidence⟩ := verifySwapReceipt_ok.mp hverify
    refine ⟨hevidence.event, hevidence.sufficient, hevidence.spent, hevidence.input.trans ?_⟩
    split
    · next husdc => exact hprepared husdc
    · rfl

/-! ## A swap and its receipt -/

/-- A router at account 3 that sells 900 EURC to account 9 for the value it is sent. -/
def exampleSwapExternals : Externals (State RecordedChain) RecordedChain where
  balanceOf := fun chain token account =>
    min (chain.ledgers.balance token account) (uint256Bound - 1)
  nativeBalance := fun chain account => chain.ledgers.native account
  receiveValue := fun sender value =>
    record executorAddress (Ledgers.moveNative sender executorAddress value)
      (nativeMovement nativeEmitter sender executorAddress value)
  safeTransfer := fun token target amount =>
    record executorAddress (Ledgers.moveToken token executorAddress target amount)
      [⟨token, executorAddress, target, amount⟩]
  safeTransferFrom := fun token source target amount =>
    record executorAddress (Ledgers.moveToken token source target amount) [⟨token, source, target, amount⟩]
  forceApprove := fun _ _ _ => some
  permit2Approve := fun _ _ _ _ => some
  callValue := fun target value =>
    record executorAddress (Ledgers.moveNative executorAddress target value)
      (nativeMovement nativeEmitter executorAddress target value)
  execute := fun request state =>
    (record executorAddress (Ledgers.moveNative executorAddress 3 request.value)
      (nativeMovement nativeEmitter executorAddress 3 request.value) state).bind
        (record executorAddress (Ledgers.moveToken eurcAddress 3 9 900) [⟨eurcAddress, 3, 9, 900⟩])

theorem exampleSwapOwner_ne : (7 : Address) ≠ executorAddress := by decide

theorem exampleSwapTokens_ne : usdcAddress ≠ eurcAddress := by decide

theorem exampleSwapFeeRecipient_eq : (7 : Address) = 7 := rfl

theorem exampleSwapFeeBps_le : 100 ≤ MAX_FEE_BPS := le_rfl

def exampleSwapExecutor : Executor RecordedChain where
  self := executorAddress
  owner := 7
  USDC := usdcAddress
  EURC := eurcAddress
  universalRouter := 3
  permit2 := 4
  poolFee := ARC_MAINNET_POOL_FEE
  poolTickSpacing := ARC_MAINNET_POOL_TICK_SPACING
  feeRecipient := 7
  feeBps := 100
  feeRecipient_eq := exampleSwapFeeRecipient_eq
  feeBps_le := exampleSwapFeeBps_le
  owner_ne_self := exampleSwapOwner_ne
  tokens_ne := exampleSwapTokens_ne
  ext := exampleSwapExternals

theorem record_reports {effect : Ledgers → Option Ledgers} {new : List Movement}
    {before after : State RecordedChain} {wallet token : Address}
    (hrecord : record executorAddress effect new before = some after)
    (hgained : ∀ next, effect before.chain.ledgers = some next →
      next.balance token wallet ≤
        before.chain.ledgers.balance token wallet + received token wallet new) :
    Reports exampleSwapExecutor RecordedChain.movements wallet token before after new := by
  unfold record at hrecord
  split at hrecord
  · next hwords =>
      obtain ⟨ledgers, heffect, rfl⟩ := Option.map_eq_some_iff.mp hrecord
      have hrise : min (ledgers.balance token wallet) (uint256Bound - 1) ≤
          min (before.chain.ledgers.balance token wallet) (uint256Bound - 1) +
            received token wallet new := by
        have hgain := hgained ledgers heffect
        omega
      exact ⟨rfl, rfl, hrise, hwords⟩
  · cases hrecord

/-- Native value leaves the tokens alone. -/
theorem moveNative_gained {source target wallet token : Address} {amount : ℕ}
    {before after : Ledgers} (hmove : Ledgers.moveNative source target amount before = some after)
    (gain : ℕ) : after.balance token wallet ≤ before.balance token wallet + gain := by
  rw [(Ledgers.moveNative_flow hmove).balance]
  exact Nat.le_add_right _ _

/-- What a token gives an account it reports. -/
theorem moveToken_gained {token source target wallet other : Address} {amount : ℕ}
    {before after : Ledgers}
    (hmove : Ledgers.moveToken token source target amount before = some after) :
    after.balance other wallet ≤
      before.balance other wallet + received other wallet [⟨token, source, target, amount⟩] := by
  have hflow := Ledgers.moveToken_flow hmove
  by_cases hother : other = token
  · subst hother
    have hwallet := hflow.flow.apply wallet
    have hgain : (Pi.single target amount : Ledger Address) wallet =
        received other wallet [⟨other, source, target, amount⟩] := by
      rw [received_singleton, Pi.single_apply]
      simp only [true_and, eq_comm]
    omega
  · rw [hflow.others other hother]
    exact Nat.le_add_right _ _

theorem exampleSwapExecutor_logged :
    Logged exampleSwapExecutor nativeEmitter RecordedChain.movements 9 where
  balanceOf := fun chain token account =>
    Nat.lt_of_le_of_lt (Nat.min_le_right _ _) (by decide)
  receiveValue := fun _ _ _ _ hrun _ => record_reports hrun fun _ hmove => moveNative_gained hmove _
  safeTransferFrom := fun hrun => record_reports hrun fun _ hmove => moveToken_gained hmove
  safeTransfer := fun hrun => record_reports hrun fun _ hmove => moveToken_gained hmove
  forceApprove := fun hrun => Option.some.inj hrun ▸ .refl _
  permit2Approve := fun hrun => Option.some.inj hrun ▸ .refl _
  callValue := fun hrun => record_reports hrun fun _ hmove => moveNative_gained hmove _
  execute := by
    intro token request before after hrun _
    obtain ⟨sent, hsent, hsold⟩ := Option.bind_eq_some_iff.mp hrun
    have hsend : Reports exampleSwapExecutor RecordedChain.movements 9 token before sent _ :=
      record_reports hsent fun _ hmove => moveNative_gained hmove _
    refine ⟨_, hsend.trans (record_reports hsold fun _ hmove => moveToken_gained hmove), ?_⟩
    intro movement hmem
    rw [List.mem_singleton.mp hmem]
    exact fun h => absurd h.1 (by decide)

/-! ## The encoding of the event -/

/-- Words one after the other. -/
def wordsText (words : List ℕ) : String :=
  String.ofList ('0' :: 'x' :: words.flatMap (hexDigits 64))

def wordAt (data : String) (i : ℕ) : ℕ := hexNat (((data.toList.drop 2).drop (i * 64)).take 64)

/-- Pieces of one length stand at multiples of it. -/
theorem take_drop_flatMap {α β : Type} {f : α → List β} {size : ℕ}
    (hsize : ∀ item, (f item).length = size) {items : List α} {i : ℕ} {item : α}
    (hitem : items[i]? = some item) : ((items.flatMap f).drop (i * size)).take size = f item := by
  induction items generalizing i with
  | nil => cases hitem
  | cons first rest ih =>
      rw [List.flatMap_cons]
      cases i with
      | zero =>
          cases hitem
          rw [Nat.zero_mul, List.drop_zero, List.take_left' (hsize _)]
      | succ i =>
          rw [Nat.succ_mul, Nat.add_comm, ← List.drop_drop, List.drop_left' (hsize first)]
          exact ih hitem

theorem wordAt_wordsText {words : List ℕ} {i word : ℕ} (hword : words[i]? = some word)
    (hlt : word < uint256Bound) : wordAt (wordsText words) i = word := by
  have hdigits : ((wordsText words).toList.drop 2).drop (i * 64) =
      (words.flatMap (hexDigits 64)).drop (i * 64) := by
    rw [wordsText, String.toList_ofList]
    rfl
  rw [wordAt, hdigits, take_drop_flatMap (hexDigits_length 64) hword,
    hexNat_hexDigits (hlt.trans_eq (by decide))]

def swapEventTopic : String :=
  "0x3bb56aa036758c7294ae2de56f03cc3ce23a07598dfb90b282422c22c20b7677"

/-- Addresses are topics, amounts are words of the data. -/
def encodeEvent : Event → List String × String
  | .wizPayMainnetSwapExecuted args =>
      ([swapEventTopic, wordText args.caller.toNat, wordText args.tokenIn.toNat,
          wordText args.tokenOut.toNat],
        wordsText [args.amountIn, args.feeAmount, args.netAmountIn, args.amountOut,
          args.minAmountOut])
  | _ => ([], "0x")

def decodedArgs (runtime : Runtime) (caller tokenIn tokenOut data : String) : DecodedSwap where
  caller := checksumAddress runtime (topicAddress caller)
  tokenIn := checksumAddress runtime (topicAddress tokenIn)
  tokenOut := checksumAddress runtime (topicAddress tokenOut)
  amountIn := wordAt data 0
  amountOut := wordAt data 3

def decodeEvent (runtime : Runtime) : DecodeSwap
  | [topic, caller, tokenIn, tokenOut], data =>
      if topic = swapEventTopic ∧ data.toList.length = 2 + 5 * 64 then
        some (decodedArgs runtime caller tokenIn tokenOut data)
      else none
  | _, _ => none

theorem addressOf_topicAddress (address : Address) :
    addressOf (checksumAddress runtime (topicAddress (wordText address.toNat))) = some address := by
  have htext : isHexText 40 (addressText address) = true := by
    rw [← addressOf_isSome, addressOf_addressText]
    rfl
  rw [topicAddress_wordText, addressOf_getAddress (getAddress_eq_some.mpr ⟨htext, rfl⟩),
    addressOf_addressText]

theorem decodeEvent_decodesSwaps : DecodesSwaps (decodeEvent runtime) encodeEvent := by
  intro args hfits
  let data := wordsText [args.amountIn, args.feeAmount, args.netAmountIn, args.amountOut,
    args.minAmountOut]
  have hlength : data.toList.length = 2 + 5 * 64 := by
    simp [data, wordsText, hexDigits_length]
  have hamountIn : wordAt data 0 = args.amountIn := wordAt_wordsText rfl hfits.amountIn
  have hamountOut : wordAt data 3 = args.amountOut := wordAt_wordsText rfl hfits.amountOut
  refine ⟨decodedArgs runtime (wordText args.caller.toNat) (wordText args.tokenIn.toNat)
    (wordText args.tokenOut.toNat) data, ?_, addressOf_topicAddress _, addressOf_topicAddress _,
    addressOf_topicAddress _, ?_, ?_⟩
  · simp only [encodeEvent, decodeEvent]
    exact if_pos ⟨trivial, hlength⟩
  · rw [decodedArgs, hamountIn]
  · rw [decodedArgs, hamountOut]

/-! ## A swap of 1000 USDC -/

def exampleSwapRuntime : Runtime := .ofTable [] [
  ("0000000000000000000000000000000000000009",
    "d9141c717dd7a86a66106801d589b72b38e8152f8cb289988183d5fe204795b7"),
  ("3600000000000000000000000000000000000000",
    "0ca457f82cf2044d7b002be71b521ecbfbac7c70311200ae84afe62babf9e900"),
  ("bef5f6d51cb62b58e6a8f77868681825c6fe21c1",
    "2e4b3c2518a210b042b87631d2249f6acc07d70f60d5745a2c790aeb5b2dc576"),
  ("7a051f17b237750ef9d4e63fb75381b9f8755774",
    "f896892dfbea1edfcdf7d046520428d3c378c589525c198e59d8c49cd7a878b6")]

/-- Account 9 holds native value and the router EURC. -/
def exampleSwapState : State RecordedChain where
  storage := ()
  paused := false
  entered := false
  events := []
  chain := {
    ledgers := {
      native := Pi.single 9 (1000 * ARC_NATIVE_USDC_SCALE)
      balance := fun _ => Pi.single 3 1000
      allowance := fun _ _ _ => 0
      permit2Allowance := fun _ _ _ => (0, 0) }
    movements := [] }

def exampleSwapMsg : Msg := ⟨9, 1000 * ARC_NATIVE_USDC_SCALE, 0⟩

theorem exampleSwapWallet_isHexText : isHexText 40 (addressText 9) = true := by decide +kernel

theorem exampleSwapInput_isHexText : isHexText 40 ARC_MAINNET_UNISWAP_V4_USDC = true := by
  decide +kernel

theorem exampleSwapOutput_isHexText : isHexText 40 ARC_MAINNET_UNISWAP_V4_EURC = true := by
  decide +kernel

def exampleExpectedSwap : ExpectedSwap where
  walletAddress := addressText 9
  recipient := addressText 9
  tokenIn := ARC_MAINNET_UNISWAP_V4_USDC
  tokenOut := ARC_MAINNET_UNISWAP_V4_EURC
  amountIn := 1000
  minAmountOut := 850
  transactionData := "0x01"
  transactionValue := 1000 * ARC_NATIVE_USDC_SCALE
  wallet_isHexText := exampleSwapWallet_isHexText
  recipient_isHexText := exampleSwapWallet_isHexText
  tokenIn_isHexText := exampleSwapInput_isHexText
  tokenOut_isHexText := exampleSwapOutput_isHexText

/-- An approval logged by another token, after the logs of the swap. -/
def exampleForeignLog : ReceiptLog where
  address := addressText 12
  topics := ["0x8c5be1e5ebec7d5bd14f71427d1e84f3dd0314c0f7b2291e5b200ac8c7c3b925"]
  data := "0x"

def exampleSwapReceipt (after : State RecordedChain) : Receipt where
  chainId := 5042
  status := .success
  sender := addressText 9
  target := addressText executorAddress
  input := "0x01"
  value := toString (1000 * ARC_NATIVE_USDC_SCALE)
  logs := ownLogs RecordedChain.movements encodeEvent exampleSwapState after ++ [exampleForeignLog]

theorem exampleExpectedSwap_describes :
    exampleExpectedSwap.Describes exampleSwapMsg usdcAddress eurcAddress 1000 850 "0x01" where
  wallet := by
    rw [ExpectedSwap.wallet, exampleExpectedSwap, addressOf_addressText]
    rfl
  payee := by
    rw [ExpectedSwap.payee, exampleExpectedSwap, addressOf_addressText]
    rfl
  input := by
    rw [ExpectedSwap.input, exampleExpectedSwap, addressOf_constants.2.2.1, Option.getD_some]
  output := by
    rw [ExpectedSwap.output, exampleExpectedSwap, addressOf_constants.2.2.2, Option.getD_some]
  amountIn := rfl
  minAmountOut := rfl
  data := rfl
  value := rfl

theorem exampleForeignLog_foreign :
    ∀ log ∈ [exampleForeignLog], ∀ account ∈ [executorAddress, usdcAddress, eurcAddress,
      nativeEmitter], emitterOf exampleSwapRuntime log ≠ some account := by
  intro log hlog account haccount
  rw [List.mem_singleton.mp hlog, exampleForeignLog, emitterOf_addressText, ne_eq, Option.some.injEq]
  intro hsame
  rw [← hsame] at haccount
  exact absurd haccount (by decide)

theorem exampleSwapReceipt_shows (after : State RecordedChain) :
    (exampleSwapReceipt after).Shows exampleSwapRuntime exampleSwapMsg "0x01"
      (ownLogs RecordedChain.movements encodeEvent exampleSwapState after ++
        [exampleForeignLog]) where
  chainId := rfl
  status := .inl rfl
  sender := ⟨isAddress_addressText 9, addressOf_addressText 9⟩
  target := ⟨isAddress_addressText _, addressOf_addressText _⟩
  input := rfl
  value := rfl
  logs := .refl _

/-- Account 9 swaps 1000 USDC, and its receipt is accepted. -/
theorem swap_receipt_agrees_usdc :
    ∃ amountOut after,
      (executeSwap exampleSwapExecutor exampleSwapMsg usdcAddress eurcAddress 1000 850 1 60).run
          exampleSwapState = .ok (amountOut, after) ∧
        verifySwapReceipt exampleSwapRuntime (decodeEvent exampleSwapRuntime) exampleExpectedSwap
          (exampleSwapReceipt after) = .ok ⟨amountOut, 1000⟩ := by
  have hsucceeds : (executeSwap exampleSwapExecutor exampleSwapMsg usdcAddress eurcAddress 1000 850
      1 60).succeeds exampleSwapState = true := by
    decide +kernel
  obtain ⟨amountOut, after, hrun⟩ := Call.succeeds_iff.mp hsucceeds
  have hruntime : exampleSwapRuntime.Documented := Runtime.ofTable_documented rfl
  have hcodec : DecodesSwaps (decodeEvent exampleSwapRuntime) encodeEvent := decodeEvent_decodesSwaps
  have hdeployed : IsDeployed exampleSwapExecutor := ⟨rfl, rfl, rfl⟩
  have hlogged : Logged exampleSwapExecutor nativeEmitter RecordedChain.movements
      exampleSwapMsg.sender := exampleSwapExecutor_logged
  obtain ⟨hcomplete, -⟩ :=
    swap_receipt_agrees hruntime hcodec hdeployed hlogged (by decide) (by decide)
  obtain ⟨-, hverified⟩ := hcomplete _ _ _ _ _ _ _ _ _ hrun
  exact ⟨amountOut, after, hrun, (hverified _ _ _ _ exampleExpectedSwap_describes
    exampleForeignLog_foreign (exampleSwapReceipt_shows after)).2⟩

end WizPay.UserSwap
