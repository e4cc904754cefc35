import WizPay.PayrollHistory.Chain

/-!
# The transfers of a transaction

Read as payments, the logs of a transaction give one pair of a recipient and an amount for
every transfer of the contract's: one for each line of each batch, and one more for each line
that is charged a fee.
-/

namespace WizPay.PayrollHistory

open Backend Evm MainnetV2

variable {Hash χ Body : Type} {c : Contract Hash χ}
  {movements : χ → List Movement} {encoding : Encoding Hash Body} {decoders : Decoders Body}
  {runtime : Runtime}

/-- Who is paid, and how much, as texts. -/
def TaskEmployeeBreakdownItem.pair (item : TaskEmployeeBreakdownItem) : String × String :=
  (item.employee, item.amount)

variable (runtime) in
/-- How an account and an amount are written. -/
def written (payment : Address × ℕ) : String × String :=
  (checksumAddress runtime (addressText payment.1), toString payment.2)

variable (runtime) in
/-- What a movement of the contract's is listed as. -/
def movementPairs (self : Address) (movement : Movement) : List (String × String) :=
  if movement.source = self then [written runtime (movement.target, movement.amount)] else []

/-! ## One log -/

/-- A transfer is listed where the contract made it. -/
theorem paymentOf_transfer (hruntime : runtime.Documented) {self source target : Address}
    {txHash : String} {timestampMs : ℕ} {log : RpcLogResult Body} {args : TransferArgs}
    (hdecoded : decoders.transfer log.body = some args)
    (hsource : addressOf args.source = some source)
    (htarget : addressOf args.target = some target) :
    (paymentOf runtime decoders (addressText self) txHash timestampMs log).map
        TaskEmployeeBreakdownItem.pair =
      if source = self then [written runtime (target, args.value)] else [] := by
  unfold paymentOf
  simp only [hdecoded, toLowerCase_of_addressOf hruntime hsource, getAddress_of_addressOf htarget]
  by_cases hself : source = self
  · rw [if_pos hself, if_neg (not_not.mpr (congrArg addressText hself))]
    rfl
  · have htexts : addressText source ≠ addressText self := by
      intro hsame
      apply hself
      have hback := addressOf_addressText source
      rw [hsame, addressOf_addressText] at hback
      exact (Option.some.inj hback).symm
    rw [if_neg hself, if_pos htexts]
    rfl

theorem paymentOf_undecoded {contractAddress txHash : String} {timestampMs : ℕ}
    {log : RpcLogResult Body} (hdecoded : decoders.transfer log.body = none) :
    paymentOf runtime decoders contractAddress txHash timestampMs log = [] := by
  unfold paymentOf
  rw [hdecoded]

/-! ## One batch -/

variable (c runtime) in
/-- What the transfers of a batch are listed as. -/
def linePairs (storage : Storage Hash) (batch : List Payment) : List (String × String) :=
  (batch.flatMap (lineMovements c storage.feeCollector storage.feeBps)).flatMap
    (movementPairs runtime c.self)

theorem linePairs_cons (storage : Storage Hash) (payment : Payment) (rest : List Payment) :
    linePairs c runtime storage (payment :: rest) =
      (if feeOf storage.feeBps payment.amountIn = 0 then []
        else [written runtime (storage.feeCollector, feeOf storage.feeBps payment.amountIn)]) ++
      written runtime (payment.recipient, netOf storage.feeBps payment.amountIn) ::
        linePairs c runtime storage rest := by
  rw [linePairs, List.flatMap_cons, List.flatMap_append, ← linePairs, lineMovements,
    List.flatMap_append, feeMovements]
  split
  · simp [movementPairs]
  · simp [movementPairs]

/-- A pair for each line, and one more for each line that is charged. -/
theorem linePairs_length (storage : Storage Hash) (batch : List Payment) :
    (linePairs c runtime storage batch).length = batch.length +
      batch.countP fun payment => feeOf storage.feeBps payment.amountIn ≠ 0 := by
  induction batch with
  | nil => rfl
  | cons payment rest ih =>
      rw [linePairs_cons, List.length_append, List.length_cons, ih, List.length_cons,
        List.countP_cons]
      split
      · next hfee =>
          simp only [List.length_nil, hfee, ne_eq, not_true_eq_false, decide_false,
            Bool.false_eq_true, if_false]
          omega
      · next hfee =>
          simp only [List.length_singleton, decide_eq_true hfee, if_true]
          omega

/-- Where nothing is charged, these are the payments. -/
theorem linePairs_of_free {storage : Storage Hash} {batch : List Payment}
    (hfree : ∀ payment ∈ batch, feeOf storage.feeBps payment.amountIn = 0) :
    linePairs c runtime storage batch = (nets storage.feeBps batch).map (written runtime) := by
  induction batch with
  | nil => rfl
  | cons payment rest ih =>
      rw [linePairs_cons, if_pos (hfree payment List.mem_cons_self), List.nil_append,
        ih fun other hother => hfree other (List.mem_cons_of_mem _ hother)]
      rfl

/-! ## One call -/

theorem lineEvents_ne_routed {payer : Address} {referenceHash : Hash} {feeBps i : ℕ}
    {batch : List Payment} {args : BatchPaymentRouted} :
    .batchPaymentRouted args ∉ lineEvents c payer referenceHash feeBps i batch := by
  induction batch generalizing i with
  | nil => exact List.not_mem_nil
  | cons payment rest ih =>
      rw [lineEvents, List.mem_append, List.mem_cons]
      rintro (hmem | hmem | hmem)
      · split at hmem
        · cases hmem
        · cases List.mem_singleton.mp hmem
      · cases hmem
      · exact ih hmem

variable [DecidableEq Hash]

/-- What a successful call leaves in the logs. -/
structure BatchCall.Logs (call : BatchCall c) (movements : χ → List Movement) : Prop where
  nonempty : call.batch ≠ []
  paid : call.paid = nets call.before.storage.feeBps call.batch
  events : ∃ lines consumed routed, call.events = lines ++
      [.payrollReferenceConsumed consumed, .batchPaymentRouted routed] ∧
    (∀ args, .batchPaymentRouted args ∉ lines) ∧ routed.sender = call.msg.sender ∧ routed.Fits ∧
      routed.totalAmountOut = totalNet call.before.storage.feeBps call.batch
  transfers : ∃ totalAmount, call.transfers movements =
      ⟨c.canonicalUsdc, call.msg.sender, c.self, totalAmount⟩ ::
        call.batch.flatMap
          (lineMovements c call.before.storage.feeCollector call.before.storage.feeBps)
  bounded : ∀ movement ∈ call.transfers movements, movement.amount < uint256Bound

theorem BatchCall.hasLogs (hlogged : Logged c movements) (call : BatchCall c) :
    call.Logs movements := by
  have hlogs := batchRouteAndPay_reports hlogged call.run
  obtain ⟨referenceHash, consumed, routed, hevents, hsender, htotal, hfits⟩ := hlogs.events
  obtain ⟨totalAmount, htransfers, htotalAmount⟩ := hlogs.movements
  have hown : call.events = lineEvents c call.msg.sender referenceHash
      call.before.storage.feeBps 0 call.batch ++
        [.payrollReferenceConsumed consumed, .batchPaymentRouted routed] := by
    rw [BatchCall.events, hevents, List.drop_left]
    rfl
  have hmoved : call.transfers movements =
      ⟨c.canonicalUsdc, call.msg.sender, c.self, totalAmount⟩ :: call.batch.flatMap
        (lineMovements c call.before.storage.feeCollector call.before.storage.feeBps) := by
    rw [BatchCall.transfers, htransfers, List.drop_left]
    rfl
  refine ⟨hlogs.nonempty, ?_, ⟨_, consumed, routed, hown, fun _ => lineEvents_ne_routed, hsender,
    hfits, htotal.trans hlogs.paid⟩, ⟨totalAmount, hmoved⟩, ?_⟩
  · rw [BatchCall.paid, hown, directPayments, List.filterMap_append, List.map_append,
      ← directPayments, directPayments_lineEvents]
    exact List.append_nil _
  · rw [hmoved]
    intro movement hmem
    rcases List.mem_cons.mp hmem with rfl | hmem
    · exact htotalAmount
    obtain ⟨payment, hpayment, hmem⟩ := List.mem_flatMap.mp hmem
    obtain ⟨hamount, hfee⟩ := hlogs.bounded payment hpayment
    rw [lineMovements, List.mem_append, feeMovements] at hmem
    rcases hmem with hmem | hmem
    · split at hmem
      · cases hmem
      · rw [List.mem_singleton.mp hmem]
        exact hfee.trans_lt hamount
    · rw [List.mem_singleton.mp hmem]
      exact (Nat.sub_le _ _).trans_lt hamount

omit [DecidableEq Hash] in
variable (c encoding) in
/-- Whether a log is a batch event of the contract's for a sender. -/
def isBatch (sender : String) (log : Address × Body) : Bool :=
  log.1 = c.self && encoding.isBatchOf sender log.2

/-- Of the logs of a call, one is the wallet's batch. -/
theorem BatchCall.logs_filter (hencoding : encoding.Documented decoders)
    (hlogged : Logged c movements) {sender : String} {wallet : Address}
    (hsender : addressOf sender = some wallet) {call : BatchCall c}
    (hcall : call.msg.sender = wallet) :
    ∃ routed : BatchPaymentRouted, routed.Fits ∧ routed.sender = wallet ∧
      (call.logs movements encoding).filter (isBatch c encoding sender) =
        [(c.self, encoding.event (.batchPaymentRouted routed))] := by
  obtain ⟨lines, consumed, routed, hevents, hlines, hrouted, hfits, -⟩ := (call.hasLogs hlogged).events
  refine ⟨routed, hfits, hrouted.trans hcall, ?_⟩
  have hevent (event : Event Hash) := hencoding.isBatchOf_event sender wallet event hsender
  have hquiet : ∀ event ∈ lines ++ [Event.payrollReferenceConsumed consumed],
      encoding.isBatchOf sender (encoding.event event) = false := by
    intro event hmem
    rw [Bool.eq_false_iff, ne_eq, hevent]
    rintro ⟨args, rfl, -⟩
    rcases List.mem_append.mp hmem with hmem | hmem
    · exact hlines args hmem
    · cases List.mem_singleton.mp hmem
  have hwanted : encoding.isBatchOf sender (encoding.event (.batchPaymentRouted routed)) = true :=
    (hevent _).mpr ⟨routed, rfl, hrouted.trans hcall⟩
  have hsplit : call.events = (lines ++ [.payrollReferenceConsumed consumed]) ++
      [.batchPaymentRouted routed] := by rw [hevents, List.append_assoc]; rfl
  rw [BatchCall.logs, hsplit, List.filter_append, List.map_append, List.filter_append]
  rw [List.filter_eq_nil_iff.mpr, List.nil_append, List.map_singleton,
    List.filter_cons_of_pos (by simp [isBatch, hwanted]), List.filter_nil, List.filter_eq_nil_iff.mpr,
    List.append_nil]
  · intro log hlog
    obtain ⟨movement, -, rfl⟩ := List.mem_map.mp hlog
    simp [isBatch, hencoding.isBatchOf_transfer]
  · intro log hlog
    obtain ⟨event, hmem, rfl⟩ := List.mem_map.mp hlog
    simp [isBatch, hquiet event hmem]

/-! ## One transaction -/

variable (decoders runtime) in
/-- What a log of a receipt is listed as, for the contract at an address. -/
def logPairs (self : Address) (log : Address × Body) : List (String × String) :=
  match decoders.transfer log.2 with
  | none => []
  | some args =>
      if addressOf args.source = some self then
        match addressOf args.target with
        | none => []
        | some target => [written runtime (target, args.value)]
      else []

omit [DecidableEq Hash] in
theorem paymentOf_pairs (hruntime : runtime.Documented) (hencoding : encoding.Documented decoders)
    {self : Address} {txHash : String} {timestampMs : ℕ} {transaction : Transaction Body} :
    (transaction.rpcLogs.flatMap
      (paymentOf runtime decoders (addressText self) txHash timestampMs)).map
        TaskEmployeeBreakdownItem.pair = transaction.logs.flatMap (logPairs decoders runtime self) := by
  rw [Transaction.rpcLogs, List.flatMap_map, List.map_flatMap]
  apply List.flatMap_congr
  intro log hlog
  cases hdecoded : decoders.transfer log.2 with
  | none =>
      rw [paymentOf_undecoded hdecoded, logPairs, hdecoded]
      rfl
  | some args =>
      obtain ⟨hvalid, hvalid'⟩ := hencoding.addresses _ _ hdecoded
      obtain ⟨source, hsource⟩ : ∃ source, addressOf args.source = some source :=
        ⟨_, addressOf_getD hvalid⟩
      obtain ⟨target, htarget⟩ : ∃ target, addressOf args.target = some target :=
        ⟨_, addressOf_getD hvalid'⟩
      rw [paymentOf_transfer hruntime hdecoded hsource htarget, logPairs, hdecoded]
      simp only [hsource, htarget, Option.some.injEq]

variable (runtime) in
/-- What a transaction of a wallet is listed as, once for each of its batches. -/
theorem logPairs_perm (hencoding : encoding.Documented decoders) (hlogged : Logged c movements)
    {wallet : Address} (hself : wallet ≠ c.self) {transaction : WalletTransaction c Body}
    {further : List (Address × Body)}
    (hholds : transaction.Holds movements wallet encoding decoders further)
    (hpaid : transaction.calls ≠ []) :
    (transaction.logs.flatMap (logPairs decoders runtime c.self)).Perm
      (transaction.calls.flatMap fun call =>
        linePairs c runtime call.before.storage call.batch) := by
  have hfurther : further.flatMap (logPairs decoders runtime c.self) = [] := by
    rw [List.flatMap_eq_nil_iff]
    intro log hlog
    unfold logPairs
    split
    · rfl
    · next args hdecoded => rw [if_neg (hholds.noTransfer hpaid log hlog args hdecoded)]
  have hcall : ∀ call ∈ transaction.calls, (call.logs movements encoding).flatMap
      (logPairs decoders runtime c.self) = linePairs c runtime call.before.storage call.batch := by
    intro call hmem
    have hlogs := call.hasLogs hlogged
    obtain ⟨totalAmount, htransfers⟩ := hlogs.transfers
    have hevents : (call.events.map fun event => (c.self, encoding.event event)).flatMap
        (logPairs decoders runtime c.self) = [] := by
      rw [List.flatMap_map, List.flatMap_eq_nil_iff]
      intro event _
      rw [logPairs, hencoding.event]
    have hmovement : ∀ movement ∈ call.transfers movements, logPairs decoders runtime c.self
        (movement.emitter, encoding.transfer movement) = movementPairs runtime c.self movement := by
      intro movement hmovement
      obtain ⟨args, hdecoded, hsource, htarget, hvalue⟩ :=
        hencoding.transfer movement (hlogs.bounded movement hmovement)
      rw [logPairs, hdecoded]
      simp only [hsource, htarget, hvalue, Option.some.injEq]
      rfl
    have hfunding : movementPairs runtime c.self
        ⟨c.canonicalUsdc, call.msg.sender, c.self, totalAmount⟩ = [] := by
      rw [movementPairs, if_neg]
      rw [hholds.sender call hmem]
      exact hself
    rw [BatchCall.logs, List.flatMap_append, hevents, List.nil_append, List.flatMap_map,
      List.flatMap_congr hmovement, htransfers, List.flatMap_cons, hfunding, List.nil_append,
      linePairs]
  have hperm := hholds.logs.flatMap_right (logPairs decoders runtime c.self)
  rw [List.flatMap_append, hfurther, List.append_nil, List.flatMap_assoc,
    List.flatMap_congr hcall] at hperm
  exact hperm

end WizPay.PayrollHistory
