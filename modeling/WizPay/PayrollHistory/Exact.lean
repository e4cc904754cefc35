import WizPay.PayrollHistory.Payments

/-!
# When the history is exact

For a transaction the history lists every transfer of the contract's, once for each batch of
the wallet. That is one entry for each payment only where the transaction holds a single
batch, and nothing is charged on it.
-/

namespace WizPay.PayrollHistory

open Foundation Backend Evm MainnetV2

variable {Hash χ Body : Type} [DecidableEq Hash] {c : Contract Hash χ}
  {movements : χ → List Movement} {encoding : Encoding Hash Body} {decoders : Decoders Body}
  {runtime : Runtime} {node : Node Body} {chain : List (WalletTransaction c Body)} {height : ℕ}
  {wallet : Address}

/-! ## The logs of one transaction -/

theorem batchLogs_perm (hencoding : encoding.Documented decoders) (hlogged : Logged c movements)
    {sender : String} (hsender : addressOf sender = some wallet)
    {transaction : WalletTransaction c Body} {further : List (Address × Body)}
    (hholds : transaction.Holds movements wallet encoding decoders further) :
    ∃ routeds : List BatchPaymentRouted, routeds.length = transaction.calls.length ∧
      (∀ routed ∈ routeds, routed.Fits ∧ routed.sender = wallet) ∧
      (transaction.logs.filter (isBatch c encoding sender)).Perm
        (routeds.map fun routed => (c.self, encoding.event (.batchPaymentRouted routed))) := by
  have hcalls : ∀ calls : List (BatchCall c), (∀ call ∈ calls, call.msg.sender = wallet) →
      ∃ routeds : List BatchPaymentRouted, routeds.length = calls.length ∧
        (∀ routed ∈ routeds, routed.Fits ∧ routed.sender = wallet) ∧
        (calls.flatMap (BatchCall.logs movements · encoding)).filter
            (isBatch c encoding sender) =
          routeds.map fun routed => (c.self, encoding.event (.batchPaymentRouted routed)) := by
    intro calls hcallers
    induction calls with
    | nil => exact ⟨[], rfl, fun _ hmem => absurd hmem List.not_mem_nil, rfl⟩
    | cons call rest ih =>
        obtain ⟨routeds, hlength, hfits, hfilter⟩ :=
          ih fun other hother => hcallers other (List.mem_cons_of_mem _ hother)
        obtain ⟨routed, hfit, hrouted, hfirst⟩ := BatchCall.logs_filter hencoding hlogged hsender
          (hcallers call List.mem_cons_self)
        refine ⟨routed :: routeds, congrArg Nat.succ hlength, ?_, ?_⟩
        · intro other hother
          rcases List.mem_cons.mp hother with rfl | hother
          · exact ⟨hfit, hrouted⟩
          · exact hfits other hother
        · rw [List.flatMap_cons, List.filter_append, hfirst, hfilter]
          rfl
  obtain ⟨routeds, hlength, hfits, hfilter⟩ := hcalls transaction.calls hholds.sender
  refine ⟨routeds, hlength, hfits, ?_⟩
  have hothers : further.filter (isBatch c encoding sender) = [] := by
    rw [List.filter_eq_nil_iff]
    intro log hlog hwanted
    rw [isBatch, Bool.and_eq_true, decide_eq_true_eq] at hwanted
    rw [hholds.noBatch log hlog hwanted.1 sender hsender] at hwanted
    exact Bool.false_ne_true hwanted.2
  have hperm := hholds.logs.filter (isBatch c encoding sender)
  rw [List.filter_append, hfilter, hothers, List.append_nil] at hperm
  exact hperm

omit [DecidableEq Hash] in
variable (encoding) in
/-- What the node selects of a transaction. -/
theorem rpcLogs_selected {address : String} (sender : String) (haddress : addressOf address = some c.self)
    {transaction : Transaction Body} (hmined : transaction.block ≤ height) (fromBlock : ℕ) :
    transaction.rpcLogs.filter (selects encoding address sender fromBlock height) =
      if fromBlock ≤ transaction.block then
        (transaction.logs.filter (isBatch c encoding sender)).map transaction.rpcLog
      else [] := by
  have hselects : ∀ log, selects encoding address sender fromBlock height (transaction.rpcLog log) =
      (isBatch c encoding sender log && decide (fromBlock ≤ transaction.block)) := by
    intro log
    simp only [selects, isBatch, Transaction.rpcLog, addressOf_addressText, haddress,
      Option.some.injEq, Option.any_some, hmined, decide_true, Bool.and_true]
  rw [Transaction.rpcLogs, List.filter_map]
  split
  · next hrecent =>
      have hsame : ∀ log ∈ transaction.logs,
          (selects encoding address sender fromBlock height ∘ transaction.rpcLog) log =
            isBatch c encoding sender log := by
        intro log _
        rw [Function.comp_apply, hselects, decide_eq_true hrecent, Bool.and_true]
      rw [List.filter_congr hsame]
  · next hearly =>
      rw [List.filter_eq_nil_iff.mpr, List.map_nil]
      intro log _ hselected
      rw [Function.comp_apply, hselects, decide_eq_false hearly, Bool.and_false] at hselected
      exact Bool.false_ne_true hselected

/-! ## Counting -/

/-- How many payments the wallet made in a transaction. -/
def WalletTransaction.payees (transaction : WalletTransaction c Body) : ℕ :=
  (transaction.calls.map fun call => call.batch.length).sum

/-- How many of them a fee was charged on. -/
def WalletTransaction.charged (transaction : WalletTransaction c Body) : ℕ :=
  (transaction.calls.map fun call => call.batch.countP fun payment =>
    feeOf call.before.storage.feeBps payment.amountIn ≠ 0).sum

variable (runtime) in
/-- All transfers of the contract's for the wallet in a transaction. -/
def WalletTransaction.pairs (transaction : WalletTransaction c Body) : List (String × String) :=
  transaction.calls.flatMap fun call => linePairs c runtime call.before.storage call.batch

variable (runtime) in
theorem pairs_length (transaction : WalletTransaction c Body) :
    (transaction.pairs runtime).length = transaction.payees + transaction.charged := by
  rw [WalletTransaction.pairs, WalletTransaction.payees, WalletTransaction.charged,
    List.length_flatMap, ← List.sum_map_add]
  exact congrArg List.sum (List.map_congr_left fun call _ => linePairs_length _ _)

theorem paid_length (hlogged : Logged c movements) (transaction : WalletTransaction c Body) :
    (transaction.calls.flatMap BatchCall.paid).length = transaction.payees := by
  rw [WalletTransaction.payees, List.length_flatMap]
  refine congrArg List.sum (List.map_congr_left fun call _ => ?_)
  rw [(call.hasLogs hlogged).paid, nets, List.length_map]

theorem payees_pos (hlogged : Logged c movements) {transaction : WalletTransaction c Body}
    (hpaid : transaction.calls ≠ []) : 0 < transaction.payees := by
  obtain ⟨call, rest, hcalls⟩ := List.exists_cons_of_ne_nil hpaid
  have hbatch := List.length_pos_of_ne_nil (call.hasLogs hlogged).nonempty
  rw [WalletTransaction.payees, hcalls, List.map_cons, List.sum_cons]
  omega

/-- What nothing is charged on is listed as it was paid. -/
theorem pairs_of_free (hlogged : Logged c movements) {transaction : WalletTransaction c Body}
    (hfree : ∀ call ∈ transaction.calls, ∀ payment ∈ call.batch,
      feeOf call.before.storage.feeBps payment.amountIn = 0) :
    transaction.pairs runtime = (transaction.calls.flatMap BatchCall.paid).map (written runtime) := by
  rw [WalletTransaction.pairs, List.map_flatMap]
  apply List.flatMap_congr
  intro call hcall
  rw [linePairs_of_free (hfree call hcall), (call.hasLogs hlogged).paid]

/-! ## What is listed for a log -/

theorem paymentOf_hash {contractAddress txHash : String} {timestampMs : ℕ}
    {log : RpcLogResult Body} :
    ∀ item ∈ paymentOf runtime decoders contractAddress txHash timestampMs log,
      item.txHash = txHash := by
  intro item hmem
  unfold paymentOf at hmem
  split at hmem
  · cases hmem
  · split at hmem
    · cases hmem
    · split at hmem
      · cases hmem
      · rw [List.mem_singleton.mp hmem]

theorem resolveEmployeePaymentsForLog_hash {log : RpcLogResult Body} {txHash tokenIn : String}
    {timestampMs totalAmountOut : ℕ} :
    ∀ item ∈ resolveEmployeePaymentsForLog runtime decoders node log txHash tokenIn timestampMs
      totalAmountOut, item.txHash = txHash := by
  intro item hmem
  unfold resolveEmployeePaymentsForLog at hmem
  simp only at hmem
  split at hmem
  · rw [List.mem_singleton.mp hmem]
    rfl
  · unfold receiptPayments at hmem
    split at hmem
    · obtain ⟨_, _, hmem⟩ := List.mem_flatMap.mp hmem
      exact paymentOf_hash item hmem
    · cases hmem

/-- Everything that is listed for a log is listed under its transaction. -/
theorem listed_hash {timestamps : List (ℕ × ℕ)} {log : RpcLogResult Body} :
    ∀ item ∈ listed decoders runtime node timestamps log, log.transactionHash = some item.txHash := by
  intro item hmem
  unfold listed rowOf at hmem
  split at hmem
  · next row hrow =>
      unfold readLog at hrow
      split at hrow
      · next txHash _ hhash _ =>
          split at hrow
          · cases hrow
            cases hmem
          · split at hrow
            · cases hrow
            · obtain ⟨tokenIn, -, hrow⟩ := except_bind_ok.mp hrow
              obtain ⟨tokenOut, -, hrow⟩ := except_bind_ok.mp hrow
              cases hrow
              rw [hhash, resolveEmployeePaymentsForLog_hash item hmem]
      · cases hrow
        cases hmem
  · cases hmem

/-- Where the receipt is shown, all transfers of the contract's in the transaction are listed. -/
theorem listed_answered (hruntime : runtime.Documented) (hencoding : encoding.Documented decoders)
    (hlogged : Logged c movements) (hself : wallet ≠ c.self)
    {transaction : WalletTransaction c Body} {further : List (Address × Body)}
    (hholds : transaction.Holds movements wallet encoding decoders further)
    (hpaid : transaction.calls ≠ []) (hnamed : transaction.hash ≠ "") {log : RpcLogResult Body}
    {routed : BatchPaymentRouted} (hlog : IsBatchLog c encoding transaction.hash log routed)
    (hanswer : node.getReceipt log = some (some transaction.rpcLogs)) (timestamps : List (ℕ × ℕ)) :
    ((listed decoders runtime node timestamps log).map TaskEmployeeBreakdownItem.pair).Perm
      (transaction.pairs runtime) := by
  obtain ⟨event, tokenIn, timestampMs, hrow⟩ := readLog_batch runtime node hencoding hnamed hlog
    timestamps
  have hcontract : runtime.toLowerCase log.address = addressText c.self := by
    rw [hlog.address]
    exact toLowerCase_of_addressOf hruntime (addressOf_addressText _)
  have hpayments : receiptPayments runtime decoders node log transaction.hash timestampMs =
      transaction.rpcLogs.flatMap
        (paymentOf runtime decoders (addressText c.self) transaction.hash timestampMs) := by
    rw [receiptPayments, hanswer, hcontract]
  have hperm := logPairs_perm runtime hencoding hlogged hself hholds hpaid
  rw [← @paymentOf_pairs _ _ _ _ _ hruntime hencoding _ transaction.hash timestampMs, ← hpayments] at hperm
  have hnonempty : receiptPayments runtime decoders node log transaction.hash timestampMs ≠ [] := by
    intro hempty
    rw [hempty, List.map_nil] at hperm
    have hcount : 0 = transaction.payees + transaction.charged :=
      hperm.length_eq.trans (pairs_length runtime transaction)
    have hsome := payees_pos hlogged hpaid
    omega
  rw [listed, rowOf, hrow]
  simp only [resolveEmployeePaymentsForLog]
  rw [if_neg hnonempty]
  exact hperm

omit [DecidableEq Hash] in
variable (runtime node) in
/-- Where no receipt is shown, one row stands for the whole batch. -/
theorem listed_unanswered (hencoding : encoding.Documented decoders) {hash : String}
    (hnamed : hash ≠ "") {log : RpcLogResult Body} {routed : BatchPaymentRouted}
    (hlog : IsBatchLog c encoding hash log routed)
    (hanswer : ∀ receipt, node.getReceipt log ≠ some (some receipt)) (timestamps : List (ℕ × ℕ)) :
    (listed decoders runtime node timestamps log).map TaskEmployeeBreakdownItem.pair =
      [("Multiple Recipients", toString routed.totalAmountOut)] := by
  obtain ⟨event, tokenIn, timestampMs, hrow⟩ := readLog_batch runtime node hencoding hnamed hlog
    timestamps
  have hpayments : receiptPayments runtime decoders node log hash timestampMs = [] := by
    unfold receiptPayments
    split
    · next receipt hreceipt => exact absurd hreceipt (hanswer receipt)
    · rfl
  rw [listed, rowOf, hrow]
  simp only [resolveEmployeePaymentsForLog]
  rw [if_pos hpayments]
  rfl

/-! ## The history -/

omit [DecidableEq Hash] in
theorem normalizeWalletAddress_ok {walletAddress : Option String} {text : String}
    (htrimmed : walletAddress.map trim = some text) (haddress : addressOf text = some wallet) :
    normalizeWalletAddress runtime walletAddress =
      .ok (checksumAddress runtime (addressText wallet)) := by
  unfold normalizeWalletAddress
  rw [htrimmed]
  split
  · next hnone => cases hnone
  · next hempty =>
      have hnone : addressOf "" = none := by decide +kernel
      rw [Option.some.inj hempty, hnone] at haddress
      cases haddress
  · next value _ hvalue =>
      rw [← Option.some.inj hvalue, getAddress_of_addressOf haddress]
      rfl

omit [DecidableEq Hash] in
theorem addressOf_checksum (address : Address) :
    addressOf (checksumAddress runtime (addressText address)) = some address := by
  have hget : getAddress runtime (addressText address) = _ :=
    getAddress_of_addressOf (addressOf_addressText address)
  rw [addressOf_getAddress hget, addressOf_addressText]

omit [DecidableEq Hash] in
theorem addressOf_aggregate : addressOf "Multiple Recipients" = none := by decide +kernel

/-- A log that the node selects is a batch of its transaction. -/
theorem selected_isBatchLog (hencoding : encoding.Documented decoders)
    (hlogged : Logged c movements) {address sender : String}
    (haddress : addressOf address = some c.self) (hsender : addressOf sender = some wallet)
    {transaction : WalletTransaction c Body} {further : List (Address × Body)}
    (hholds : transaction.Holds movements wallet encoding decoders further)
    (hmined : transaction.block ≤ height) {fromBlock : ℕ} {log : RpcLogResult Body}
    (hlog : log ∈ transaction.rpcLogs.filter (selects encoding address sender fromBlock height)) :
    ∃ routed, routed.sender = wallet ∧ IsBatchLog c encoding transaction.hash log routed ∧
      log = transaction.rpcLog (c.self, encoding.event (.batchPaymentRouted routed)) ∧
      (c.self, encoding.event (.batchPaymentRouted routed)) ∈ transaction.logs := by
  rw [rpcLogs_selected encoding sender haddress hmined] at hlog
  split at hlog
  · obtain ⟨entry, hentry, rfl⟩ := List.mem_map.mp hlog
    obtain ⟨routeds, -, hfits, hperm⟩ := batchLogs_perm hencoding hlogged hsender hholds
    obtain ⟨routed, hrouted, rfl⟩ := List.mem_map.mp (hperm.mem_iff.mp hentry)
    exact ⟨routed, (hfits routed hrouted).2,
      ⟨rfl, rfl, rfl, ⟨_, rfl⟩, (hfits routed hrouted).1⟩, rfl, (List.mem_filter.mp hentry).1⟩
  · cases hlog

variable (runtime) in
/-- The history is made; for each transaction it lists what its selected logs give. -/
theorem getWalletPayrollHistory_lists (hencoding : encoding.Documented decoders)
    (hlogged : Logged c movements) (hchain : IsChain movements chain height wallet encoding decoders)
    (hnode : node.Documented chain height encoding) {config : HistoryConfig}
    (hconfig : addressOf (trimmedOr config.contractAddress
      (trimmedOr config.wizpayAddress DEFAULT_WIZPAY_ADDRESS)) = some c.self)
    {walletAddress : Option String} {text : String} (htrimmed : walletAddress.map trim = some text)
    (hwallet : addressOf text = some wallet) :
    ∃ history timestamps, getWalletPayrollHistory runtime decoders node config walletAddress =
        .ok history ∧
      ∀ transaction ∈ chain,
        (history.employeePayments.filter (·.txHash = transaction.hash)).Perm
          ((transaction.rpcLogs.filter (selects encoding
              (checksumAddress runtime (addressText c.self))
              (checksumAddress runtime (addressText wallet)) PAYROLL_HISTORY_FROM_BLOCK height)).flatMap
            (listed decoders runtime node timestamps)) := by
  let address := checksumAddress runtime (addressText c.self)
  let sender := checksumAddress runtime (addressText wallet)
  have haddress : addressOf address = some c.self := addressOf_checksum c.self
  have hsender : addressOf sender = some wallet := addressOf_checksum wallet
  have hhistory : getHistoryAddress runtime config = .ok address := by
    rw [getHistoryAddress, checksummed, getAddress_of_addressOf hconfig]
    rfl
  obtain ⟨rawLogs, hfetched, hperm⟩ :=
    fetchPayrollLogs_perm hnode address sender PAYROLL_HISTORY_FROM_BLOCK
  -- every log that is read is a batch of the wallet's, and its block is known
  have hraw : ∀ log ∈ rawLogs, ∃ transaction ∈ chain, ∃ routed,
      log.blockNumber = some transaction.block ∧
        IsBatchLog c encoding transaction.hash log routed := by
    intro log hlog
    obtain ⟨hmem, hselected⟩ := List.mem_filter.mp (hperm.mem_iff.mp hlog)
    obtain ⟨transaction, htransaction, hmem⟩ := List.mem_flatMap.mp hmem
    obtain ⟨further, hholds⟩ := hchain.holds transaction htransaction
    obtain ⟨routed, -, hbatch, hsame, -⟩ := selected_isBatchLog hencoding hlogged haddress hsender hholds
      (hchain.mined transaction htransaction) (List.mem_filter.mpr ⟨hmem, hselected⟩)
    exact ⟨transaction, htransaction, routed, by rw [hsame]; rfl, hbatch⟩
  have htimestamps : ∃ timestamps, resolveBlockTimestamps node rawLogs = .ok timestamps := by
    refine ⟨_, mapM_ok (g := fun block =>
      (block, toDouble (toDouble ((node.getTimestamp block).getD 0) * 1000))) ?_⟩
    intro block hblock
    obtain ⟨log, hlog, hblock⟩ := List.mem_filterMap.mp hblock
    obtain ⟨transaction, htransaction, _, hmined, -⟩ := hraw log hlog
    obtain rfl := Option.some.inj (hblock.symm.trans hmined)
    obtain ⟨timestamp, htimestamp⟩ := Option.isSome_iff_exists.mp (hnode.timestamp _ htransaction)
    rw [htimestamp]
    rfl
  obtain ⟨timestamps, htimestamps⟩ := htimestamps
  have hrows : rawLogs.mapM (readLog runtime decoders node timestamps) =
      .ok (rawLogs.map (rowOf decoders runtime node timestamps)) := by
    apply mapM_ok
    intro log hlog
    obtain ⟨transaction, htransaction, routed, -, hbatch⟩ := hraw log hlog
    obtain ⟨event, tokenIn, timestampMs, hrow⟩ := readLog_batch runtime node hencoding
      (hchain.named transaction htransaction) hbatch timestamps
    rw [rowOf, hrow]
  let rows := rawLogs.map (rowOf decoders runtime node timestamps)
  let history : TaskPayrollHistoryResponse := {
    walletAddress := sender
    events := (rows.flatMap Prod.fst).mergeSort fun left right =>
      right.blockNumber ≤ left.blockNumber
    employeePayments := (rows.flatMap Prod.snd).mergeSort fun left right =>
      right.date ≤ left.date }
  have hreturned : getWalletPayrollHistory runtime decoders node config walletAddress =
      .ok history := by
    unfold getWalletPayrollHistory
    rw [normalizeWalletAddress_ok htrimmed hwallet, hhistory]
    refine except_bind_ok.mpr ⟨sender, rfl, except_bind_ok.mpr ⟨address, rfl, ?_⟩⟩
    simp only [hnode.blockNumber]
    exact except_bind_ok.mpr ⟨rawLogs, hfetched, except_bind_ok.mpr ⟨timestamps, htimestamps,
      except_bind_ok.mpr ⟨rows, hrows, rfl⟩⟩⟩
  have hlisted : history.employeePayments.Perm
      (rawLogs.flatMap (listed decoders runtime node timestamps)) := by
    refine (List.mergeSort_perm _ _).trans ?_
    rw [List.flatMap_map]
    exact .refl _
  refine ⟨history, timestamps, hreturned, ?_⟩
  intro transaction htransaction
  have hnamed : ∀ log ∈ rawLogs, ∀ item ∈ listed decoders runtime node timestamps log,
      decide (item.txHash = transaction.hash) =
        decide (log.transactionHash = some transaction.hash) := by
    intro log _ item hitem
    simp only [listed_hash item hitem, Option.some.injEq]
  have hlogs : (rpcLogs chain).filter (·.transactionHash = some transaction.hash) =
      transaction.rpcLogs := by
    have hsources : ∀ other ∈ chain, ∀ log ∈ other.rpcLogs,
        decide (log.transactionHash = some transaction.hash) =
          decide (other.hash = transaction.hash) := by
      intro other _ log hlog
      obtain ⟨_, _, rfl⟩ := List.mem_map.mp hlog
      simp only [Transaction.rpcLog, Option.some.injEq]
    rw [rpcLogs, filter_flatMap_of hsources, filter_name hchain.hashes htransaction,
      List.flatMap_singleton]
  have hselected := (hlisted.filter fun item => item.txHash = transaction.hash)
  rw [filter_flatMap_of hnamed] at hselected
  refine hselected.trans (List.Perm.flatMap_right _ ((hperm.filter _).trans ?_))
  rw [List.filter_comm, hlogs]

/-! ## Exactness -/

variable (runtime) in
/-- The history has one entry for each payment of a transaction, with its recipient and net
amount, and nothing else. -/
def ListsExactly (history : TaskPayrollHistoryResponse) (transaction : WalletTransaction c Body) :
    Prop :=
  ((history.employeePayments.filter (·.txHash = transaction.hash)).map
    TaskEmployeeBreakdownItem.pair).Perm
      ((transaction.calls.flatMap BatchCall.paid).map (written runtime))

/-- One batch, free of fees, in a block that is read, whose receipt the node shows. -/
structure ReadsPlainly (node : Node Body) (encoding : Encoding Hash Body) (wallet : Address)
    (transaction : WalletTransaction c Body) : Prop where
  single : transaction.calls.length = 1
  free : ∀ call ∈ transaction.calls, ∀ payment ∈ call.batch,
    payment.amountIn * call.before.storage.feeBps < 10000
  recent : PAYROLL_HISTORY_FROM_BLOCK ≤ transaction.block
  answered : ∀ routed : BatchPaymentRouted, routed.sender = wallet →
    (c.self, encoding.event (.batchPaymentRouted routed)) ∈ transaction.logs →
      node.getReceipt (transaction.rpcLog (c.self, encoding.event (.batchPaymentRouted routed))) =
        some (some transaction.rpcLogs)

theorem feeOf_eq_zero {feeBps amount : ℕ} : feeOf feeBps amount = 0 ↔ amount * feeBps < 10000 := by
  rw [feeOf, Nat.div_eq_zero_iff]
  omega

theorem free_of_charged {transaction : WalletTransaction c Body} (hcharged : transaction.charged = 0) :
    ∀ call ∈ transaction.calls, ∀ payment ∈ call.batch,
      feeOf call.before.storage.feeBps payment.amountIn = 0 := by
  intro call hcall payment hpayment
  have hnone := List.sum_eq_zero_iff.mp hcharged _ (List.mem_map_of_mem hcall)
  have hfee := List.countP_eq_zero.mp hnone payment hpayment
  simpa using hfee

theorem listsExactly_iff (hruntime : runtime.Documented) (hencoding : encoding.Documented decoders)
    (hlogged : Logged c movements) (hself : wallet ≠ c.self)
    (hchain : IsChain movements chain height wallet encoding decoders)
    (hnode : node.Documented chain height encoding) {history : TaskPayrollHistoryResponse}
    {timestamps : List (ℕ × ℕ)} {address sender : String} (haddress : addressOf address = some c.self)
    (hsender : addressOf sender = some wallet) {transaction : WalletTransaction c Body}
    (hmem : transaction ∈ chain) (hpaid : transaction.calls ≠ [])
    (hlists : (history.employeePayments.filter (·.txHash = transaction.hash)).Perm
      ((transaction.rpcLogs.filter
        (selects encoding address sender PAYROLL_HISTORY_FROM_BLOCK height)).flatMap
          (listed decoders runtime node timestamps))) :
    ListsExactly runtime history transaction ↔ ReadsPlainly node encoding wallet transaction := by
  have hmined := hchain.mined transaction hmem
  have hnamed := hchain.named transaction hmem
  obtain ⟨further, hholds⟩ := hchain.holds transaction hmem
  obtain ⟨routeds, hlength, hfits, hbatches⟩ := batchLogs_perm hencoding hlogged hsender hholds
  have hselected := rpcLogs_selected encoding sender haddress hmined PAYROLL_HISTORY_FROM_BLOCK
  have hpayees := payees_pos hlogged hpaid
  have hpairs := hlists.map TaskEmployeeBreakdownItem.pair
  generalize hread : transaction.rpcLogs.filter (selects encoding address sender
    PAYROLL_HISTORY_FROM_BLOCK height) = read at hpairs hselected
  have hbatch : ∀ log ∈ read, ∃ routed, routed.sender = wallet ∧
      IsBatchLog c encoding transaction.hash log routed ∧
      log = transaction.rpcLog (c.self, encoding.event (.batchPaymentRouted routed)) ∧
      (c.self, encoding.event (.batchPaymentRouted routed)) ∈ transaction.logs := by
    intro log hlog
    rw [← hread] at hlog
    exact selected_isBatchLog hencoding hlogged haddress hsender hholds hmined hlog
  constructor
  · intro hexact
    have hentries := hpairs.symm.trans hexact
    have hcount : (read.flatMap (listed decoders runtime node timestamps)).length =
        transaction.payees := by
      have hlengths := hentries.length_eq
      rw [List.length_map, List.length_map, paid_length hlogged] at hlengths
      exact hlengths
    have hrecent : PAYROLL_HISTORY_FROM_BLOCK ≤ transaction.block := by
      by_contra hearly
      rw [if_neg hearly] at hselected
      rw [hselected, List.flatMap_nil, List.length_nil] at hcount
      omega
    rw [if_pos hrecent] at hselected
    have hshown : ∀ log ∈ read, node.getReceipt log = some (some transaction.rpcLogs) := by
      intro log hlog
      obtain ⟨routed, -, hisBatch, hsame, hlogs⟩ := hbatch log hlog
      by_contra hmissing
      -- an aggregate row names nobody
      have hrow := listed_unanswered runtime node hencoding hnamed hisBatch
        (fun receipt hreceipt => hmissing (by
          have hwhole := hnode.receipt transaction hmem log
            (by rw [hsame]; exact List.mem_map_of_mem hlogs) receipt hreceipt
          rw [hreceipt, hwhole])) timestamps
      have haggregate : ("Multiple Recipients", toString routed.totalAmountOut) ∈
          (read.flatMap (listed decoders runtime node timestamps)).map
            TaskEmployeeBreakdownItem.pair := by
        rw [List.map_flatMap]
        exact List.mem_flatMap.mpr ⟨log, hlog, by rw [hrow]; exact List.mem_singleton_self _⟩
      obtain ⟨payment, -, hwritten⟩ := List.mem_map.mp (hentries.mem_iff.mp haggregate)
      rw [written, Prod.mk.injEq] at hwritten
      have hsome : addressOf (checksumAddress runtime (addressText payment.1)) = some payment.1 :=
        addressOf_checksum payment.1
      rw [hwritten.1, addressOf_aggregate] at hsome
      exact absurd hsome.symm (Option.some_ne_none _)
    have hlisted : ∀ log ∈ read, (listed decoders runtime node timestamps log).length =
        transaction.payees + transaction.charged := by
      intro log hlog
      obtain ⟨routed, -, hisBatch, -, -⟩ := hbatch log hlog
      have hall := listed_answered hruntime hencoding hlogged hself hholds hpaid hnamed hisBatch
        (hshown log hlog) timestamps
      rw [← pairs_length runtime, ← hall.length_eq, List.length_map]
    have hbatchCount : read.length = transaction.calls.length := by
      rw [hselected, List.length_map, hbatches.length_eq, List.length_map, hlength]
    have hproduct : transaction.payees =
        transaction.calls.length * (transaction.payees + transaction.charged) := by
      rw [List.length_flatMap, List.map_congr_left hlisted, List.map_const',
        List.sum_replicate_nat, hbatchCount] at hcount
      exact hcount.symm
    have hcalls := List.length_pos_of_ne_nil hpaid
    have hsingle : transaction.calls.length = 1 := by
      by_contra hmany
      have htwo : 2 ≤ transaction.calls.length := by omega
      have hle := Nat.mul_le_mul_right (transaction.payees + transaction.charged) htwo
      omega
    have hcharged : transaction.charged = 0 := by
      rw [hsingle] at hproduct
      omega
    refine ⟨hsingle, ?_, hrecent, ?_⟩
    · intro call hcall payment hpayment
      exact feeOf_eq_zero.mp (free_of_charged hcharged call hcall payment hpayment)
    · intro routed hrouted hlogs
      apply hshown
      rw [hselected]
      refine List.mem_map_of_mem (List.mem_filter.mpr ⟨hlogs, ?_⟩)
      rw [isBatch, decide_eq_true rfl, Bool.true_and]
      exact (hencoding.isBatchOf_event sender wallet _ hsender).mpr ⟨routed, rfl, hrouted⟩
  · intro hplain
    rw [if_pos hplain.recent] at hselected
    have hone : read.length = 1 := by
      rw [hselected, List.length_map, hbatches.length_eq, List.length_map, hlength, hplain.single]
    obtain ⟨log, rfl⟩ := List.length_eq_one_iff.mp hone
    obtain ⟨routed, hrouted, hlog, hsame, hlogs⟩ := hbatch log List.mem_cons_self
    have hanswer := hplain.answered routed hrouted hlogs
    rw [← hsame] at hanswer
    rw [List.flatMap_singleton] at hpairs
    have hshown := listed_answered hruntime hencoding hlogged hself hholds hpaid hnamed hlog hanswer
      timestamps
    rw [pairs_of_free hlogged fun call hcall payment hpayment =>
      feeOf_eq_zero.mpr (hplain.free call hcall payment hpayment)] at hshown
    exact hpairs.trans hshown

def payrollAddress : Address := 0x77AC7Cb6507D404b5530fC03e3D39BAaEdE10C34

def payrollUsdc : Address := 0x3600000000000000000000000000000000000000

/-- The contract at its default address, on a chain that keeps the logs of its tokens. -/
def examplePayroll : Contract Unit RecordedChain where
  self := payrollAddress
  chainid := 5042
  canonicalUsdc := payrollUsdc
  keccak := ⟨fun _ => (), fun _ => ()⟩
  ext := {
    balanceOf := fun chain token account => chain.ledgers.balance token account
    nativeBalance := fun chain account => chain.ledgers.native account
    receiveValue := fun _ _ => some
    safeTransfer := fun token target amount =>
      record payrollAddress (Ledgers.moveToken token payrollAddress target amount)
        [⟨token, payrollAddress, target, amount⟩]
    safeTransferFrom := fun token source target amount =>
      record payrollAddress (Ledgers.moveToken token source target amount)
        [⟨token, source, target, amount⟩]
    forceApprove := fun _ _ _ => some
    permit2Approve := fun _ _ _ _ => some
    callValue := fun _ _ => some
    execute := fun _ => some }

theorem record_reports {effect : Ledgers → Option Ledgers} {new : List Movement}
    {before after : State Unit RecordedChain}
    (hrecord : record payrollAddress effect new before = some after) :
    Reports RecordedChain.movements before after new := by
  unfold record at hrecord
  split at hrecord
  · obtain ⟨ledgers, -, rfl⟩ := Option.map_eq_some_iff.mp hrecord
    exact ⟨rfl, rfl, rfl⟩
  · cases hrecord

theorem examplePayroll_logged : Logged examplePayroll RecordedChain.movements where
  safeTransfer := fun hrun => record_reports hrun
  safeTransferFrom := fun hrun => record_reports hrun

/-- Unpaused, with fees for account 7; account 9 holds 10 000. -/
def examplePayrollState (feeBps : ℕ) : State Unit RecordedChain where
  storage := { owner := 7, feeBps, feeCollector := 7, usedReferenceHashes := fun _ => false }
  paused := false
  entered := false
  events := []
  chain := {
    ledgers := {
      native := 0
      balance := fun _ => Pi.single 9 10000
      allowance := fun _ _ _ => 0
      permit2Allowance := fun _ _ _ => (0, 0) }
    movements := [] }

/-- Account 9 pays account 20. -/
theorem examplePayroll_succeeds {feeBps : ℕ} (hfee : feeBps = 0 ∨ feeBps = 100) :
    (batchRouteAndPay examplePayroll ⟨9, 0, 0⟩ payrollUsdc [payrollUsdc] [20] [1000] [0]
      ⟨#[80, 49]⟩).succeeds (examplePayrollState feeBps) = true := by
  rcases hfee with rfl | rfl
  · decide +kernel
  · decide +kernel

theorem exampleCall_exists {feeBps : ℕ} (hfee : feeBps = 0 ∨ feeBps = 100) :
    ∃ call : BatchCall examplePayroll, call.msg.sender = 9 ∧ call.batch = [⟨payrollUsdc, 20, 1000, 0⟩] ∧
      call.before.storage.feeBps = feeBps := by
  obtain ⟨totalOut, after, hrun⟩ := Call.succeeds_iff.mp (examplePayroll_succeeds hfee)
  exact ⟨⟨_, _, _, _, _, _, _, _, _, _, hrun⟩, rfl, rfl, rfl⟩

abbrev ExampleBody : Type := Event Unit ⊕ Movement

def exampleRuntime : Runtime := .ofTable [] [
  ("0000000000000000000000000000000000000009",
    "d9141c717dd7a86a66106801d589b72b38e8152f8cb289988183d5fe204795b7"),
  ("0000000000000000000000000000000000000014",
    "a93b6f6a675fd9c5458cdf29601a7faa51dbc8d83484f639d0aef667635814fc"),
  ("0000000000000000000000000000000000000007",
    "cf349718046eae4e15175eb465a5db418c9e588da044225307759d37ef48c992"),
  ("3600000000000000000000000000000000000000",
    "0ca457f82cf2044d7b002be71b521ecbfbac7c70311200ae84afe62babf9e900"),
  ("77ac7cb6507d404b5530fc03e3d39baaede10c34",
    "7b8c5d3a72ed5a37d25c3aa81eac99e7a1e50972045e1c9ebb1662d06b8f23be")]

def exampleEncoding : Encoding Unit ExampleBody where
  event := .inl
  transfer := .inr
  isBatchOf := fun sender body =>
    match body with
    | .inl (.batchPaymentRouted args) => addressOf sender = some args.sender
    | _ => false

def exampleDecoders : Decoders ExampleBody where
  batch := fun body =>
    match body with
    | .inl (.batchPaymentRouted args) => some {
        tokenIn := checksumAddress exampleRuntime (addressText args.tokenIn)
        tokenOut := checksumAddress exampleRuntime (addressText args.tokenOut)
        totalAmountIn := args.totalAmountIn
        totalAmountOut := args.totalAmountOut
        totalFees := args.totalFees
        recipientCount := args.recipientCount
        referenceId := String.ofList (args.referenceId.toList.map fun byte => Char.ofNat byte.toNat) }
    | _ => none
  transfer := fun body =>
    match body with
    | .inr movement => some {
        source := checksumAddress exampleRuntime (addressText movement.source)
        target := checksumAddress exampleRuntime (addressText movement.target)
        value := movement.amount }
    | .inl _ => none

theorem exampleEncoding_documented : exampleEncoding.Documented exampleDecoders where
  batch := fun _ _ => ⟨_, rfl, addressOf_checksum _, addressOf_checksum _, rfl⟩
  transfer := fun _ _ => ⟨_, rfl, addressOf_checksum _, addressOf_checksum _, rfl⟩
  addresses := by
    intro body args hdecoded
    cases body with
    | inl event => cases hdecoded
    | inr movement =>
        obtain rfl := Option.some.inj hdecoded
        have hvalid (address : Address) : isHexText 40
            (checksumAddress exampleRuntime (addressText address)) = true := by
          rw [← addressOf_isSome, addressOf_checksum]
          rfl
        exact ⟨hvalid _, hvalid _⟩
  event := fun _ => rfl
  isBatchOf_event := by
    intro sender payer event hsender
    cases event with
    | batchPaymentRouted args => simp [exampleEncoding, hsender, eq_comm]
    | _ => simp [exampleEncoding]
  isBatchOf_transfer := fun _ _ => rfl

def exampleHash : String := "0x8c5be1e5ebec7d5bd14f71427d1e84f3dd0314c0f7b2291e5b200ac8c7c3b925"

def exampleBlock : ℕ := 35790001

/-- The transaction of one call. -/
def exampleTransaction (call : BatchCall examplePayroll) :
    WalletTransaction examplePayroll ExampleBody where
  hash := exampleHash
  block := exampleBlock
  logs := call.logs RecordedChain.movements exampleEncoding
  calls := [call]

/-- A node that has seen one transaction. -/
def exampleNode (transaction : WalletTransaction examplePayroll ExampleBody) : Node ExampleBody where
  getBlockNumber := some 35790005
  getLogs := fun address sender fromBlock toBlock =>
    some (transaction.rpcLogs.filter (selects exampleEncoding address sender fromBlock toBlock))
  getTimestamp := fun _ => some 1790000000
  getReceipt := fun _ => some (some transaction.rpcLogs)

theorem exampleChain {call : BatchCall examplePayroll} (hcaller : call.msg.sender = 9) :
    IsChain RecordedChain.movements [exampleTransaction call] 35790005 9 exampleEncoding
      exampleDecoders where
  hashes := List.pairwise_singleton _ _
  named := by
    intro transaction hmem
    rw [List.mem_singleton.mp hmem]
    exact show exampleHash ≠ "" by decide
  mined := by
    intro transaction hmem
    rw [List.mem_singleton.mp hmem]
    exact show exampleBlock ≤ 35790005 by decide
  holds := by
    intro transaction hmem
    rw [List.mem_singleton.mp hmem]
    refine ⟨[], ?_, ?_, ?_, ?_⟩
    · intro other hother
      rw [List.mem_singleton.mp hother, hcaller]
    · simp [exampleTransaction]
    · exact fun _ hlog => absurd hlog List.not_mem_nil
    · exact fun _ _ hlog => absurd hlog List.not_mem_nil

theorem exampleNode_documented (call : BatchCall examplePayroll) :
    (exampleNode (exampleTransaction call)).Documented [exampleTransaction call] 35790005
      exampleEncoding where
  blockNumber := rfl
  logs := by
    intro address sender fromBlock toBlock
    rw [rpcLogs, List.flatMap_singleton]
    rfl
  timestamp := fun _ _ => rfl
  receipt := by
    intro transaction hmem log _ receipt hreceipt
    rw [List.mem_singleton.mp hmem]
    exact (Option.some.inj (Option.some.inj hreceipt)).symm

/-- Nothing is configured but the default address. -/
def exampleConfig : HistoryConfig := ⟨none, none⟩

theorem exampleConfig_reads : addressOf (trimmedOr exampleConfig.contractAddress
    (trimmedOr exampleConfig.wizpayAddress DEFAULT_WIZPAY_ADDRESS)) = some examplePayroll.self := by
  decide +kernel

theorem exampleWallet_trimmed : (some (addressText 9)).map trim = some (addressText 9) := by
  decide +kernel

end WizPay.PayrollHistory
