import WizPay.MainnetV2.Logs
import WizPay.PayrollHistory.Service

/-!
# What the history lists

A chain holds transactions, and some of them batches of one wallet. What the history lists
for a transaction comes from that transaction alone: once for each of its batches, every
transfer that the contract made in it.
-/

namespace WizPay.PayrollHistory

open Backend Evm MainnetV2

/-! ## The chain -/

structure Transaction (Body : Type) where
  hash : String
  block : ℕ
  logs : List (Address × Body)

variable {Hash χ Body : Type} [DecidableEq Hash] {c : Contract Hash χ}
  {movements : χ → List Movement}

/-- A log of a transaction, as the node gives it. -/
def Transaction.rpcLog (transaction : Transaction Body) (log : Address × Body) : RpcLogResult Body :=
  ⟨addressText log.1, log.2, some transaction.block, some transaction.hash⟩

def Transaction.rpcLogs (transaction : Transaction Body) : List (RpcLogResult Body) :=
  transaction.logs.map transaction.rpcLog

/-- How events and transfers are put into topics and data, and which of them
`encodeEventTopics` asks for. -/
structure Encoding (Hash Body : Type) where
  event : Event Hash → Body
  transfer : Movement → Body
  isBatchOf : String → Body → Bool

/-- What is documented of the encoding and of viem's decoders. -/
structure Encoding.Documented (encoding : Encoding Hash Body) (decoders : Decoders Body) : Prop where
  batch : ∀ args : BatchPaymentRouted, args.Fits → ∃ decoded,
    decoders.batch (encoding.event (.batchPaymentRouted args)) = some decoded ∧
      addressOf decoded.tokenIn = some args.tokenIn ∧
      addressOf decoded.tokenOut = some args.tokenOut ∧
      decoded.totalAmountOut = args.totalAmountOut
  transfer : ∀ movement : Movement, movement.amount < uint256Bound → ∃ decoded,
    decoders.transfer (encoding.transfer movement) = some decoded ∧
      addressOf decoded.source = some movement.source ∧
      addressOf decoded.target = some movement.target ∧ decoded.value = movement.amount
  addresses : ∀ body args, decoders.transfer body = some args →
    isHexText 40 args.source = true ∧ isHexText 40 args.target = true
  event : ∀ event, decoders.transfer (encoding.event event) = none
  isBatchOf_event : ∀ sender payer event, addressOf sender = some payer →
    (encoding.isBatchOf sender (encoding.event event) = true ↔
      ∃ args, event = .batchPaymentRouted args ∧ args.sender = payer)
  isBatchOf_transfer : ∀ sender movement, encoding.isBatchOf sender (encoding.transfer movement) = false

/-- A successful call of `batchRouteAndPay`. -/
structure BatchCall (c : Contract Hash χ) where
  msg : Msg
  tokenIn : Address
  tokenOuts : List Address
  recipients : List Address
  amountsIn : List ℕ
  minAmountsOut : List ℕ
  referenceId : ByteArray
  before : State Hash χ
  after : State Hash χ
  totalOut : ℕ
  run : (batchRouteAndPay c msg tokenIn tokenOuts recipients amountsIn minAmountsOut
    referenceId).run before = .ok (totalOut, after)

namespace BatchCall

variable (call : BatchCall c)

def batch : List Payment :=
  payments call.tokenOuts call.recipients call.amountsIn call.minAmountsOut

def events : List (Event Hash) := call.after.events.drop call.before.events.length

/-- The recipients and net amounts of the direct payments it reported. -/
def paid : List (Address × ℕ) :=
  (directPayments call.events).map fun args => (args.recipient, args.netAmount)

variable (movements) in
def transfers : List Movement :=
  (movements call.after.chain).drop (movements call.before.chain).length

variable (movements) in
/-- Its own logs and those of the token. -/
def logs (encoding : Encoding Hash Body) : List (Address × Body) :=
  (call.events.map fun event => (c.self, encoding.event event)) ++
    (call.transfers movements).map fun movement => (movement.emitter, encoding.transfer movement)

end BatchCall

/-- A transaction with the batches that one wallet paid in it. -/
structure WalletTransaction (c : Contract Hash χ) (Body : Type) extends Transaction Body where
  calls : List (BatchCall c)

variable (movements) in
/-- The logs of a transaction are those of the wallet's batches, and others: no batch of the
wallet, and, where the wallet paid, no transfer of the contract's. -/
structure WalletTransaction.Holds (transaction : WalletTransaction c Body) (wallet : Address)
    (encoding : Encoding Hash Body) (decoders : Decoders Body) (further : List (Address × Body)) :
    Prop where
  sender : ∀ call ∈ transaction.calls, call.msg.sender = wallet
  logs : transaction.logs.Perm
    (transaction.calls.flatMap (BatchCall.logs movements · encoding) ++ further)
  noBatch : ∀ log ∈ further, log.1 = c.self → ∀ sender, addressOf sender = some wallet →
    encoding.isBatchOf sender log.2 = false
  noTransfer : transaction.calls ≠ [] → ∀ log ∈ further, ∀ args,
    decoders.transfer log.2 = some args → addressOf args.source ≠ some c.self

variable (movements) in
/-- A chain of transactions up to a block. -/
structure IsChain (chain : List (WalletTransaction c Body)) (height : ℕ) (wallet : Address)
    (encoding : Encoding Hash Body) (decoders : Decoders Body) : Prop where
  hashes : (chain.map (·.hash)).Nodup
  named : ∀ transaction ∈ chain, transaction.hash ≠ ""
  mined : ∀ transaction ∈ chain, transaction.block ≤ height
  holds : ∀ transaction ∈ chain, ∃ further,
    transaction.Holds movements wallet encoding decoders further

/-- The logs of a chain, as the node gives them. -/
def rpcLogs (chain : List (WalletTransaction c Body)) : List (RpcLogResult Body) :=
  chain.flatMap fun transaction => transaction.rpcLogs

/-- What `eth_getLogs` selects. -/
def selects (encoding : Encoding Hash Body) (address sender : String) (fromBlock toBlock : ℕ)
    (log : RpcLogResult Body) : Bool :=
  addressOf log.address = addressOf address && encoding.isBatchOf sender log.body &&
    log.blockNumber.any fun block => fromBlock ≤ block && block ≤ toBlock

/-- What is documented of the node. A receipt may be missing, but not another one. -/
structure Node.Documented (node : Node Body) (chain : List (WalletTransaction c Body)) (height : ℕ)
    (encoding : Encoding Hash Body) : Prop where
  blockNumber : node.getBlockNumber = some height
  logs : ∀ address sender fromBlock toBlock, node.getLogs address sender fromBlock toBlock =
    some ((rpcLogs chain).filter (selects encoding address sender fromBlock toBlock))
  timestamp : ∀ transaction ∈ chain, (node.getTimestamp transaction.block).isSome
  receipt : ∀ transaction ∈ chain, ∀ log ∈ transaction.rpcLogs, ∀ receipt,
    node.getReceipt log = some (some receipt) → receipt = transaction.rpcLogs

/-! ## The logs that are read -/

variable {encoding : Encoding Hash Body} {decoders : Decoders Body} {runtime : Runtime}
  {node : Node Body} {chain : List (WalletTransaction c Body)} {height : ℕ}

omit [DecidableEq Hash] in
/-- Consecutive ranges of blocks select what the whole range selects. -/
theorem selects_split {address sender : String} {first middle last : ℕ} (hfirst : first ≤ middle + 1)
    (hlast : middle ≤ last) (logs : List (RpcLogResult Body)) :
    (logs.filter (selects encoding address sender first middle) ++
      logs.filter (selects encoding address sender (middle + 1) last)).Perm
        (logs.filter (selects encoding address sender first last)) := by
  let early (log : RpcLogResult Body) : Bool := log.blockNumber.any fun block => block ≤ middle
  have hparts : ∀ log, selects encoding address sender first middle log =
        (early log && selects encoding address sender first last log) ∧
      selects encoding address sender (middle + 1) last log =
        (!early log && selects encoding address sender first last log) := by
    intro log
    unfold selects
    generalize (decide (addressOf log.address = addressOf address) &&
      encoding.isBatchOf sender log.body) = wanted
    cases wanted with
    | false => simp
    | true =>
        cases hblock : log.blockNumber with
        | none => simp
        | some block =>
            simp only [early, hblock, Option.any_some, Bool.true_and]
            grind
  have hearly : logs.filter (selects encoding address sender first middle) =
      (logs.filter (selects encoding address sender first last)).filter early := by
    rw [List.filter_filter]
    exact List.filter_congr fun log _ => (hparts log).1
  have hlate : logs.filter (selects encoding address sender (middle + 1) last) =
      (logs.filter (selects encoding address sender first last)).filter (!early ·) := by
    rw [List.filter_filter]
    exact List.filter_congr fun log _ => (hparts log).2
  rw [hearly, hlate]
  exact List.filter_append_perm early _

theorem fetchPayrollLogs_perm (hnode : node.Documented chain height encoding)
    (address sender : String) (fromBlock : ℕ) :
    ∃ logs, fetchPayrollLogs node address sender height fromBlock = .ok logs ∧
      logs.Perm ((rpcLogs chain).filter (selects encoding address sender fromBlock height)) := by
  induction hgap : height + 1 - fromBlock using Nat.strong_induction_on generalizing fromBlock with
  | _ gap ih =>
      rw [fetchPayrollLogs]
      by_cases hbehind : fromBlock ≤ height
      · rw [if_pos hbehind]
        let toBlock := min (fromBlock + PAYROLL_HISTORY_CHUNK_SIZE) height
        have hlast : toBlock ≤ height := Nat.min_le_right _ _
        have hfirst : fromBlock ≤ toBlock := Nat.le_min.mpr ⟨Nat.le_add_right _ _, hbehind⟩
        obtain ⟨later, hlater, hperm⟩ := ih (height + 1 - (toBlock + 1)) (by omega) (toBlock + 1) rfl
        refine ⟨(rpcLogs chain).filter (selects encoding address sender fromBlock toBlock) ++ later,
          ?_, ?_⟩
        · simp only [hnode.logs]
          rw [show min (fromBlock + PAYROLL_HISTORY_CHUNK_SIZE) height = toBlock from rfl, hlater]
          rfl
        · exact (hperm.append_left _).trans (selects_split (by omega) hlast _)
      · rw [if_neg hbehind]
        refine ⟨[], rfl, ?_⟩
        rw [List.filter_eq_nil_iff.mpr]
        intro log hmem hselected
        unfold selects at hselected
        cases hblock : log.blockNumber with
        | none => simp [hblock] at hselected
        | some block =>
            simp only [hblock, Option.any_some, Bool.and_eq_true, decide_eq_true_eq] at hselected
            omega

/-! ## The rows of the logs -/

/-- What a loop that never throws collects. -/
theorem mapM_ok {α β ε : Type} {f : α → Except ε β} {g : α → β} {items : List α}
    (hreturns : ∀ item ∈ items, f item = .ok (g item)) : items.mapM f = .ok (items.map g) := by
  induction items with
  | nil => rfl
  | cons item rest ih =>
      rw [List.mapM_cons, hreturns item List.mem_cons_self,
        ih fun other hother => hreturns other (List.mem_cons_of_mem _ hother)]
      rfl

/-- A filter of what sources give is one of the sources, where all that a source gives passes
or fails with it. -/
theorem filter_flatMap_of {α β : Type} {sources : List α} {gives : α → List β} {p : β → Bool}
    {q : α → Bool} (hsame : ∀ source ∈ sources, ∀ given ∈ gives source, p given = q source) :
    (sources.flatMap gives).filter p = (sources.filter q).flatMap gives := by
  induction sources with
  | nil => rfl
  | cons source rest ih =>
      have hfirst := hsame source List.mem_cons_self
      rw [List.flatMap_cons, List.filter_append,
        ih fun other hother => hsame other (List.mem_cons_of_mem _ hother), List.filter_cons]
      cases hpasses : q source with
      | true =>
          rw [List.filter_eq_self.mpr fun given hgiven => (hfirst given hgiven).trans hpasses,
            if_pos rfl, List.flatMap_cons]
      | false =>
          rw [List.filter_eq_nil_iff.mpr fun given hgiven => by simp [hfirst given hgiven, hpasses]]
          rfl

/-- Where names are unique, a name picks one source. -/
theorem filter_name {α κ : Type} [DecidableEq κ] {sources : List α} {name : α → κ}
    (hnodup : (sources.map name).Nodup) {source : α} (hmem : source ∈ sources) :
    sources.filter (name · = name source) = [source] := by
  induction sources with
  | nil => cases hmem
  | cons first rest ih =>
      rw [List.map_cons, List.nodup_cons] at hnodup
      rcases List.mem_cons.mp hmem with rfl | hmem
      · rw [List.filter_cons_of_pos (by simp), List.filter_eq_nil_iff.mpr]
        intro other hother hsame
        exact hnodup.1 (of_decide_eq_true hsame ▸ List.mem_map_of_mem hother)
      · rw [List.filter_cons_of_neg, ih hnodup.2 hmem]
        intro hsame
        exact hnodup.1 (of_decide_eq_true hsame ▸ List.mem_map_of_mem hmem)

variable (runtime decoders node) in
/-- The row of a log that can be read. -/
def rowOf (timestamps : List (ℕ × ℕ)) (log : RpcLogResult Body) :
    List TaskPayrollHistoryEvent × List TaskEmployeeBreakdownItem :=
  match readLog runtime decoders node timestamps log with
  | .ok row => row
  | .error _ => ([], [])

variable (runtime decoders node) in
/-- The payments that are listed for a log. -/
def listed (timestamps : List (ℕ × ℕ)) (log : RpcLogResult Body) : List TaskEmployeeBreakdownItem :=
  (rowOf decoders runtime node timestamps log).2

/-- A log of a batch of the wallet. -/
structure IsBatchLog (c : Contract Hash χ) (encoding : Encoding Hash Body) (hash : String)
    (log : RpcLogResult Body) (routed : BatchPaymentRouted) : Prop where
  address : log.address = addressText c.self
  body : log.body = encoding.event (.batchPaymentRouted routed)
  hash : log.transactionHash = some hash
  block : ∃ block, log.blockNumber = some block
  fits : routed.Fits

omit [DecidableEq Hash] in
variable (runtime node) in
/-- The row of a batch: its event, and what its transaction's receipt shows. -/
theorem readLog_batch (hencoding : encoding.Documented decoders) {hash : String} (hnamed : hash ≠ "")
    {log : RpcLogResult Body} {routed : BatchPaymentRouted}
    (hlog : IsBatchLog c encoding hash log routed) (timestamps : List (ℕ × ℕ)) :
    ∃ event tokenIn timestampMs, readLog runtime decoders node timestamps log =
      .ok ([event], resolveEmployeePaymentsForLog runtime decoders node log hash tokenIn timestampMs
        routed.totalAmountOut) := by
  obtain ⟨block, hblock⟩ := hlog.block
  obtain ⟨decoded, hdecoded, hin, hout, htotal⟩ := hencoding.batch routed hlog.fits
  unfold readLog
  simp only [hlog.hash, hblock, if_neg hnamed, hlog.body, hdecoded, checksummed,
    getAddress_of_addressOf hin, getAddress_of_addressOf hout, htotal]
  exact ⟨_, _, _, rfl⟩

end WizPay.PayrollHistory
