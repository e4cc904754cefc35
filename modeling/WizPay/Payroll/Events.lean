import Mathlib.Data.List.Nodup
import Mathlib.Data.List.Perm.Subperm
import WizPay.Backend.Number
import WizPay.PayrollMainnet.SameToken

/-!
# The scan of a payroll receipt

`verifyMainnetPayrollEvents` walks the logs of a receipt and accepts when the
payroll contract reported one payment for each recipient, one consumed
reference and one executed batch. It accepts what the contract emits, and what
it accepts pins these events down.
-/

namespace WizPay.Payroll

open Foundation Backend Evm PayrollMainnet

/-- A log of a receipt: the emitting account, and its topics and data. -/
structure Log (Body : Type) where
  address : Address
  body : Body

/-- The ABI of the contract's events. A body has one signature, so it decodes as
one event at most; `text` reads the bytes of a `string`. -/
structure EventCodec (Hash Body : Type) where
  encode : Event Hash → Body
  decode : Body → Option (Event Hash)
  text : ByteArray → String

/-- What the receipt is expected to report. -/
structure PayrollEventsInput where
  chainId : ℕ
  contract : Address
  employer : Address
  tokenIn : Address
  tokenOut : Address
  referenceId : String
  recipients : List Address
  amounts : List ℕ

/-- The payments seen by index, and how many summary events. -/
structure Scan where
  payments : List (ℕ × ℕ)
  summaryCount : ℕ
  batchCount : ℕ
deriving DecidableEq

variable {Hash Body : Type} [DecidableEq Hash]

section

variable (keccak : Keccak Hash) (codec : EventCodec Hash Body) (input : PayrollEventsInput)

def referenceHash : Hash :=
  keccak.reference (input.chainId, input.contract, input.employer, input.referenceId.toUTF8)

def totalOut : ℕ := input.amounts.sum

def scanPayment (args : PayrollPayment Hash) (scan : Scan) : Option Scan :=
  let index := toDouble args.paymentIndex
  if args.referenceHash ≠ referenceHash keccak input ∨ args.employer ≠ input.employer ∨
      args.tokenOut ≠ input.tokenOut ∨ input.recipients.length ≤ index ∨
      index ∈ scan.payments.map Prod.fst ∨ input.recipients[index]? ≠ some args.recipient ∨
      input.amounts[index]? ≠ some args.amountOut then none
  else some { scan with payments := (index, args.amountOut) :: scan.payments }

/-- The consumed reference the verifier looks for. -/
structure ReferenceMatches (args : PayrollReferenceConsumed Hash) : Prop where
  referenceHash : args.referenceHash = Payroll.referenceHash keccak input
  employer : args.employer = input.employer
  tokenIn : args.tokenIn = input.tokenIn
  tokenOut : args.tokenOut = input.tokenOut
  totalOutput : args.totalOutput = totalOut input
  recipientCount : args.recipientCount = input.recipients.length
  referenceId : codec.text args.referenceId = input.referenceId

/-- The executed batch the verifier looks for. -/
structure BatchMatches (args : PayrollBatchExecuted) : Prop where
  employer : args.employer = input.employer
  tokenIn : args.tokenIn = input.tokenIn
  tokenOut : args.tokenOut = input.tokenOut
  totalOutput : args.totalOutput = totalOut input
  recipientCount : args.recipientCount = input.recipients.length
  referenceId : codec.text args.referenceId = input.referenceId

def scanReference (args : PayrollReferenceConsumed Hash) (scan : Scan) : Option Scan :=
  if args.referenceHash ≠ referenceHash keccak input ∨ args.employer ≠ input.employer ∨
      args.tokenIn ≠ input.tokenIn ∨ args.tokenOut ≠ input.tokenOut ∨
      args.totalOutput ≠ totalOut input ∨ args.recipientCount ≠ input.recipients.length ∨
      codec.text args.referenceId ≠ input.referenceId then none
  else some { scan with summaryCount := scan.summaryCount + 1 }

def scanBatch (args : PayrollBatchExecuted) (scan : Scan) : Option Scan :=
  if args.employer ≠ input.employer ∨ args.tokenIn ≠ input.tokenIn ∨
      args.tokenOut ≠ input.tokenOut ∨ args.totalOutput ≠ totalOut input ∨
      args.recipientCount ≠ input.recipients.length ∨
      codec.text args.referenceId ≠ input.referenceId then none
  else some { scan with batchCount := scan.batchCount + 1 }

/-! ## Decoding by one signature -/

def decodePayment (body : Body) : Option (PayrollPayment Hash) :=
  match codec.decode body with
  | some (.payrollPayment args) => some args
  | _ => none

def decodeReference (body : Body) : Option (PayrollReferenceConsumed Hash) :=
  match codec.decode body with
  | some (.payrollReferenceConsumed args) => some args
  | _ => none

def decodeBatch (body : Body) : Option PayrollBatchExecuted :=
  match codec.decode body with
  | some (.payrollBatchExecuted args) => some args
  | _ => none

/-- One log: each decoder is tried after the one before it failed; a decoded
event that does not match ends the scan. -/
def scanLog (log : Log Body) (scan : Scan) : Option Scan :=
  if log.address ≠ input.contract then some scan
  else match decodePayment codec log.body with
    | some args => scanPayment keccak input args scan
    | none =>
        match decodeReference codec log.body with
        | some args => scanReference keccak codec input args scan
        | none =>
            match decodeBatch codec log.body with
            | some args => scanBatch codec input args scan
            | none => some scan

def scanLogs : List (Log Body) → Scan → Option Scan
  | [], scan => some scan
  | log :: rest, scan => (scanLog keccak codec input log scan).bind (scanLogs rest)

def verifyMainnetPayrollEvents (logs : List (Log Body)) : Bool :=
  match scanLogs keccak codec input logs ⟨[], 0, 0⟩ with
  | none => false
  | some scan =>
      scan.payments.length = input.recipients.length && scan.summaryCount = 1 &&
        scan.batchCount = 1

/-! ## The scan over events -/

/-- The events the payroll contract reported, in order. -/
def contractEvents (contract : Address) (logs : List (Log Body)) : List (Event Hash) :=
  logs.filterMap fun log => if log.address = contract then codec.decode log.body else none

def scanEvent (event : Event Hash) (scan : Scan) : Option Scan :=
  match event with
  | .payrollPayment args => scanPayment keccak input args scan
  | .payrollReferenceConsumed args => scanReference keccak codec input args scan
  | .payrollBatchExecuted args => scanBatch codec input args scan
  | _ => some scan

def scanEvents : List (Event Hash) → Scan → Option Scan
  | [], scan => some scan
  | event :: rest, scan => (scanEvent keccak codec input event scan).bind (scanEvents rest)

end

section

variable {keccak : Keccak Hash} {codec : EventCodec Hash Body} {input : PayrollEventsInput}

/-- Logs of other accounts and bodies that decode as nothing do not count. -/
theorem scanLogs_eq (logs : List (Log Body)) (scan : Scan) :
    scanLogs keccak codec input logs scan =
      scanEvents keccak codec input (contractEvents codec input.contract logs) scan := by
  induction logs generalizing scan with
  | nil => rfl
  | cons log rest ih =>
      rw [scanLogs, contractEvents, List.filterMap_cons]
      by_cases haddress : log.address = input.contract
      · simp only [scanLog, decodePayment, decodeReference, decodeBatch, haddress, ne_eq,
          not_true_eq_false, if_false, if_true]
        cases hdecode : codec.decode log.body with
        | none => exact ih scan
        | some event =>
            cases event with
            | payrollPayment | payrollReferenceConsumed | payrollBatchExecuted =>
                exact congrArg _ (funext ih)
            | payrollSwapExecuted | payrollSurplusRefunded | emergencyTokenRescued | paused |
              unpaused => exact ih scan
      · simp only [scanLog, haddress, ne_eq, not_false_eq_true, if_true, if_false]
        exact ih scan

theorem scanEvents_append (first second : List (Event Hash)) (scan : Scan) :
    scanEvents keccak codec input (first ++ second) scan =
      (scanEvents keccak codec input first scan).bind (scanEvents keccak codec input second) := by
  induction first generalizing scan with
  | nil => rfl
  | cons event rest ih =>
      rw [List.cons_append, scanEvents, scanEvents, Option.bind_assoc]
      exact congrArg _ (funext ih)

/-- Only payroll events count. -/
theorem scanEvents_filter (events : List (Event Hash)) (scan : Scan) :
    scanEvents keccak codec input (events.filter Event.isPayroll) scan =
      scanEvents keccak codec input events scan := by
  induction events generalizing scan with
  | nil => rfl
  | cons event rest ih =>
      cases hpayroll : event.isPayroll with
      | true =>
          rw [List.filter_cons_of_pos hpayroll, scanEvents, scanEvents]
          exact congrArg _ (funext ih)
      | false =>
          rw [List.filter_cons_of_neg (by simp [hpayroll]), scanEvents, ih]
          cases event <;> first | rfl | cases hpayroll

/-! ## Completeness -/

/-- Payments reported in order from index `i` on are all accepted. -/
theorem scanEvents_paymentEvents (hlength : input.recipients.length ≤ 2 ^ 53) {i : ℕ}
    {payments : List (Address × ℕ)} {scan : Scan}
    (hpayments : (input.recipients.zip input.amounts).drop i = payments)
    (hseen : ∀ index ∈ scan.payments.map Prod.fst, index < i) :
    ∃ seen, scanEvents keccak codec input (paymentEvents (referenceHash keccak input)
        input.employer input.tokenOut i payments) scan = some { scan with payments := seen } ∧
      seen.length = scan.payments.length + payments.length := by
  induction payments generalizing i scan with
  | nil => exact ⟨scan.payments, rfl, rfl⟩
  | cons payment rest ih =>
      have hfound : (input.recipients.zip input.amounts)[i]? = some payment := by
        rw [← Nat.add_zero i, ← List.getElem?_drop, hpayments]
        rfl
      obtain ⟨hrecipient, hamount⟩ := List.getElem?_zip_eq_some.mp hfound
      have hindex : i < input.recipients.length := (List.getElem?_eq_some_iff.mp hrecipient).1
      have hdouble : toDouble i = i := toDouble_of_lt (Nat.lt_of_lt_of_le hindex hlength)
      have hfresh : i ∉ scan.payments.map Prod.fst := fun hmember =>
        Nat.lt_irrefl i (hseen i hmember)
      have hrest : (input.recipients.zip input.amounts).drop (i + 1) = rest := by
        rw [← List.drop_drop, hpayments]
        rfl
      have hseen : ∀ index ∈ ((i, payment.2) :: scan.payments).map Prod.fst, index < i + 1 := by
        intro index hmember
        rcases List.mem_cons.mp hmember with heq | hmember
        · exact heq ▸ Nat.lt_succ_self i
        · exact Nat.lt_succ_of_lt (hseen index hmember)
      obtain ⟨seen, hscan, hseenLength⟩ :=
        @ih (i + 1) { scan with payments := (i, payment.2) :: scan.payments } hrest hseen
      refine ⟨seen, ?_, by rw [hseenLength]; simp; omega⟩
      have hstep : scanPayment keccak input ⟨referenceHash keccak input, input.employer,
          input.tokenOut, payment.1, i, payment.2⟩ scan =
            some { scan with payments := (i, payment.2) :: scan.payments } := by
        simp only [scanPayment, hdouble]
        rw [if_neg]
        simp [hrecipient, hamount, hfresh, Nat.not_le.mpr hindex]
      rw [paymentEvents, scanEvents, scanEvent, hstep]
      exact hscan

theorem scanReference_of_matches {args : PayrollReferenceConsumed Hash}
    (hmatches : ReferenceMatches keccak codec input args) (scan : Scan) :
    scanReference keccak codec input args scan =
      some { scan with summaryCount := scan.summaryCount + 1 } := by
  obtain ⟨h1, h2, h3, h4, h5, h6, h7⟩ := hmatches
  simp [scanReference, h1, h2, h3, h4, h5, h6, h7]

omit [DecidableEq Hash] in
theorem scanBatch_of_matches {args : PayrollBatchExecuted}
    (hmatches : BatchMatches codec input args) (scan : Scan) :
    scanBatch codec input args scan = some { scan with batchCount := scan.batchCount + 1 } := by
  obtain ⟨h1, h2, h3, h4, h5, h6⟩ := hmatches
  simp [scanBatch, h1, h2, h3, h4, h5, h6]

/-- A full batch of payments, events the scan does not look at, and the two
summary events are accepted. -/
theorem scanEvents_batch (hlength : input.recipients.length ≤ 2 ^ 53)
    (hamounts : input.recipients.length ≤ input.amounts.length)
    {others : List (Event Hash)} (hothers : ∀ scan, scanEvents keccak codec input others scan =
      some scan)
    {reference : PayrollReferenceConsumed Hash} {batch : PayrollBatchExecuted}
    (hreference : ReferenceMatches keccak codec input reference)
    (hbatch : BatchMatches codec input batch) :
    ∃ seen, scanEvents keccak codec input (paymentEvents (referenceHash keccak input)
        input.employer input.tokenOut 0 (input.recipients.zip input.amounts) ++ others ++
          [.payrollReferenceConsumed reference, .payrollBatchExecuted batch]) ⟨[], 0, 0⟩ =
        some ⟨seen, 1, 1⟩ ∧ seen.length = input.recipients.length := by
  obtain ⟨seen, hscan, hseen⟩ := @scanEvents_paymentEvents _ _ _ keccak codec input hlength 0 _
    ⟨[], 0, 0⟩ List.drop_zero fun index hmember => nomatch hmember
  refine ⟨seen, ?_, ?_⟩
  · rw [scanEvents_append, scanEvents_append, hscan, Option.bind_some, hothers, Option.bind_some,
      scanEvents, scanEvent, scanReference_of_matches hreference, Option.bind_some, scanEvents,
      scanEvent, scanBatch_of_matches hbatch]
    rfl
  · rw [hseen, List.length_zip]
    simp only [List.length_nil]
    omega

/-! ## Soundness -/

/-- What an accepted payment agrees with. -/
structure PaymentMatches (keccak : Keccak Hash) (input : PayrollEventsInput)
    (args : PayrollPayment Hash) : Prop where
  referenceHash : args.referenceHash = Payroll.referenceHash keccak input
  employer : args.employer = input.employer
  tokenOut : args.tokenOut = input.tokenOut
  index : toDouble args.paymentIndex < input.recipients.length
  recipient : input.recipients[toDouble args.paymentIndex]? = some args.recipient
  amount : input.amounts[toDouble args.paymentIndex]? = some args.amountOut

theorem scanPayment_ok {args : PayrollPayment Hash} {scan next : Scan}
    (hscan : scanPayment keccak input args scan = some next) :
    PaymentMatches keccak input args ∧ toDouble args.paymentIndex ∉ scan.payments.map Prod.fst ∧
      next = { scan with
        payments := (toDouble args.paymentIndex, args.amountOut) :: scan.payments } := by
  simp only [scanPayment, Option.ite_none_left_eq_some, not_or, not_not, Nat.not_le,
    Option.some.injEq] at hscan
  obtain ⟨⟨hhash, hemployer, htoken, hindex, hfresh, hrecipient, hamount⟩, hnext⟩ := hscan
  exact ⟨⟨hhash, hemployer, htoken, hindex, hrecipient, hamount⟩, hfresh, hnext.symm⟩

theorem scanReference_ok {args : PayrollReferenceConsumed Hash} {scan next : Scan}
    (hscan : scanReference keccak codec input args scan = some next) :
    ReferenceMatches keccak codec input args ∧
      next = { scan with summaryCount := scan.summaryCount + 1 } := by
  simp only [scanReference, Option.ite_none_left_eq_some, not_or, not_not,
    Option.some.injEq] at hscan
  obtain ⟨⟨hhash, hemployer, hin, hout, htotal, hcount, hreference⟩, hnext⟩ := hscan
  exact ⟨⟨hhash, hemployer, hin, hout, htotal, hcount, hreference⟩, hnext.symm⟩

omit [DecidableEq Hash] in
theorem scanBatch_ok {args : PayrollBatchExecuted} {scan next : Scan}
    (hscan : scanBatch codec input args scan = some next) :
    BatchMatches codec input args ∧ next = { scan with batchCount := scan.batchCount + 1 } := by
  simp only [scanBatch, Option.ite_none_left_eq_some, not_or, not_not, Option.some.injEq] at hscan
  obtain ⟨⟨hemployer, hin, hout, htotal, hcount, hreference⟩, hnext⟩ := hscan
  exact ⟨⟨hemployer, hin, hout, htotal, hcount, hreference⟩, hnext.symm⟩

end

/-! The events of each kind, in order. -/

def payment? : Event Hash → Option (PayrollPayment Hash)
  | .payrollPayment args => some args
  | _ => none

def reference? : Event Hash → Option (PayrollReferenceConsumed Hash)
  | .payrollReferenceConsumed args => some args
  | _ => none

def batch? : Event Hash → Option PayrollBatchExecuted
  | .payrollBatchExecuted args => some args
  | _ => none

def paymentIndices (events : List (Event Hash)) : List ℕ :=
  (events.filterMap payment?).map fun args => toDouble args.paymentIndex

section

variable {keccak : Keccak Hash} {codec : EventCodec Hash Body} {input : PayrollEventsInput}

/-- What a scan that was not ended has seen. -/
structure Seen (keccak : Keccak Hash) (codec : EventCodec Hash Body) (input : PayrollEventsInput)
    (events : List (Event Hash)) (scan final : Scan) : Prop where
  indices : final.payments.map Prod.fst =
    (paymentIndices events).reverse ++ scan.payments.map Prod.fst
  nodup : (scan.payments.map Prod.fst).Nodup → (final.payments.map Prod.fst).Nodup
  payments : ∀ args ∈ events.filterMap payment?, PaymentMatches keccak input args
  summaryCount : final.summaryCount = scan.summaryCount + (events.filterMap reference?).length
  references : ∀ args ∈ events.filterMap reference?, ReferenceMatches keccak codec input args
  batchCount : final.batchCount = scan.batchCount + (events.filterMap batch?).length
  batches : ∀ args ∈ events.filterMap batch?, BatchMatches codec input args

theorem scanEvents_seen {events : List (Event Hash)} {scan final : Scan}
    (hscan : scanEvents keccak codec input events scan = some final) :
    Seen keccak codec input events scan final := by
  induction events generalizing scan with
  | nil =>
      cases hscan
      exact ⟨rfl, id, by simp, rfl, by simp, rfl, by simp⟩
  | cons event rest ih =>
      obtain ⟨next, hnext, hrest⟩ := Option.bind_eq_some_iff.mp hscan
      have hseen := ih hrest
      cases event with
      | payrollPayment args =>
          obtain ⟨hargs, hfresh, rfl⟩ := scanPayment_ok hnext
          exact {
            indices := by simpa [paymentIndices, payment?] using hseen.indices
            nodup := fun hnodup => hseen.nodup (List.nodup_cons.mpr ⟨hfresh, hnodup⟩)
            payments := List.forall_mem_cons.mpr ⟨hargs, hseen.payments⟩
            summaryCount := hseen.summaryCount
            references := hseen.references
            batchCount := hseen.batchCount
            batches := hseen.batches }
      | payrollReferenceConsumed args =>
          obtain ⟨hargs, rfl⟩ := scanReference_ok hnext
          exact { hseen with
            summaryCount := by
              rw [hseen.summaryCount]
              simp [reference?]
              omega
            references := List.forall_mem_cons.mpr ⟨hargs, hseen.references⟩ }
      | payrollBatchExecuted args =>
          obtain ⟨hargs, rfl⟩ := scanBatch_ok hnext
          exact { hseen with
            batchCount := by
              rw [hseen.batchCount]
              simp [batch?]
              omega
            batches := List.forall_mem_cons.mpr ⟨hargs, hseen.batches⟩ }
      | payrollSwapExecuted | payrollSurplusRefunded | emergencyTokenRescued | paused | unpaused =>
          cases hnext
          exact ⟨hseen.indices, hseen.nodup, hseen.payments, hseen.summaryCount, hseen.references,
            hseen.batchCount, hseen.batches⟩

/-- The payments of the batch, one for each recipient. -/
def expectedPayments (keccak : Keccak Hash) (input : PayrollEventsInput) :
    List (PayrollPayment Hash) :=
  (input.recipients.zip input.amounts).mapIdx fun i payment =>
    ⟨referenceHash keccak input, input.employer, input.tokenOut, payment.1, i, payment.2⟩

omit [DecidableEq Hash] in
theorem expectedPayments_getElem? {args : PayrollPayment Hash} {i : ℕ} :
    (expectedPayments keccak input)[i]? = some args ↔
      args.paymentIndex = i ∧ args.referenceHash = referenceHash keccak input ∧
        args.employer = input.employer ∧ args.tokenOut = input.tokenOut ∧
        input.recipients[i]? = some args.recipient ∧ input.amounts[i]? = some args.amountOut := by
  obtain ⟨hash, employer, tokenOut, recipient, index, amount⟩ := args
  simp only [expectedPayments, List.getElem?_mapIdx, Option.map_eq_some_iff,
    List.getElem?_zip_eq_some, PayrollPayment.mk.injEq]
  constructor
  · rintro ⟨⟨_, _⟩, ⟨hrecipient, hamount⟩, rfl, rfl, rfl, rfl, rfl, rfl⟩
    exact ⟨rfl, rfl, rfl, rfl, hrecipient, hamount⟩
  · rintro ⟨rfl, rfl, rfl, rfl, hrecipient, hamount⟩
    exact ⟨(recipient, amount), ⟨hrecipient, hamount⟩, rfl, rfl, rfl, rfl, rfl, rfl⟩

omit [DecidableEq Hash] in
/-- Accepted payments with distinct indices, as many as there are recipients,
are the payments of the batch in some order. -/
theorem payments_perm (hlength : input.recipients.length ≤ 2 ^ 53)
    {payments : List (PayrollPayment Hash)}
    (hpayments : ∀ args ∈ payments, PaymentMatches keccak input args)
    (hnodup : (payments.map fun args => toDouble args.paymentIndex).Nodup)
    (hcount : payments.length = input.recipients.length) :
    payments.Perm (expectedPayments keccak input) ∧
      input.recipients.length ≤ input.amounts.length := by
  have hsubset : payments ⊆ expectedPayments keccak input := by
    intro args hmember
    obtain ⟨hhash, hemployer, htoken, hindex, hrecipient, hamount⟩ := hpayments args hmember
    rw [toDouble_eq_of_lt hlength hindex] at hrecipient hamount
    exact List.mem_of_getElem? (expectedPayments_getElem?.mpr
      ⟨rfl, hhash, hemployer, htoken, hrecipient, hamount⟩)
  have hbatch : (expectedPayments keccak input).length =
      min input.recipients.length input.amounts.length := by
    rw [expectedPayments, List.length_mapIdx, List.length_zip]
  have hperm := (List.subperm_of_subset (List.Nodup.of_map _ hnodup) hsubset).perm_of_length_le
    (by omega)
  have hsame := hperm.length_eq
  exact ⟨hperm, by omega⟩

/-- What acceptance says about the events of the payroll contract: the payments
of the batch and nothing else paid, and one summary event of each kind. -/
structure AcceptedEvents (keccak : Keccak Hash) (codec : EventCodec Hash Body)
    (input : PayrollEventsInput) (events : List (Event Hash)) : Prop where
  payments : (events.filterMap payment?).Perm (expectedPayments keccak input)
  covered : input.recipients.length ≤ input.amounts.length
  reference : ∃ args, events.filterMap reference? = [args] ∧
    ReferenceMatches keccak codec input args
  batch : ∃ args, events.filterMap batch? = [args] ∧ BatchMatches codec input args

theorem verifyMainnetPayrollEvents_sound (hlength : input.recipients.length ≤ 2 ^ 53)
    {logs : List (Log Body)} (haccepted : verifyMainnetPayrollEvents keccak codec input logs = true) :
    AcceptedEvents keccak codec input (contractEvents codec input.contract logs) := by
  rw [verifyMainnetPayrollEvents, scanLogs_eq] at haccepted
  cases hscan : scanEvents keccak codec input (contractEvents codec input.contract logs)
    ⟨[], 0, 0⟩ with
  | none => simp [hscan] at haccepted
  | some final =>
      simp only [hscan, Bool.and_eq_true, decide_eq_true_eq] at haccepted
      obtain ⟨⟨hcount, hsummary⟩, hbatch⟩ := haccepted
      have hseen := scanEvents_seen hscan
      have hindices := hseen.indices
      rw [List.map_nil, List.append_nil] at hindices
      have hnodup := hseen.nodup List.nodup_nil
      rw [hindices, List.nodup_reverse] at hnodup
      have hpaid := congrArg List.length hindices
      rw [List.length_map, List.length_reverse, paymentIndices, List.length_map] at hpaid
      obtain ⟨hpayments, hcovered⟩ := payments_perm hlength hseen.payments hnodup
        (hpaid.symm.trans hcount)
      have hreferences := hseen.summaryCount
      have hbatches := hseen.batchCount
      rw [hsummary, Nat.zero_add] at hreferences
      rw [hbatch, Nat.zero_add] at hbatches
      obtain ⟨reference, hreference⟩ := List.length_eq_one_iff.mp hreferences.symm
      obtain ⟨batch, hbatch⟩ := List.length_eq_one_iff.mp hbatches.symm
      exact {
        payments := hpayments
        covered := hcovered
        reference := ⟨reference, hreference,
          hseen.references reference (hreference ▸ List.mem_singleton_self reference)⟩
        batch := ⟨batch, hbatch, hseen.batches batch (hbatch ▸ List.mem_singleton_self batch)⟩ }

end

/-! ## Agreement with the contract -/

/-- The contract's share of the logs is the encoding of these events, in order. -/
def Reports (codec : EventCodec Hash Body) (contract : Address) (events : List (Event Hash))
    (logs : List (Log Body)) : Prop :=
  (logs.filter fun log => log.address = contract).map Log.body = events.map codec.encode

omit [DecidableEq Hash] in
theorem contractEvents_of_reports {codec : EventCodec Hash Body} {contract : Address}
    {events : List (Event Hash)} {logs : List (Log Body)}
    (hreports : Reports codec contract events logs)
    (hcodec : ∀ event ∈ events, codec.decode (codec.encode event) = some event) :
    contractEvents codec contract logs = events := by
  have hfilter : contractEvents codec contract logs =
      ((logs.filter fun log => log.address = contract).map Log.body).filterMap codec.decode := by
    rw [List.filterMap_map, List.filterMap_filter]
    simp [contractEvents]
  rw [hfilter, hreports, List.filterMap_map]
  exact (List.filterMap_congr hcodec).trans List.filterMap_some

theorem totalOut_eq {recipients : List Address} {amounts : List ℕ}
    (hlengths : recipients.length = amounts.length) :
    ((recipients.zip amounts).map Prod.snd).sum = amounts.sum := by
  rw [List.map_snd_zip (Nat.le_of_eq hlengths.symm)]

/-- The payroll events of one batch: every payment in order, events the scan does
not look at, and the two summary events. -/
def BatchEvents (keccak : Keccak Hash) (codec : EventCodec Hash Body) (input : PayrollEventsInput)
    (events : List (Event Hash)) : Prop :=
  ∃ others reference batch,
    events = paymentEvents (referenceHash keccak input) input.employer input.tokenOut 0
      (input.recipients.zip input.amounts) ++
        (others ++ [.payrollReferenceConsumed reference, .payrollBatchExecuted batch]) ∧
    (∀ scan, scanEvents keccak codec input others scan = some scan) ∧
    ReferenceMatches keccak codec input reference ∧ BatchMatches codec input batch

/-- The verifier accepts logs that report one batch in full. -/
theorem verifyMainnetPayrollEvents_complete {keccak : Keccak Hash} {codec : EventCodec Hash Body}
    {input : PayrollEventsInput} {logs : List (Log Body)} {emitted events : List (Event Hash)}
    (hlength : input.recipients.length ≤ 2 ^ 53)
    (hlengths : input.recipients.length = input.amounts.length)
    (hemitted : emitted.filter Event.isPayroll = events)
    (hevents : BatchEvents keccak codec input events)
    (hcodec : ∀ event ∈ emitted, codec.decode (codec.encode event) = some event)
    (hreports : Reports codec input.contract emitted logs) :
    verifyMainnetPayrollEvents keccak codec input logs = true := by
  obtain ⟨others, reference, batch, rfl, hothers, hreference, hbatch⟩ := hevents
  obtain ⟨seen, hscan, hseen⟩ :=
    scanEvents_batch hlength (Nat.le_of_eq hlengths) hothers hreference hbatch
  rw [verifyMainnetPayrollEvents, scanLogs_eq, contractEvents_of_reports hreports hcodec,
    ← scanEvents_filter, hemitted, ← List.append_assoc, hscan]
  simp [hseen]

section

variable {χ : Type} {c : Contract Hash χ}

/-- The verifier's expectation for a call of the contract. -/
def expectation (c : Contract Hash χ) (employer tokenIn tokenOut : Address)
    (recipients : List Address) (amounts : List ℕ) (referenceId : String) :
    PayrollEventsInput where
  chainId := c.chainid
  contract := c.self
  employer := employer
  tokenIn := tokenIn
  tokenOut := tokenOut
  referenceId := referenceId
  recipients := recipients
  amounts := amounts

/-- The events of a call are what was added to the contract's log; administration
can report its own among those of the batch. -/
theorem emitted_filter {before after : State Hash χ} {hash : Hash}
    {events emitted : List (Event Hash)}
    (hrecord : record after = (record before).consumed hash events)
    (hemitted : after.events = before.events ++ emitted) :
    emitted.filter Event.isPayroll = events := by
  have hevents := congrArg Record.payrollEvents hrecord
  simp only [PayrollMainnet.record, Record.consumed, hemitted, List.filter_append] at hevents
  exact List.append_cancel_left hevents

theorem batch_length_le {recipients : List Address} {amounts : List ℕ} {referenceId : ByteArray}
    (hbatch : AdmissibleBatch recipients amounts referenceId) : recipients.length ≤ 2 ^ 53 :=
  Nat.le_trans hbatch.size (by decide)

/-- A receipt holds what a call emitted: the call's share of the contract's log,
encoded, among the logs of other accounts. -/
structure ReceiptOf (codec : EventCodec Hash Body) (c : Contract Hash χ) (referenceId : String)
    (before after : State Hash χ) (logs : List (Log Body)) : Prop where
  emitted : ∃ emitted, after.events = before.events ++ emitted ∧
    (∀ event ∈ emitted, codec.decode (codec.encode event) = some event) ∧
    Reports codec c.self emitted logs
  text : codec.text referenceId.toUTF8 = referenceId

theorem accepts_sameToken (hc : c.Sandboxed) {codec : EventCodec Hash Body} {msg : Msg}
    {token : Address} {recipients : List Address} {amounts : List ℕ} {referenceId : String}
    {before after : State Hash χ} {totalOut : ℕ} {logs : List (Log Body)}
    (hrun : (executeSameTokenPayroll c msg token recipients amounts referenceId.toUTF8).run before =
      .ok (totalOut, after))
    (hreceipt : ReceiptOf codec c referenceId before after logs) :
    verifyMainnetPayrollEvents c.keccak codec
      (expectation c msg.sender token token recipients amounts referenceId) logs = true := by
  obtain ⟨⟨emitted, hemitted, hcodec, hreports⟩, htext⟩ := hreceipt
  have hbatch := executeSameTokenPayroll_admissible hrun
  have hfilter := emitted_filter (executeSameTokenPayroll_record hc hrun).2 hemitted
  have htotal := totalOut_eq hbatch.lengths
  have hevents : BatchEvents c.keccak codec
      (expectation c msg.sender token token recipients amounts referenceId)
      (sameTokenEvents c msg token recipients amounts referenceId.toUTF8) :=
    ⟨[], _, _, rfl, fun _ => rfl, ⟨rfl, rfl, rfl, rfl, htotal, rfl, htext⟩,
      ⟨rfl, rfl, rfl, htotal, rfl, htext⟩⟩
  exact verifyMainnetPayrollEvents_complete (batch_length_le hbatch) hbatch.lengths hfilter hevents
    hcodec hreports

theorem accepts_crossToken (hc : c.Sandboxed) {codec : EventCodec Hash Body} {msg : Msg}
    {tokenIn tokenOut : Address} {recipients : List Address} {outputAmounts : List ℕ}
    {grossInput minTotalOut minHopPriceX36 deadline : ℕ} {referenceId : String}
    {before after : State Hash χ} {amountOut : ℕ} {logs : List (Log Body)}
    (hrun : (executeCrossTokenPayroll c msg tokenIn tokenOut recipients outputAmounts grossInput
      minTotalOut minHopPriceX36 deadline referenceId.toUTF8).run before = .ok (amountOut, after))
    (hreceipt : ReceiptOf codec c referenceId before after logs) :
    verifyMainnetPayrollEvents c.keccak codec
      (expectation c msg.sender tokenIn tokenOut recipients outputAmounts referenceId)
        logs = true := by
  obtain ⟨⟨emitted, hemitted, hcodec, hreports⟩, htext⟩ := hreceipt
  have hbatch := executeCrossTokenPayroll_admissible hrun
  have hfilter := emitted_filter (executeCrossTokenPayroll_record hc hrun).2 hemitted
  have htotal := totalOut_eq hbatch.lengths
  have hevents : BatchEvents c.keccak codec
      (expectation c msg.sender tokenIn tokenOut recipients outputAmounts referenceId)
      (crossTokenEvents c msg tokenIn tokenOut recipients outputAmounts grossInput minTotalOut
        minHopPriceX36 deadline referenceId.toUTF8 amountOut) := by
    rw [crossTokenEvents, List.append_assoc, List.append_cons (refundEvents _ _ _ _)]
    refine ⟨_, _, _, rfl, fun scan => ?_, ⟨rfl, rfl, rfl, rfl, htotal, rfl, htext⟩,
      ⟨rfl, rfl, rfl, htotal, rfl, htext⟩⟩
    unfold refundEvents
    split <;> rfl
  exact verifyMainnetPayrollEvents_complete (batch_length_le hbatch) hbatch.lengths hfilter hevents
    hcodec hreports

/-- The verifier and the contract agree. The receipt of every successful payroll
call is accepted for that call, whatever other accounts logged in between; and
accepted logs report the payments of the batch, nothing else paid, one consumed
reference and one executed batch. An array holds fewer than `2 ^ 32` items. -/
theorem verifyMainnetPayrollEvents_agrees (hc : c.Sandboxed) (codec : EventCodec Hash Body) :
    (∀ msg token recipients amounts referenceId before totalOut after logs,
      (executeSameTokenPayroll c msg token recipients amounts referenceId.toUTF8).run before =
        .ok (totalOut, after) →
      ReceiptOf codec c referenceId before after logs →
      verifyMainnetPayrollEvents c.keccak codec
        (expectation c msg.sender token token recipients amounts referenceId) logs = true) ∧
    (∀ msg tokenIn tokenOut recipients outputAmounts grossInput minTotalOut minHopPriceX36 deadline
        referenceId before amountOut after logs,
      (executeCrossTokenPayroll c msg tokenIn tokenOut recipients outputAmounts grossInput
        minTotalOut minHopPriceX36 deadline referenceId.toUTF8).run before =
          .ok (amountOut, after) →
      ReceiptOf codec c referenceId before after logs →
      verifyMainnetPayrollEvents c.keccak codec
        (expectation c msg.sender tokenIn tokenOut recipients outputAmounts referenceId)
          logs = true) ∧
    (∀ input logs, input.recipients.length < 2 ^ 32 →
      verifyMainnetPayrollEvents c.keccak codec input logs = true →
      AcceptedEvents c.keccak codec input (contractEvents codec input.contract logs)) := by
  refine ⟨?_, ?_, ?_⟩
  · intro msg token recipients amounts referenceId before totalOut after logs hrun hreceipt
    exact accepts_sameToken hc hrun hreceipt
  · intro msg tokenIn tokenOut recipients outputAmounts grossInput minTotalOut minHopPriceX36
      deadline referenceId before amountOut after logs hrun hreceipt
    exact accepts_crossToken hc hrun hreceipt
  · intro input logs hlength haccepted
    exact verifyMainnetPayrollEvents_sound (Nat.le_trans (Nat.le_of_lt hlength) (by decide))
      haccepted

end

/-- Bodies that keep the event they encode; one of them is foreign. -/
def exampleCodec : EventCodec ExampleHash (Option (Event ExampleHash)) where
  encode := some
  decode := id
  text := fun bytes => (String.fromUTF8? bytes).getD ""

/-- A receipt in which a token logs before the payroll contract at account 100 does. -/
def exampleReceipt (events : List (Event ExampleHash)) : List (Log (Option (Event ExampleHash))) :=
  ⟨1, none⟩ :: events.map fun event => ⟨100, some event⟩

theorem exampleReceipt_reports (events : List (Event ExampleHash)) :
    Reports exampleCodec 100 events (exampleReceipt events) := by
  induction events with
  | nil => rfl
  | cons event rest ih => exact congrArg (some event :: ·) ih

/-- Account 9 pays accounts 20, 21 and 20 again. -/
theorem verifyMainnetPayrollEvents_agrees_repeated :
    let c := exampleContract fun _ _ => none
    ∃ events, verifyMainnetPayrollEvents c.keccak exampleCodec
        (expectation c 9 1 1 [20, 21, 20] [100, 200, 300] "P1") (exampleReceipt events) = true ∧
      AcceptedEvents c.keccak exampleCodec
        (expectation c 9 1 1 [20, 21, 20] [100, 200, 300] "P1")
        (contractEvents exampleCodec 100 (exampleReceipt events)) := by
  intro c
  have hsucceeds : (executeSameTokenPayroll c ⟨9, 0, 0⟩ 1 [20, 21, 20] [100, 200, 300]
      "P1".toUTF8).succeeds exampleState = true := by
    decide +kernel
  obtain ⟨totalOut, after, hrun⟩ := Call.succeeds_iff.mp hsucceeds
  have hstandard : c.Standard fun _ _ => none := rfl
  have hsandboxed : c.Sandboxed := hstandard.sandboxed fun _ _ _ hnone => nomatch hnone
  obtain ⟨hsameToken, _, hsound⟩ := verifyMainnetPayrollEvents_agrees hsandboxed exampleCodec
  have haccepted := hsameToken ⟨9, 0, 0⟩ 1 [20, 21, 20] [100, 200, 300] "P1" exampleState totalOut
    after (exampleReceipt after.events) hrun
    ⟨⟨after.events, rfl, fun _ _ => rfl, exampleReceipt_reports after.events⟩, by decide +kernel⟩
  exact ⟨after.events, haccepted, hsound _ _ (by decide) haccepted⟩

end WizPay.Payroll
