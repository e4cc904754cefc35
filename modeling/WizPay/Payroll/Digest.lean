import WizPay.Intents.Digest
import WizPay.Payroll.Service

/-!
# Planned and verified digests

The digest of a batch is computed when it is planned, from the token of each
recipient, and again when its receipt is verified, from the one token of the
call. The two agree exactly when the recipients of the batch share a token.
-/

namespace WizPay.Payroll

open Foundation Backend Evm Intents

section

variable {runtime : Runtime} {routing : PaymentRouting} {payload : Json}
  {accepted : AcceptedPayroll} {referenceId : String} {batch : PayrollBatch} {request : Immutable}
  {token : Address} {recipients : List Address} {amounts : List ℕ}

/-- What the plan of an accepted payload stores for one of its batches. -/
structure Planned (runtime : Runtime) (routing : PaymentRouting) (payload : Json)
    (accepted : AcceptedPayroll) (referenceId : String) (batch : PayrollBatch)
    (request : Immutable) : Prop where
  accepts : acceptPayroll runtime routing payload = .ok accepted
  mem : batch ∈ splitIntoBatches accepted.recipients
  requested : ∃ input decision, batchRequest runtime routing accepted
      (stringField payload "sourceTokenAddress") referenceId batch = .ok input ∧
    immutableRequest runtime routing input = .ok (request, decision)

/-- The parties of a call that executes a batch as it was planned. -/
structure Executes (batch : PayrollBatch) (tokenOut : String) (token : Address)
    (recipients : List Address) (amounts : List ℕ) : Prop where
  token : addressOf tokenOut = some token
  recipients : batch.recipients.map (fun recipient => addressOf recipient.address) =
    recipients.map some
  amounts : amounts = batch.recipients.map ValidatedRecipient.amountUnits

theorem Executes.recipient_at {tokenOut : String}
    (hexecutes : Executes batch tokenOut token recipients amounts) {i : ℕ}
    (hplanned : i < batch.recipients.length) (hpaid : i < recipients.length) :
    addressOf batch.recipients[i].address = some recipients[i] := by
  simpa [List.getElem?_eq_getElem hplanned, List.getElem?_eq_getElem hpaid] using
    congrArg (fun items => items[i]?) hexecutes.recipients

def plannedEntries (batch : PayrollBatch) : List BatchEntry :=
  batch.recipients.map fun recipient =>
    ⟨recipient.address, recipient.targetTokenAddress, toString recipient.amountUnits⟩

def verifiedEntries (runtime : Runtime) (token : Address) (recipients : List Address)
    (amounts : List ℕ) : List BatchEntry :=
  (recipients.zip amounts).map fun payment =>
    ⟨checksummed runtime payment.1, checksummed runtime token, toString payment.2⟩

/-- The token address of the first recipient, which stands for the batch. -/
def firstToken (batch : PayrollBatch) : String :=
  (batch.recipients.head?.map ValidatedRecipient.targetTokenAddress).getD ""

theorem batchRequest_ok {sourceTokenAddress : String} {input : ExecutionIntentAcquireInput}
    (hinput : batchRequest runtime routing accepted sourceTokenAddress referenceId batch = .ok input) :
    plannedEntries batch ≠ [] ∧ (∀ entry ∈ plannedEntries batch, entry.WellFormed) ∧
      input = {
        network := .string routing.network
        operation := .PAYROLL
        ownerId := none
        sourceWallet := accepted.owner
        recipient := none
        batchDigest := some (runtime.sha256 (digestText (plannedEntries batch)))
        tokenIn := sourceTokenAddress
        tokenOut := firstToken batch
        amountUnits := toString batch.totalAmount
        externalReference := getBatchReferenceId referenceId batch.index
        taskId := none } := by
  simp only [batchRequest, except_bind_ok, createPayrollBatchDigest_ok] at hinput
  obtain ⟨_, ⟨hne, hentries, rfl⟩, hinput⟩ := hinput
  exact ⟨hne, hentries, (Except.ok.inj hinput).symm⟩

theorem checksummed_spec {text : String} {address : Address}
    (haddress : addressOf text = some address) :
    isHexText 40 (checksummed runtime address) = true ∧
      asciiLower (checksummed runtime address) = asciiLower text := by
  have htext : isHexText 40 text = true := by rw [← addressOf_isSome, haddress]; rfl
  obtain ⟨hlower, hidem⟩ := asciiLower_isHexText htext
  rw [checksummed, addressText_addressOf haddress]
  have hchecksum : isHexText 40 (checksumAddress runtime (asciiLower text)) = true ∧ _ :=
    checksumAddress_spec hlower
  exact ⟨hchecksum.1, hchecksum.2.trans hidem⟩

/-- The entries of a call are the planned ones with the token of the call, up to
letter case. -/
theorem verifiedEntries_normal (runtime : Runtime) {tokenOut : String}
    (hexecutes : Executes batch tokenOut token recipients amounts) :
    (verifiedEntries runtime token recipients amounts).map BatchEntry.normal =
      ((plannedEntries batch).map (BatchEntry.withToken tokenOut)).map BatchEntry.normal := by
  obtain ⟨htoken, hrecipients, rfl⟩ := id hexecutes
  have hlength : batch.recipients.length = recipients.length := by
    simpa using congrArg List.length hrecipients
  refine List.ext_getElem (by simp [verifiedEntries, plannedEntries, hlength]) fun i hi _ => ?_
  have hi : i < batch.recipients.length := by simpa [verifiedEntries, hlength] using hi
  have hrecipient := hexecutes.recipient_at hi (hlength ▸ hi)
  simp [verifiedEntries, plannedEntries, BatchEntry.normal, BatchEntry.withToken,
    (checksummed_spec hrecipient).2, (checksummed_spec htoken).2]

theorem verifiedEntries_wellFormed {tokenOut : String}
    (hplanned : ∀ entry ∈ plannedEntries batch, entry.WellFormed)
    (hexecutes : Executes batch tokenOut token recipients amounts) :
    ∀ entry ∈ verifiedEntries runtime token recipients amounts, entry.WellFormed := by
  obtain ⟨htoken, hrecipients, rfl⟩ := id hexecutes
  intro entry hmember
  obtain ⟨payment, hpayment, rfl⟩ := List.mem_map.mp hmember
  obtain ⟨i, hi, rfl⟩ := List.getElem_of_mem hpayment
  have hbounds : i < recipients.length ∧ i < batch.recipients.length := by simpa using hi
  obtain ⟨hfirst, hsecond⟩ := hbounds
  have hrecipient := hexecutes.recipient_at hsecond hfirst
  have hentry := hplanned _ (List.mem_map_of_mem (List.getElem_mem hsecond))
  rw [List.getElem_zip, List.getElem_map]
  exact ⟨(checksummed_spec hrecipient).1, (checksummed_spec htoken).1, hentry.amountUnits⟩

theorem verifiedEntries_ne_nil {tokenOut : String} (hplanned : plannedEntries batch ≠ [])
    (hexecutes : Executes batch tokenOut token recipients amounts) :
    verifiedEntries runtime token recipients amounts ≠ [] := by
  intro hempty
  have hnormal := verifiedEntries_normal runtime hexecutes
  rw [hempty] at hnormal
  exact hplanned (by simpa using hnormal)

theorem Planned.digest (hruntime : runtime.Documented)
    (hplanned : Planned runtime routing payload accepted referenceId batch request) :
    request.batchDigest = some (runtime.sha256 (digestText (plannedEntries batch))) := by
  obtain ⟨-, -, input, decision, hinput, hrequest⟩ := hplanned
  obtain ⟨-, -, rfl⟩ := batchRequest_ok hinput
  exact (immutableRequest_spec hrequest).batchDigest.trans (nonempty_digest hruntime _)

theorem Planned.verified
    (hplanned : Planned runtime routing payload accepted referenceId batch request)
    (hexecutes : Executes batch request.tokenOut token recipients amounts) :
    verifiedDigest runtime token recipients amounts =
      .ok (runtime.sha256 (digestText (verifiedEntries runtime token recipients amounts))) := by
  obtain ⟨-, -, input, decision, hinput, -⟩ := hplanned
  obtain ⟨hne, hentries, rfl⟩ := batchRequest_ok hinput
  exact createPayrollBatchDigest_ok.mpr ⟨verifiedEntries_ne_nil hne hexecutes,
    verifiedEntries_wellFormed hentries hexecutes, rfl⟩

/-- The digest recomputed from a call that executes a planned batch is the stored
one if and only if the recipients of the batch all name one token. -/
theorem planned_digest_verified_iff (hruntime : runtime.Documented)
    (hplanned : Planned runtime routing payload accepted referenceId batch request)
    (hexecutes : Executes batch request.tokenOut token recipients amounts)
    (hcollision : runtime.sha256 (digestText (verifiedEntries runtime token recipients amounts)) =
        runtime.sha256 (digestText (plannedEntries batch)) →
      digestText (verifiedEntries runtime token recipients amounts) =
        digestText (plannedEntries batch)) :
    (∃ digest, verifiedDigest runtime token recipients amounts = .ok digest ∧
        request.batchDigest = some digest) ↔
      ∀ recipient ∈ batch.recipients,
        asciiLower recipient.targetTokenAddress = asciiLower (firstToken batch) := by
  have hverified := hplanned.verified hexecutes
  have hdigest := hplanned.digest hruntime
  obtain ⟨-, -, input, decision, hinput, hrequest⟩ := hplanned
  obtain ⟨-, hentries, rfl⟩ := batchRequest_ok hinput
  have hstored := immutableRequest_spec hrequest
  have htoken : isHexText 40 request.tokenOut = true := by
    rw [← addressOf_isSome, hexecutes.token]
    rfl
  have htext := digestText_congr (verifiedEntries_normal runtime hexecutes)
  calc (∃ digest, verifiedDigest runtime token recipients amounts = .ok digest ∧
        request.batchDigest = some digest)
      ↔ digestText (verifiedEntries runtime token recipients amounts) =
          digestText (plannedEntries batch) := by
        rw [hverified, hdigest]
        constructor
        · rintro ⟨digest, hsame, hother⟩
          exact hcollision ((Except.ok.inj hsame).trans (Option.some.inj hother).symm)
        · intro hsame
          exact ⟨_, rfl, by rw [hsame]⟩
    _ ↔ ∀ entry ∈ plannedEntries batch, asciiLower entry.token = asciiLower request.tokenOut := by
        rw [htext]
        exact digestText_withToken_iff (fun entry hmember => (hentries entry hmember).token) htoken
    _ ↔ ∀ recipient ∈ batch.recipients,
        asciiLower recipient.targetTokenAddress = asciiLower (firstToken batch) := by
        rw [hstored.tokenOut.2, plannedEntries, List.forall_mem_map]

end

/-! ## A batch of two tokens -/

def exampleRecipient (address targetToken targetTokenAddress : String) : Json := .object [
  ("address", .string address), ("amount", .string "1"), ("targetToken", .string targetToken),
  ("targetTokenAddress", .string targetTokenAddress)]

def examplePayload (referenceId : String) (recipients : List Json) : Json := .object [
  ("walletAddress", .string "0x1111111111111111111111111111111111111111"),
  ("referenceId", .string referenceId), ("sourceToken", .string "USDC"),
  ("sourceTokenAddress", .string "0x3600000000000000000000000000000000000000"),
  ("recipients", .array recipients)]

/-- Two recipients of one symbol, the second with the address of the other token. -/
def mixedPayload : Json := examplePayload "PAY-1" [
  exampleRecipient "0x2222222222222222222222222222222222222222" "USDC"
    "0x3600000000000000000000000000000000000000",
  exampleRecipient "0x3333333333333333333333333333333333333333" "USDC"
    "0xbEf5f6d51CB62b58e6A8f77868681825C6fe21c1"]

def mixedAccepted : AcceptedPayroll where
  owner := "0x1111111111111111111111111111111111111111"
  recipients := [
    ⟨"0x2222222222222222222222222222222222222222", "1", 1000000, "USDC",
      "0x3600000000000000000000000000000000000000"⟩,
    ⟨"0x3333333333333333333333333333333333333333", "1", 1000000, "USDC",
      "0xbEf5f6d51CB62b58e6A8f77868681825C6fe21c1"⟩]
  sourceToken := "USDC"

def mixedBatch : PayrollBatch := ⟨0, mixedAccepted.recipients, 2000000⟩

/-- The digests of the planned and of the verified text. -/
def mixedRuntime : Runtime := .ofTable [
  ("[\x7b\"amountUnits\":\"1000000\",\"index\":0," ++
    "\"recipient\":\"0x2222222222222222222222222222222222222222\"," ++
    "\"token\":\"0x3600000000000000000000000000000000000000\"\x7d," ++
    "\x7b\"amountUnits\":\"1000000\",\"index\":1," ++
    "\"recipient\":\"0x3333333333333333333333333333333333333333\"," ++
    "\"token\":\"0xbef5f6d51cb62b58e6a8f77868681825c6fe21c1\"\x7d]",
    "02eae8f6ff60962375ce168db30ef910c0d81427958681baa03f720ab158092d"),
  ("[\x7b\"amountUnits\":\"1000000\",\"index\":0," ++
    "\"recipient\":\"0x2222222222222222222222222222222222222222\"," ++
    "\"token\":\"0x3600000000000000000000000000000000000000\"\x7d," ++
    "\x7b\"amountUnits\":\"1000000\",\"index\":1," ++
    "\"recipient\":\"0x3333333333333333333333333333333333333333\"," ++
    "\"token\":\"0x3600000000000000000000000000000000000000\"\x7d]",
    "2ae4e1b1ca6451139fe1f70d43354f5193a1f26cea5ff00149024638ab454031")]
  [("bef5f6d51cb62b58e6a8f77868681825c6fe21c1",
    "2e4b3c2518a210b042b87631d2249f6acc07d70f60d5745a2c790aeb5b2dc576")]

def mixedRequest : Immutable where
  network := "arc-mainnet"
  operation := .PAYROLL
  ownerId := none
  sourceWallet := "0x1111111111111111111111111111111111111111"
  recipient := none
  batchDigest := some "02eae8f6ff60962375ce168db30ef910c0d81427958681baa03f720ab158092d"
  tokenIn := "0x3600000000000000000000000000000000000000"
  tokenOut := "0x3600000000000000000000000000000000000000"
  amountUnits := "2000000"
  externalReference := "PAY-1"

def mixedCall : Address × List Address × List ℕ :=
  (0x3600000000000000000000000000000000000000,
    [0x2222222222222222222222222222222222222222, 0x3333333333333333333333333333333333333333],
    [1000000, 1000000])

theorem mixedBatch_planned :
    Planned mixedRuntime arcMainnet mixedPayload mixedAccepted "PAY-1" mixedBatch mixedRequest where
  accepts := by decide +kernel
  mem := by decide +kernel
  requested := by
    have hrequest : (batchRequest mixedRuntime arcMainnet mixedAccepted
        (stringField mixedPayload "sourceTokenAddress") "PAY-1" mixedBatch >>= fun input =>
          Prod.fst <$> immutableRequest mixedRuntime arcMainnet input) = .ok mixedRequest := by
      decide +kernel
    obtain ⟨input, hinput, hrequest⟩ := except_bind_ok.mp hrequest
    cases himmutable : immutableRequest mixedRuntime arcMainnet input with
    | error error => rw [himmutable] at hrequest; cases hrequest
    | ok result =>
        rw [himmutable] at hrequest
        exact ⟨input, result.2, hinput, by rw [himmutable, ← Except.ok.inj hrequest]⟩

theorem mixedBatch_executes :
    Executes mixedBatch mixedRequest.tokenOut mixedCall.1 mixedCall.2.1 mixedCall.2.2 where
  token := by decide +kernel
  recipients := by decide +kernel
  amounts := by decide +kernel

theorem mixedBatch_verified : verifiedDigest mixedRuntime mixedCall.1 mixedCall.2.1 mixedCall.2.2 =
    .ok "2ae4e1b1ca6451139fe1f70d43354f5193a1f26cea5ff00149024638ab454031" := by
  decide +kernel

theorem mixedRuntime_documented : mixedRuntime.Documented :=
  Runtime.ofTable_documented (by decide +kernel)

/-- The two texts have different digests. -/
theorem mixedBatch_digests :
    mixedRuntime.sha256 (digestText (verifiedEntries mixedRuntime mixedCall.1 mixedCall.2.1
      mixedCall.2.2)) ≠ mixedRuntime.sha256 (digestText (plannedEntries mixedBatch)) := by
  intro hsame
  have hverified := mixedBatch_planned.verified mixedBatch_executes
  rw [mixedBatch_verified, hsame] at hverified
  have hplanned := mixedBatch_planned.digest mixedRuntime_documented
  rw [← Except.ok.inj hverified] at hplanned
  exact absurd hplanned (by decide +kernel)

theorem planned_digest_verified_iff_mixed :
    (∃ digest, verifiedDigest mixedRuntime mixedCall.1 mixedCall.2.1 mixedCall.2.2 = .ok digest ∧
        mixedRequest.batchDigest = some digest) ↔
      ∀ recipient ∈ mixedBatch.recipients,
        asciiLower recipient.targetTokenAddress = asciiLower (firstToken mixedBatch) :=
  planned_digest_verified_iff mixedRuntime_documented mixedBatch_planned mixedBatch_executes
    fun hsame => absurd hsame mixedBatch_digests

/-- An accepted plan whose execution is verified to another digest. -/
theorem mixed_batch_digest_mismatch :
    Planned mixedRuntime arcMainnet mixedPayload mixedAccepted "PAY-1" mixedBatch mixedRequest ∧
      Executes mixedBatch mixedRequest.tokenOut mixedCall.1 mixedCall.2.1 mixedCall.2.2 ∧
      ¬ ∃ digest, verifiedDigest mixedRuntime mixedCall.1 mixedCall.2.1 mixedCall.2.2 = .ok digest ∧
        mixedRequest.batchDigest = some digest := by
  refine ⟨mixedBatch_planned, mixedBatch_executes, ?_⟩
  rintro ⟨digest, hverified, hplanned⟩
  rw [mixedBatch_verified] at hverified
  rw [← Except.ok.inj hverified] at hplanned
  exact absurd hplanned (by decide +kernel)

end WizPay.Payroll
