import WizPay.Backend.NumberText
import WizPay.PayrollMainnet.SameToken
import WizPay.PayrollMainnet.Validation
import WizPay.UserSwap.PayrollQuote

/-!
# Payroll quotes at the contract

A quote that the loop returns is made of one probe: the input, its fee and what is
left of it, and the floors that the quoter's answer for exactly that gives. The
contract splits the input the same way and its checks on the quoted values pass.
-/

namespace WizPay.UserSwap

open Backend Foundation Evm PayrollMainnet

/-! ## What passed -/

theorem throwWhen_ok {condition : Prop} [Decidable condition] {failure : QuoteFailure}
    {result : Unit} : throwWhen condition failure = .ok result ↔ ¬ condition := by
  unfold throwWhen
  split
  · next h => exact ⟨fun herror => (nomatch herror), fun hcondition => absurd h hcondition⟩
  · next h => exact ⟨fun _ => h, fun _ => rfl⟩

theorem protocolCall_ok {α : Type} {call : Except ProtocolError α} {value : α} :
    protocolCall call = .ok value ↔ call = .ok value := by
  cases call with
  | ok result => exact ⟨fun h => congrArg Except.ok (Except.ok.inj h),
      fun h => congrArg Except.ok (Except.ok.inj h)⟩
  | error error => exact ⟨fun h => (nomatch h), fun h => (nomatch h)⟩

theorem validateBoundary_ok {runtime : Runtime} {nowSeconds : ℕ}
    {tokenIn tokenOut amountIn recipient wallet : String} {slippageBps deadline : ℕ}
    {normalized : NormalizedBoundaryRequest}
    (hvalid : validateBoundary runtime nowSeconds tokenIn tokenOut amountIn recipient wallet
      slippageBps deadline = .ok normalized) :
    normalized.amountIn = bigInt amountIn ∧ normalized.slippageBps = slippageBps := by
  unfold validateBoundary at hvalid
  simp only [except_bind_ok] at hvalid
  obtain ⟨_, -, _, -, _, -, _, -, _, -, _, -, _, -, _, -, _, -, _, -, hvalid⟩ := hvalid
  cases hvalid
  exact ⟨rfl, rfl⟩

/-- A live quote carries the floors of what the quoter answers for the input. -/
theorem liveQuote_ok {runtime : Runtime} {probe : Probe} {request : NormalizedBoundaryRequest}
    {live : LiveQuoteResult} (hlive : liveQuote runtime probe request = .ok live) :
    ∃ amountOut gasEstimate,
      probe.quoter request.amountIn = some (some (amountOut, gasEstimate)) ∧
        QuoteFloors request amountOut live.validated := by
  unfold liveQuote at hlive
  obtain ⟨_, -, hlive⟩ := except_bind_ok.mp hlive
  dsimp only at hlive
  split at hlive
  · split at hlive
    · next returnData hquoter =>
        split at hlive
        · next amountOut gasEstimate =>
            obtain ⟨validated, hvalidated, hlive⟩ := except_bind_ok.mp hlive
            have hfloors := validateQuoteObservation_ok (protocolCall_ok.mp hvalidated)
            rw [liveObservation, bigInt_toString] at hfloors
            cases hlive
            exact ⟨amountOut, gasEstimate, hquoter, hfloors⟩
        · cases hlive
    · cases hlive
  · cases hlive

/-- What a probe that goes through says about its input. -/
structure Probed (env : QuoteEnvironment) (funding : PayrollFunding) (attempt gross : ℕ)
    (live : LiveQuoteResult) : Prop where
  net_ne : gross - gross * funding.feeBps / 10000 ≠ 0
  gross_le : gross ≤ maxUint128
  quoted : ∃ request, request.amountIn = gross - gross * funding.feeBps / 10000 ∧
    request.slippageBps = funding.slippageBps ∧
    liveQuote env.runtime (env.probes attempt) request = .ok live

theorem probeGross_ok {env : QuoteEnvironment} {funding : PayrollFunding} {attempt gross : ℕ}
    {live : LiveQuoteResult} (hprobe : probeGross env funding attempt gross = .ok live) :
    Probed env funding attempt gross live := by
  unfold probeGross at hprobe
  obtain ⟨_, hrange, hprobe⟩ := except_bind_ok.mp hprobe
  obtain ⟨hnet, hgross⟩ := not_or.mp (throwWhen_ok.mp hrange)
  obtain ⟨normalized, hvalid, hlive⟩ := except_bind_ok.mp hprobe
  obtain ⟨hamountIn, hslippage⟩ := validateBoundary_ok hvalid
  rw [bigInt_toString] at hamountIn
  exact ⟨hnet, by omega, normalized, hamountIn, hslippage, hlive⟩

/-- The loop returns the quote of one of its probes, whose floor covers the obligations. -/
theorem scaleUp_ok {env : QuoteEnvironment} {funding : PayrollFunding} {left attempt gross : ℕ}
    {quote : PayrollQuote} (hquote : scaleUp env funding left attempt gross = .ok quote) :
    ∃ probe input live, attempt ≤ probe ∧ probe < attempt + left ∧
      Probed env funding probe input live ∧ funding.obligations ≤ live.validated.minAmountOut ∧
      quote = fundedQuote funding input live := by
  induction left generalizing attempt gross with
  | zero => cases hquote
  | succ left ih =>
      unfold scaleUp at hquote
      obtain ⟨live, hprobe, hquote⟩ := except_bind_ok.mp hquote
      dsimp only at hquote
      split at hquote
      · next hcovers =>
          cases hquote
          exact ⟨attempt, gross, live, Nat.le_refl _, by omega, probeGross_ok hprobe, hcovers, rfl⟩
      · -- the floor fell short: the rest of the loop returned the quote
        simp only [except_bind_ok] at hquote
        obtain ⟨_, -, _, -, hquote⟩ := hquote
        obtain ⟨probe, input, live, hfirst, hlast, hfound⟩ := ih hquote
        exact ⟨probe, input, live, by omega, by omega, hfound⟩

theorem payrollUint_ok {value : Option Json} {field : String} {number : ℕ}
    (hvalue : payrollUint value field = .ok number) : number ≤ maxUint128 := by
  unfold payrollUint at hvalue
  split at hvalue
  · split at hvalue
    · cases hvalue
    · split at hvalue
      · cases hvalue
      · cases hvalue
        omega
  · cases hvalue

/-- An accepted request owes at most what fits, and its fee is the one read. -/
theorem acceptPayrollQuote_ok {env : QuoteEnvironment} {request : Json} {funding : PayrollFunding}
    (haccept : acceptPayrollQuote env request = .ok funding) :
    funding.obligations ≤ maxUint128 ∧ env.payrollFeeBps = some funding.feeBps ∧
      funding.feeBps ≤ 100 := by
  unfold acceptPayrollQuote at haccept
  simp only [except_bind_ok] at haccept
  obtain ⟨_, -, _, -, _, -, _, -, obligations, hobligations, _, -, _, -, _, -, _, -, haccept⟩ :=
    haccept
  split at haccept
  · next feeBps hfee =>
      obtain ⟨_, hrange, haccept⟩ := except_bind_ok.mp haccept
      cases haccept
      exact ⟨payrollUint_ok hobligations, hfee, Nat.not_lt.mp (throwWhen_ok.mp hrange)⟩
  · cases haccept

/-! ## At the contract -/

section Contract

variable {Hash χ : Type}

/-- A batch that a quote was asked for. -/
structure QuotedCall (quote : PayrollQuote) (msg : Msg) (outputAmounts : List ℕ) (deadline : ℕ) :
    Prop where
  obligations : outputAmounts.sum = bigInt quote.obligations
  deadline_ge : msg.timestamp ≤ deadline
  deadline_le : deadline ≤ msg.timestamp + MAX_DEADLINE_WINDOW
  timestamp_lt : msg.timestamp + MAX_DEADLINE_WINDOW < uint256Bound

theorem sum_zip_snd {recipients : List Address} {outputAmounts : List ℕ}
    (hlengths : recipients.length = outputAmounts.length) :
    ((recipients.zip outputAmounts).map Prod.snd).sum = outputAmounts.sum := by
  rw [List.map_snd_zip hlengths.ge]

/-- A quote that the service returns fits the contract whose fee it read. -/
theorem payrollCrossTokenQuote_sound (c : Contract Hash χ) (env : QuoteEnvironment)
    (request : Json) (quote : PayrollQuote) (hfee : env.payrollFeeBps = some c.feeBps)
    (hfits : ∀ attempt amountIn amountOut gasEstimate,
      (env.probes attempt).quoter amountIn = some (some (amountOut, gasEstimate)) →
        amountOut * (10000 - quote.slippageBps) / 10000 < 2 ^ 128)
    (hquote : payrollCrossTokenQuote env request = .ok quote) :
    (∀ msg recipients outputAmounts deadline referenceId (state : State Hash χ),
      QuotedCall quote msg outputAmounts deadline →
        ((∃ result, (validateCrossTokenDetails c msg recipients outputAmounts
            (bigInt quote.grossInput) (bigInt quote.minTotalOut) (bigInt quote.minHopPriceX36)
            deadline referenceId).run state = .ok result) ↔
          AdmissibleBatch recipients outputAmounts referenceId ∧
            AdmissiblePayments c msg.sender (recipients.zip outputAmounts))) ∧
    bigInt quote.feeAmount = feeOf c (bigInt quote.grossInput) ∧
    bigInt quote.netAmountIn = bigInt quote.grossInput - feeOf c (bigInt quote.grossInput) ∧
    bigInt quote.obligations ≤ bigInt quote.minTotalOut ∧
    (∃ attempt probed live, attempt < 4 ∧ probed.amountIn = bigInt quote.netAmountIn ∧
      liveQuote env.runtime (env.probes attempt) probed = .ok live ∧
      live.validated.minAmountOut = bigInt quote.minTotalOut ∧
      live.validated.minHopPriceX36 = bigInt quote.minHopPriceX36) ∧
    ∀ amount ∈ [quote.obligations, quote.grossInput, quote.feeAmount, quote.netAmountIn,
      quote.minTotalOut], bigInt amount ≤ maxUint128 := by
  unfold payrollCrossTokenQuote at hquote
  obtain ⟨funding, haccept, hloop⟩ := except_bind_ok.mp hquote
  obtain ⟨hobligations, hread, hrate⟩ := acceptPayrollQuote_ok haccept
  obtain ⟨attempt, gross, live, -, hattempt, hprobed, hcovers, rfl⟩ := scaleUp_ok hloop
  obtain ⟨probed, hamountIn, hslippage, hlive⟩ := hprobed.quoted
  obtain ⟨amountOut, gasEstimate, hquoter, hfloors⟩ := liveQuote_ok hlive
  have hsame : funding.feeBps = c.feeBps := Option.some.inj (hread.symm.trans hfee)
  have hsplit : gross * funding.feeBps / 10000 = feeOf c gross := by rw [feeOf, hsame]
  have hfeeLe := feeOf_le c gross
  have hgross := hprobed.gross_le
  have hnet := hprobed.net_ne
  have hminimum : live.validated.minAmountOut ≤ maxUint128 := by
    have hlt := hfits attempt _ _ _ hquoter
    rw [hfloors.minAmountOut, hslippage, maxUint128]
    dsimp only [fundedQuote] at hlt
    omega
  have hbound : maxUint128 + 1 = uint128Bound := by decide
  simp only [fundedQuote, bigInt_toString, List.forall_mem_cons, hsplit, true_and] at hnet ⊢
  refine ⟨?_, hcovers, ⟨attempt, probed, live, by omega, ?_, hlive, rfl, rfl⟩, ?_⟩
  · intro msg recipients outputAmounts deadline referenceId state hcall
    have hsum := hcall.obligations
    dsimp only [fundedQuote] at hsum
    rw [bigInt_toString] at hsum
    constructor
    · rintro ⟨result, hrun⟩
      obtain ⟨hdetails, -⟩ := validateCrossTokenDetails_ok c hrun
      exact ⟨hdetails.batch, hdetails.payments⟩
    · rintro ⟨hbatch, hpayments⟩
      refine ⟨_, validateCrossTokenDetails_run c ?_ hcall.timestamp_lt⟩
      exact {
        batch := hbatch
        payments := hpayments
        grossInput_ne := by omega
        grossInput_lt := by omega
        minTotalOut_ne := hfloors.minAmountOut_ne
        minTotalOut_lt := by omega
        minHopPriceX36_ne := hfloors.minHopPriceX36_ne
        deadline_ge := hcall.deadline_ge
        deadline_le := hcall.deadline_le
        covered := by rw [sum_zip_snd hbatch.lengths, hsum]; exact hcovers }
  · rw [hamountIn, hsplit]
  · refine ⟨hobligations, hgross, by omega, by omega, hminimum, fun _ h => (nomatch h)⟩

end Contract

/-! ## A quote -/

def exampleSnapshot : RpcSnapshot where
  chainId := 5042
  lpFee := 500
  liquidity := 1000000000
  paused := false
  feeBps := 25
  router := EXPECTED_UNIVERSAL_ROUTER
  permit2 := EXPECTED_PERMIT2
  usdc := ARC_MAINNET_UNISWAP_V4_USDC
  eurc := ARC_MAINNET_UNISWAP_V4_EURC

/-- A process on mainnet whose quoter answers as given. -/
def exampleEnvironment (quoter : ℕ → Option (Option (ℕ × ℕ))) : QuoteEnvironment where
  runtime := .ofTable [] [("bef5f6d51cb62b58e6a8f77868681825c6fe21c1",
    "2e4b3c2518a210b042b87631d2249f6acc07d70f60d5745a2c790aeb5b2dc576")]
  mainnet := true
  payrollFeeBps := some 100
  nowSeconds := 1790000000
  probes := fun _ => {
    nowSeconds := 1790000000
    quotedAt := "2026-09-21T14:13:20.000Z"
    expiresAt := "2026-09-21T14:14:20.000Z"
    cachedQuorum := false
    snapshots := [some exampleSnapshot, some exampleSnapshot]
    blockNumber := some 100
    quoter }

def exampleQuoteRequest : Json := .object [
  ("tokenInAddress", .string ARC_MAINNET_UNISWAP_V4_USDC),
  ("tokenOutAddress", .string ARC_MAINNET_UNISWAP_V4_EURC),
  ("outputTotals", .string "1000000"), ("slippageBps", .number "200"),
  ("walletAddress", .string "0x1234567890123456789012345678901234567890"),
  ("recipient", .string "0x1234567890123456789012345678901234567890")]

/-- A pool that pays 1.05 for one, for inputs up to a thousand. -/
def exampleQuoter (amountIn : ℕ) : Option (Option (ℕ × ℕ)) :=
  if amountIn ≤ 1000000000 then some (some (amountIn * 105 / 100, 150000)) else none

def exampleQuote : PayrollQuote where
  tokenIn := ARC_MAINNET_UNISWAP_V4_USDC
  tokenOut := "0xbEf5f6d51CB62b58e6A8f77868681825C6fe21c1"
  obligations := "1000000"
  grossInput := "1000000"
  feeAmount := "10000"
  netAmountIn := "990000"
  minTotalOut := "1018710"
  minHopPriceX36 := "1029000000000000000000000000000000000"
  slippageBps := 200
  payrollFeeBps := "100"
  quoteBlock := 100
  quotedAt := "2026-09-21T14:13:20.000Z"
  expiresAt := "2026-09-21T14:14:20.000Z"
  expiresAtBlock := 160

theorem payrollCrossTokenQuote_example :
    payrollCrossTokenQuote (exampleEnvironment exampleQuoter) exampleQuoteRequest =
      .ok exampleQuote := by
  decide +kernel

theorem exampleQuoter_le {amountIn amountOut gasEstimate : ℕ}
    (hquoter : exampleQuoter amountIn = some (some (amountOut, gasEstimate))) :
    amountOut ≤ 1050000000 := by
  unfold exampleQuoter at hquoter
  split at hquoter
  · cases hquoter
    omega
  · cases hquoter

/-- A quote for one unit, and the contract takes it for two payments of together one unit. -/
theorem payrollCrossTokenQuote_sound_pair :
    (∃ result, (validateCrossTokenDetails (exampleContract fun _ _ => none) ⟨9, 0, 1790000000⟩
      [20, 21] [400000, 600000] (bigInt exampleQuote.grossInput) (bigInt exampleQuote.minTotalOut)
      (bigInt exampleQuote.minHopPriceX36) 1790000600 exampleReference).run exampleState =
        .ok result) ∧
    bigInt exampleQuote.feeAmount =
      feeOf (exampleContract fun _ _ => none) (bigInt exampleQuote.grossInput) := by
  obtain ⟨hcontract, hsplit, -⟩ := payrollCrossTokenQuote_sound (exampleContract fun _ _ => none)
    (exampleEnvironment exampleQuoter) exampleQuoteRequest exampleQuote rfl
    (fun attempt amountIn amountOut gasEstimate hquoter => by
      have hbound := exampleQuoter_le hquoter
      have hfloor : amountOut * (10000 - exampleQuote.slippageBps) / 10000 ≤ amountOut :=
        Nat.div_le_of_le_mul (by
          rw [Nat.mul_comm 10000]
          exact Nat.mul_le_mul_left _ (Nat.sub_le _ _))
      omega)
    payrollCrossTokenQuote_example
  have hcall : QuotedCall exampleQuote ⟨9, 0, 1790000000⟩ [400000, 600000] 1790000600 :=
    ⟨by decide +kernel, by decide, by decide, by decide⟩
  refine ⟨(hcontract _ [20, 21] _ _ exampleReference _ hcall).mpr ⟨?_, ?_⟩, hsplit⟩
  · exact ⟨by decide, rfl, by decide, by decide, by decide⟩
  · intro payment hpayment
    simp only [List.zip_cons_cons, List.zip_nil_right, List.mem_cons, List.not_mem_nil,
      or_false] at hpayment
    rcases hpayment with rfl | rfl
    · exact ⟨⟨by decide, by decide, by decide⟩, by decide⟩
    · exact ⟨⟨by decide, by decide, by decide⟩, by decide⟩

end WizPay.UserSwap
