import WizPay.Backend.Conversion
import WizPay.Backend.NumberText
import WizPay.Bridge.Fees
import WizPay.Bridge.Idempotency

/-!
# Quoted and created bridges

A quote and the creation of an intent read the same two answers of Circle, each in
its own way: the quote looks for the fee of its route, the creation takes the first
fast fee of the list.
-/

namespace WizPay.Bridge

open Foundation Backend

/-! ## The answers of Circle -/

/-- What Circle answers about the fees of a route and about the fast allowance. -/
structure CircleAnswers where
  fees : Option IrisResponse
  allowance : Option IrisResponse

/-- Whatever goes wrong with an answer, the route is unavailable. -/
def readAnswer {α : Type} (answer : Option IrisResponse) (parse : Json → Except String α) :
    Except ServiceError α :=
  match answer with
  | none => throw fastUnavailable
  | some response =>
      if response.status < 200 ∨ 300 ≤ response.status then throw fastUnavailable
      else match response.body.map parse with
        | some (.ok value) => return value
        | _ => throw fastUnavailable

def feeList : Json → Option (List Json)
  | .array items => some items
  | body => match body.get? "fees" with
    | some (.array items) => some items
    | _ => none

def candidates (list : List Json) : List Json := list.filter Json.isObject

/-- A property under either of its names is a number. -/
def propertyIs (entry : Json) (name otherName : String) (expected : ℕ) : Except String Bool := do
  let value ← Json.toNumber (Json.orElse (entry.get? name) (entry.get? otherName))
  return value = some (expected : ℚ)

def isFastEntry (entry : Json) : Except String Bool :=
  propertyIs entry "finalityThreshold" "finality_threshold" fastFinalityThreshold

def isRouteEntry (sourceDomain destinationDomain : ℕ) (entry : Json) : Except String Bool := do
  if ← propertyIs entry "sourceDomain" "source_domain" sourceDomain then
    if ← propertyIs entry "destinationDomain" "destination_domain" destinationDomain then
      isFastEntry entry
    else return false
  else return false

/-- The first entry that passes a test, which may throw. -/
def findEntry (test : Json → Except String Bool) : List Json → Except String (Option Json)
  | [] => return none
  | entry :: rest => do if ← test entry then return some entry else findEntry test rest

/-- The rate of an entry, in basis points. -/
def minimumFee (entry : Option Json) : Except String ℚ := do
  let property := fun name => entry.bind fun entry => entry.get? name
  let raw := Json.orElse (Json.orElse (property "minimumFee") (property "minimum_fee"))
    (property "fee")
  match ← Json.toNumber raw with
  | none => throw "Circle Fast fee is malformed."
  | some bps =>
      if bps < 0 ∨ 100 < bps then throw "Circle Fast fee is malformed." else return bps

/-- The quote prefers the entry of the route. -/
def parseCircleMinimumFeeBps (feesJson : Json) (sourceDomain destinationDomain : ℕ) :
    Except String ℚ :=
  match feeList feesJson with
  | none => throw "Circle fee response is malformed."
  | some list => do
      let routeEntry ← findEntry (isRouteEntry sourceDomain destinationDomain) (candidates list)
      let fastEntry ← match routeEntry with
        | some entry => pure (some entry)
        | none => findEntry isFastEntry (candidates list)
      match fastEntry with
      | none => throw "Circle Fast fee is unavailable for this route."
      | some entry => minimumFee (some entry)

/-- The creation takes the first fast entry, whatever its route. -/
def firstFastFeeBps (feesJson : Json) : Except String ℚ := do
  let entry ← findEntry isFastEntry (candidates ((feeList feesJson).getD []))
  minimumFee entry

/-- The shape `/^\d+(?:\.\d{1,6})?$/`, in base units. -/
def allowanceUnits (chars : List Char) : Option ℕ :=
  let whole := chars.takeWhile isDigit
  let units := fun fraction : List Char =>
    digitsValue 10 whole * 1000000 + digitsValue 10 ((fraction ++ List.replicate 6 '0').take 6)
  match chars.dropWhile isDigit with
  | [] => if whole = [] then none else some (units [])
  | '.' :: fraction =>
      if whole ≠ [] ∧ fraction ≠ [] ∧ fraction.length ≤ 6 ∧ fraction.all isDigit = true then
        some (units fraction)
      else none
  | _ => none

def parseFastAllowanceSubunits (value : Option Json) : Except String ℕ :=
  let text := ((Json.orElse value none).map Json.toText).getD ""
  match allowanceUnits (trim text).toList with
  | none => throw "Circle Fast allowance is malformed."
  | some units => return units

def allowanceOf : Json → Except String ℕ
  | .null => throw "TypeError"
  | body => parseFastAllowanceSubunits (body.get? "allowance")

/-! ## Quotes -/

inductive BridgeTransferMode where
  | fast | standard
deriving DecidableEq

structure BridgeQuote where
  sourceCode : String
  destinationCode : String
  transferMode : BridgeTransferMode
  minFinalityThreshold : ℕ
  amount : String
  protocolFee : String
  maxFeeSuggested : String
  receiveAmount : String
  allowanceSufficient : Option Bool
deriving DecidableEq

/-- A product of two doubles. -/
def doubleProduct (first second : ℚ) : ℚ := nearestDouble (first * second)

/-- An error of the registry, which the quote does not translate. -/
def registryChain (code : String) : Except ServiceError BridgeChain :=
  match getBridgeChain code with
  | .ok chain => return chain
  | .error _ => throw (.error "BridgeRegistryError")

def quoteUnavailable : ServiceError :=
  .unavailable "BRIDGE_QUOTE_UNAVAILABLE" "Bridge quote amount is invalid."

/-- The quote of a fast route. -/
def fastQuote (circle : CircleAnswers) (source destination : BridgeChain) (amountUnits : ℕ) :
    Except ServiceError BridgeQuote := do
  let feeBps ← readAnswer circle.fees fun body =>
    parseCircleMinimumFeeBps body source.domain destination.domain
  let protocolFee ← (calculateFastProtocolFee doubleProduct amountUnits feeBps).mapError .error
  let maxFeeSuggested := calculateFastMaxFee protocolFee
  if amountUnits < maxFeeSuggested then throw fastUnavailable
  else do
    let allowance ← readAnswer circle.allowance allowanceOf
    if allowance < amountUnits then throw fastUnavailable
    else return {
      sourceCode := source.code
      destinationCode := destination.code
      transferMode := .fast
      minFinalityThreshold := source.finalityThreshold
      amount := toString amountUnits
      protocolFee := toString protocolFee
      maxFeeSuggested := toString maxFeeSuggested
      receiveAmount := toString (amountUnits - protocolFee)
      allowanceSufficient := some true }

def standardQuote (source destination : BridgeChain) (amountUnits : ℕ) : BridgeQuote where
  sourceCode := source.code
  destinationCode := destination.code
  transferMode := .standard
  minFinalityThreshold := source.finalityThreshold
  amount := toString amountUnits
  protocolFee := "0"
  maxFeeSuggested := "0"
  receiveAmount := toString amountUnits
  allowanceSufficient := none

def quote (circle : CircleAnswers) (sourceCode destinationCode amount : String) :
    Except ServiceError BridgeQuote := do
  let source ← registryChain sourceCode
  let destination ← registryChain destinationCode
  if isUnsigned amount = false then throw quoteUnavailable
  else if bigInt amount = 0 then throw quoteUnavailable
  else if source.fastTransferSource then fastQuote circle source destination (bigInt amount)
  else return standardQuote source destination (bigInt amount)

/-! ## The creation after a quote -/

/-- The rate in hundredths of a basis point, as both calls compute it. -/
def hundredthsOf (feeBps : ℚ) : ℕ := (mathRound (doubleProduct feeBps 100)).toNat

/-- The answers of Circle as a creation meets them, while the database answers. -/
def CircleAnswers.input (circle : CircleAnswers) (freshId : String) : CreationInput where
  freshId
  outage := none
  fee := (readAnswer circle.fees firstFastFeeBps).toOption.map hundredthsOf
  allowance := (readAnswer circle.allowance allowanceOf).toOption

/-- A request for the quoted amount, maximal fee and threshold. -/
def BridgeQuote.request (quoted : BridgeQuote) (idempotencyKey walletAddress recipientAddress : String) :
    CreateBridgeIntent where
  idempotencyKey
  sourceCode := quoted.sourceCode
  destinationCode := quoted.destinationCode
  walletAddress
  recipientAddress
  amount := quoted.amount
  maxFee := quoted.maxFeeSuggested
  minFinalityThreshold := quoted.minFinalityThreshold

/-- The fee of the first fast entry is within the maximum for the fee of the route's. -/
def FirstFeeCovered (circle : CircleAnswers) (source destination : BridgeChain) (amountUnits : ℕ) :
    Prop :=
  ∃ routeBps firstBps,
    readAnswer circle.fees (fun body =>
      parseCircleMinimumFeeBps body source.domain destination.domain) = .ok routeBps ∧
    readAnswer circle.fees firstFastFeeBps = .ok firstBps ∧
    protocolFee amountUnits (hundredthsOf firstBps) ≤ suggested amountUnits (hundredthsOf routeBps)

/-- The route is one, its amount can be burned at once, and for a fast route the
first fast fee is covered. -/
def Creatable (circle : CircleAnswers) (sourceCode destinationCode amount : String) : Prop :=
  ∃ source destination, assertBridgeRoute sourceCode destinationCode = .ok (source, destination) ∧
    bigInt amount ≤ maxBurnAmountUnits ∧
    (source.fastTransferSource = true → FirstFeeCovered circle source destination (bigInt amount))

/-! ## What a quote says -/

theorem registryChain_ok {code : String} {chain : BridgeChain} :
    registryChain code = .ok chain ↔ getBridgeChain code = .ok chain := by
  unfold registryChain
  cases getBridgeChain code with
  | error error => exact ⟨nofun, nofun⟩
  | ok found => exact Iff.rfl

/-- The texts of a quote, and the numbers they were made of. -/
structure BridgeQuote.Says (quoted : BridgeQuote) (circle : CircleAnswers)
    (source destination : BridgeChain) (amountUnits maxFee : ℕ) : Prop where
  sourceCode : quoted.sourceCode = source.code
  destinationCode : quoted.destinationCode = destination.code
  minFinalityThreshold : quoted.minFinalityThreshold = source.finalityThreshold
  amount : quoted.amount = toString amountUnits
  maxFeeSuggested : quoted.maxFeeSuggested = toString maxFee
  maxFee_le : maxFee ≤ amountUnits
  fast : source.fastTransferSource = true → ∃ routeBps allowance,
    readAnswer circle.fees (fun body =>
      parseCircleMinimumFeeBps body source.domain destination.domain) = .ok routeBps ∧
    maxFee = suggested amountUnits (hundredthsOf routeBps) ∧
    readAnswer circle.allowance allowanceOf = .ok allowance ∧ amountUnits ≤ allowance

theorem calculateFastProtocolFee_eq {amountUnits fee : ℕ} {feeBps : ℚ} (hamount : amountUnits ≠ 0)
    (hfee : calculateFastProtocolFee doubleProduct amountUnits feeBps = .ok fee) :
    fee = protocolFee amountUnits (hundredthsOf feeBps) := by
  rw [calculateFastProtocolFee, if_neg hamount] at hfee
  dsimp only at hfee
  split at hfee
  · cases hfee
  · split at hfee
    · next hzero =>
        rw [hundredthsOf, hzero, Int.toNat_zero, protocolFee_zero]
        exact (Except.ok.inj hfee).symm
    · exact (Except.ok.inj hfee).symm

theorem fastQuote_says {circle : CircleAnswers} {source destination : BridgeChain}
    {amountUnits : ℕ} {quoted : BridgeQuote} (hamount : amountUnits ≠ 0)
    (hquote : fastQuote circle source destination amountUnits = .ok quoted) :
    ∃ maxFee, quoted.Says circle source destination amountUnits maxFee := by
  obtain ⟨feeBps, hbps, hrest⟩ := except_bind_ok.mp hquote
  obtain ⟨fee, hfee, hrest⟩ := except_bind_ok.mp hrest
  have hcomputed : calculateFastProtocolFee doubleProduct amountUnits feeBps = .ok fee := by
    cases hresult : calculateFastProtocolFee doubleProduct amountUnits feeBps with
    | error error =>
        rw [hresult] at hfee
        cases hfee
    | ok computed =>
        rw [hresult] at hfee
        exact congrArg Except.ok (Except.ok.inj hfee)
  dsimp only at hrest
  split at hrest
  · cases hrest
  · next hcovered =>
      obtain ⟨allowance, hallowance, hrest⟩ := except_bind_ok.mp hrest
      split at hrest
      · cases hrest
      · next henough =>
          cases hrest
          have hmax : calculateFastMaxFee fee = suggested amountUnits (hundredthsOf feeBps) := by
            rw [calculateFastProtocolFee_eq hamount hcomputed, suggested]
          exact ⟨_, rfl, rfl, rfl, rfl, rfl, not_lt.mp hcovered,
            fun _ => ⟨feeBps, allowance, hbps, hmax, hallowance, not_lt.mp henough⟩⟩

theorem standardQuote_says (circle : CircleAnswers) {source destination : BridgeChain}
    (hstandard : source.fastTransferSource = false) (amountUnits : ℕ) :
    (standardQuote source destination amountUnits).Says circle source destination amountUnits 0 where
  sourceCode := rfl
  destinationCode := rfl
  minFinalityThreshold := rfl
  amount := rfl
  maxFeeSuggested := rfl
  maxFee_le := Nat.zero_le _
  fast := by
    intro hfast
    cases hstandard.symm.trans hfast

theorem quote_says {circle : CircleAnswers} {sourceCode destinationCode amount : String}
    {quoted : BridgeQuote} (hquote : quote circle sourceCode destinationCode amount = .ok quoted) :
    ∃ source destination maxFee, getBridgeChain sourceCode = .ok source ∧
      getBridgeChain destinationCode = .ok destination ∧ bigInt amount ≠ 0 ∧
      quoted.Says circle source destination (bigInt amount) maxFee := by
  obtain ⟨source, hsource, hrest⟩ := except_bind_ok.mp hquote
  obtain ⟨destination, hdestination, hrest⟩ := except_bind_ok.mp hrest
  rw [registryChain_ok] at hsource hdestination
  split at hrest
  · cases hrest
  · split at hrest
    · cases hrest
    · next hpositive =>
        split at hrest
        · obtain ⟨maxFee, hquoted⟩ := fastQuote_says hpositive hrest
          exact ⟨source, destination, maxFee, hsource, hdestination, hpositive, hquoted⟩
        · next hstandard =>
            cases hrest
            exact ⟨source, destination, 0, hsource, hdestination, hpositive,
              standardQuote_says circle (Bool.eq_false_iff.mpr hstandard) _⟩

/-! ## What a creation needs -/

theorem isUnsigned_toString (n : ℕ) : isUnsigned (toString n) = true := by
  rcases Nat.eq_zero_or_pos n with rfl | hpositive
  · rfl
  · rw [isUnsigned, isBaseUnits_toString hpositive, Bool.or_true]

theorem parseAmount_toString {n : ℕ} {label : String} :
    (∃ units, parseAmount (toString n) label = .ok units) ↔ n ≤ maxBurnAmountUnits := by
  unfold parseAmount
  rw [isUnsigned_toString, if_neg (by decide), bigInt_toString]
  split
  next habove => exact iff_of_false (fun ⟨_, hok⟩ => nomatch hok) (Nat.not_le.mpr habove)
  next hwithin => exact iff_of_true ⟨n, rfl⟩ (Nat.not_lt.mp hwithin)

/-- Nothing but an address is refused. -/
theorem parseAddress_valid {runtime : Runtime} {value label : String}
    (hvalid : isAddress runtime (trim value) = true) :
    ∃ address, parseAddress runtime value label = .ok address := by
  have hhex : isHexText 40 (trim value) = true := (Bool.and_eq_true_iff.mp hvalid).1
  obtain ⟨address, haddress⟩ := Option.isSome_iff_exists.mp (addressOf_isSome.trans hhex)
  refine ⟨address, ?_⟩
  unfold parseAddress
  dsimp only
  rw [if_pos hvalid, haddress]
  rfl

variable {runtime : Runtime} {rows : List StoredBridge}

open Service

theorem findOrCreate_fresh {idempotencyKey : String} {checked : CheckedRequest}
    {input : CreationInput} (houtage : input.outage = none)
    (hfresh : ∀ stored ∈ rows, stored.creation.idempotencyKey ≠ idempotencyKey) :
    ∃ created last, (findOrCreate idempotencyKey checked).alone creationMachine input rows =
      (.ok created, last) := by
  have hnone : rows.find? (fun stored => stored.creation.idempotencyKey = idempotencyKey) = none :=
    List.find?_eq_none.mpr fun stored hstored => by simpa using hfresh stored hstored
  have hfound : (findFirst idempotencyKey).alone creationMachine input rows = (.ok none, rows) := by
    refine alone_perform_bind_ok.mpr (alone_orThrow_ok.mpr ⟨?_, rfl⟩)
    simp only [creationMachine, houtage, hnone]
  let stored := StoredBridge.created input.freshId (intentPayload checked)
    (intentCreation idempotencyKey checked)
  have hcreated : (create (intentPayload checked) (intentCreation idempotencyKey checked)).alone
      creationMachine input rows = (.ok stored, rows ++ [stored]) := by
    refine alone_perform_bind_ok.mpr (alone_orThrow_ok.mpr ⟨?_, ?_⟩)
    · simp only [creationMachine, houtage, stored]
    · simp only [creationMachine, houtage, stored]
  refine ⟨stored.view, rows ++ [stored], alone_bind_ok.mpr ⟨none, rows, hfound, ?_⟩⟩
  exact alone_bind_ok.mpr ⟨stored, _, hcreated, alone_pure_ok.mpr ⟨rfl, rfl⟩⟩

/-- The last test of a fast route, on the allowance that was fetched. -/
def requireAllowance (amount : ℕ) (allowance : Option ℕ) : CreationService Unit :=
  match allowance with
  | none => throw fastUnavailable
  | some allowance => throwIf (allowance < amount) fastUnavailable

/-- The checks of a fast route on what Circle answers. -/
theorem assertFastReady_ok {checked : CheckedRequest} {input : CreationInput}
    {last : List StoredBridge} :
    (assertFastReady checked).alone creationMachine input rows = (.ok (), last) ↔
      ∃ hundredths allowance, input.fee = some hundredths ∧
        protocolFee checked.amount hundredths ≤ checked.maxFee ∧
        input.allowance = some allowance ∧ checked.amount ≤ allowance ∧ last = rows := by
  refine alone_perform_bind_ok.trans ?_
  simp only [creationMachine]
  cases input.fee with
  | none => exact iff_of_false alone_throw_ok (by simp)
  | some hundredths =>
      refine alone_throwIf_bind_ok.trans ?_
      rw [not_lt]
      have hallowance : (fetchAllowance >>= requireAllowance checked.amount).alone
            creationMachine input rows = (.ok (), last) ↔
          ∃ allowance, input.allowance = some allowance ∧ checked.amount ≤ allowance ∧
            last = rows := by
        refine alone_perform_bind_ok.trans ?_
        simp only [creationMachine, requireAllowance]
        cases input.allowance with
        | none => exact iff_of_false alone_throw_ok (by simp)
        | some allowance =>
            rw [alone_throwIf_ok, not_lt]
            simp
      constructor
      · rintro ⟨hfee, hrest⟩
        obtain ⟨allowance, hanswer, henough, hlast⟩ := hallowance.mp hrest
        exact ⟨hundredths, allowance, rfl, hfee, hanswer, henough, hlast⟩
      · rintro ⟨_, allowance, ⟨⟩, hfee, hanswer, henough, hlast⟩
        exact ⟨hfee, hallowance.mpr ⟨allowance, hanswer, henough, hlast⟩⟩

/-- A creation with a fresh key needs its checks, and for a fast route the fee and
the allowance. -/
theorem createIntent_fresh {request : CreateBridgeIntent} {input : CreationInput}
    (houtage : input.outage = none)
    (hfresh : ∀ stored ∈ rows, stored.creation.idempotencyKey ≠ request.idempotencyKey) :
    (∃ created last, (createIntent runtime request).alone creationMachine input rows =
        (.ok created, last)) ↔
      ∃ checked, checkRequest runtime request = .ok checked ∧
        (checked.source.fastTransferSource = true → ∃ hundredths allowance,
          input.fee = some hundredths ∧ protocolFee checked.amount hundredths ≤ checked.maxFee ∧
            input.allowance = some allowance ∧ checked.amount ≤ allowance) := by
  unfold createIntent
  simp only [alone_ofExcept_bind_ok]
  constructor
  · rintro ⟨created, last, checked, hchecked, hrest⟩
    refine ⟨checked, hchecked, fun hfast => ?_⟩
    rw [if_pos hfast] at hrest
    obtain ⟨_, middle, hready, -⟩ := alone_bind_ok.mp hrest
    obtain ⟨hundredths, allowance, hfee, hcovered, hanswer, henough, -⟩ :=
      assertFastReady_ok.mp hready
    exact ⟨hundredths, allowance, hfee, hcovered, hanswer, henough⟩
  · rintro ⟨checked, hchecked, hready⟩
    obtain ⟨created, last, hcreated⟩ := @findOrCreate_fresh rows _ checked input houtage hfresh
    refine ⟨created, last, checked, hchecked, ?_⟩
    by_cases hfast : checked.source.fastTransferSource = true
    · obtain ⟨hundredths, allowance, hfee, hcovered, hanswer, henough⟩ := hready hfast
      rw [if_pos hfast]
      exact alone_bind_ok.mpr ⟨(), rows,
        assertFastReady_ok.mpr ⟨hundredths, allowance, hfee, hcovered, hanswer, henough, rfl⟩,
        hcreated⟩
    · rw [if_neg hfast]
      exact hcreated

/-! ## Creating what was quoted -/

section Request

variable {circle : CircleAnswers} {source destination : BridgeChain} {amountUnits maxFee : ℕ}
  {quoted : BridgeQuote} {idempotencyKey walletAddress recipientAddress : String}

/-- A request for what was quoted is refused for its route, or for its amount. -/
theorem checkRequest_quoted {checked : CheckedRequest}
    (hquoted : quoted.Says circle source destination amountUnits maxFee)
    (hsource : getBridgeChain source.code = .ok source)
    (hdestination : getBridgeChain destination.code = .ok destination)
    (hchecked : checkRequest runtime (quoted.request idempotencyKey walletAddress recipientAddress) =
      .ok checked) :
    assertBridgeRoute source.code destination.code = .ok (source, destination) ∧
      amountUnits ≤ maxBurnAmountUnits ∧ checked.source = source ∧
      checked.amount = amountUnits ∧ checked.maxFee = maxFee := by
  have hof := checkRequest_ok hchecked
  obtain ⟨⟨first, second⟩, hroute, hrest⟩ := except_bind_ok.mp hchecked
  obtain ⟨_, -, hrest⟩ := except_bind_ok.mp hrest
  obtain ⟨_, -, hrest⟩ := except_bind_ok.mp hrest
  obtain ⟨units, hunits, -⟩ := except_bind_ok.mp hrest
  obtain ⟨sourceOf, -, -, -, amountOf, maxFeeOf, -⟩ := hof
  simp only [BridgeQuote.request, hquoted.sourceCode, hquoted.destinationCode] at hroute sourceOf
  simp only [BridgeQuote.request, hquoted.amount, bigInt_toString] at hunits amountOf
  simp only [BridgeQuote.request, hquoted.maxFeeSuggested, bigInt_toString] at maxFeeOf
  obtain ⟨hfirst, hsecond⟩ := assertBridgeRoute_ok hroute
  obtain rfl := Except.ok.inj (hsource.symm.trans hfirst)
  obtain rfl := Except.ok.inj (hdestination.symm.trans hsecond)
  exact ⟨hroute, parseAmount_toString.mp ⟨units, hunits⟩,
    Except.ok.inj (sourceOf.symm.trans hsource), amountOf, maxFeeOf⟩

/-- On a route, an amount that can be burned at once passes the checks. -/
theorem checkRequest_of_route (hquoted : quoted.Says circle source destination amountUnits maxFee)
    (hpositive : amountUnits ≠ 0)
    (hroute : assertBridgeRoute source.code destination.code = .ok (source, destination))
    (hwithin : amountUnits ≤ maxBurnAmountUnits)
    (hwallet : isAddress runtime (trim walletAddress) = true)
    (hrecipient : isAddress runtime (trim recipientAddress) = true) :
    ∃ checked, checkRequest runtime
      (quoted.request idempotencyKey walletAddress recipientAddress) = .ok checked := by
  obtain ⟨wallet, hwalletOk⟩ := @parseAddress_valid runtime walletAddress "walletAddress" hwallet
  obtain ⟨recipient, hrecipientOk⟩ :=
    @parseAddress_valid runtime recipientAddress "recipientAddress" hrecipient
  obtain ⟨amount, hamount⟩ := (@parseAmount_toString amountUnits "amount").mpr hwithin
  obtain ⟨fee, hfee⟩ :=
    (@parseAmount_toString maxFee "maxFee").mpr (hquoted.maxFee_le.trans hwithin)
  have hamountIs : amount = amountUnits := by rw [parseAmount_ok hamount, bigInt_toString]
  have hfeeIs : fee = maxFee := by rw [parseAmount_ok hfee, bigInt_toString]
  refine ⟨⟨source, destination, wallet, recipient, amount, fee⟩, ?_⟩
  refine except_bind_ok.mpr ⟨(source, destination), ?_, ?_⟩
  · rw [BridgeQuote.request, hquoted.sourceCode, hquoted.destinationCode]
    exact hroute
  refine except_bind_ok.mpr ⟨wallet, hwalletOk, except_bind_ok.mpr ⟨recipient, hrecipientOk, ?_⟩⟩
  refine except_bind_ok.mpr ⟨amount, ?_, except_bind_ok.mpr ⟨fee, ?_, ?_⟩⟩
  · rw [BridgeQuote.request, hquoted.amount]
    exact hamount
  · rw [BridgeQuote.request, hquoted.maxFeeSuggested]
    exact hfee
  · have hcovers : ¬ amount < fee := by
      rw [hamountIs, hfeeIs]
      exact Nat.not_lt.mpr hquoted.maxFee_le
    have hthreshold : ¬ (quoted.request idempotencyKey walletAddress
        recipientAddress).minFinalityThreshold ≠ source.finalityThreshold :=
      not_not.mpr hquoted.minFinalityThreshold
    rw [if_neg (hamountIs ▸ hpositive), if_neg hcovers, if_neg hthreshold]
    rfl

end Request

/-- Whatever is quoted can be created exactly if its route is one, its amount can be
burned at once, and for a fast route the first fast fee is covered. -/
theorem quoted_bridge_created_iff {circle : CircleAnswers}
    {sourceCode destinationCode amount : String} {quoted : BridgeQuote}
    (hquote : quote circle sourceCode destinationCode amount = .ok quoted)
    {idempotencyKey walletAddress recipientAddress freshId : String}
    (hwallet : isAddress runtime (trim walletAddress) = true)
    (hrecipient : isAddress runtime (trim recipientAddress) = true)
    (hfresh : ∀ stored ∈ rows, stored.creation.idempotencyKey ≠ idempotencyKey) :
    (∃ created last, (createIntent runtime
        (quoted.request idempotencyKey walletAddress recipientAddress)).alone creationMachine
          (circle.input freshId) rows = (.ok created, last)) ↔
      Creatable circle sourceCode destinationCode amount := by
  obtain ⟨source, destination, maxFee, hsource, hdestination, hpositive, hquoted⟩ := quote_says hquote
  obtain rfl := getBridgeChain_ok hsource
  obtain rfl := getBridgeChain_ok hdestination
  rw [@createIntent_fresh runtime rows _ (circle.input freshId) rfl hfresh]
  constructor
  · rintro ⟨checked, hchecked, hready⟩
    obtain ⟨hroute, hwithin, hsame, hamount, hmaxFee⟩ :=
      checkRequest_quoted hquoted hsource hdestination hchecked
    refine ⟨source, destination, hroute, hwithin, fun hfast => ?_⟩
    obtain ⟨routeBps, -, hrouteBps, hmax, -, -⟩ := hquoted.fast hfast
    obtain ⟨hundredths, -, hfee, hcovered, -, -⟩ := hready (hsame ▸ hfast)
    obtain ⟨firstBps, hfirst, rfl⟩ := Option.map_eq_some_iff.mp hfee
    refine ⟨routeBps, firstBps, hrouteBps, ?_, ?_⟩
    · cases hanswer : readAnswer circle.fees firstFastFeeBps with
      | error error =>
          rw [hanswer] at hfirst
          cases hfirst
      | ok value =>
          rw [hanswer] at hfirst
          exact congrArg Except.ok (Option.some.inj hfirst)
    · rw [hamount, hmaxFee, hmax] at hcovered
      exact hcovered
  · rintro ⟨first, second, hroute, hwithin, hcovered⟩
    obtain ⟨hfirst, hsecond⟩ := assertBridgeRoute_ok hroute
    obtain rfl := Except.ok.inj (hsource.symm.trans hfirst)
    obtain rfl := Except.ok.inj (hdestination.symm.trans hsecond)
    obtain ⟨checked, hchecked⟩ := @checkRequest_of_route runtime circle source destination _ maxFee
      quoted idempotencyKey walletAddress recipientAddress hquoted hpositive hroute hwithin hwallet
      hrecipient
    obtain ⟨-, -, hsame, hamount, hmaxFee⟩ :=
      checkRequest_quoted hquoted hsource hdestination hchecked
    refine ⟨checked, hchecked, fun hfast => ?_⟩
    rw [hsame] at hfast
    obtain ⟨routeBps, allowance, hrouteBps, hmax, hallowance, henough⟩ := hquoted.fast hfast
    obtain ⟨otherBps, firstBps, hother, hfirstBps, hfee⟩ := hcovered hfast
    obtain rfl := Except.ok.inj (hrouteBps.symm.trans hother)
    refine ⟨hundredthsOf firstBps, allowance, ?_, ?_, ?_, ?_⟩
    · rw [CircleAnswers.input, hfirstBps]
      rfl
    · rw [hamount, hmaxFee, hmax]
      exact hfee
    · rw [CircleAnswers.input, hallowance]
      rfl
    · rw [hamount]
      exact henough

def quotingWallet : String := "0x1111111111111111111111111111111111111111"

/-- A bridge from Arc, quoted without asking Circle. -/
theorem quoted_bridge_created_iff_standard :
    (∃ created last, (createIntent (.ofTable [] [])
        ((standardQuote (bridgeChain "ARC-MAINNET" 5042 26
            0x3600000000000000000000000000000000000000 false)
          (bridgeChain "BASE-MAINNET" 8453 6 0x833589fCD6eDb6E08f4c7C32D4f71b54bdA02913 true)
          1000000).request "key-1" quotingWallet quotingWallet)).alone creationMachine
          (CircleAnswers.input ⟨none, none⟩ "bridge-1") [] = (.ok created, last)) ↔
      Creatable ⟨none, none⟩ "ARC-MAINNET" "BASE-MAINNET" "1000000" :=
  quoted_bridge_created_iff (by decide +kernel) (by decide +kernel) (by decide +kernel)
    (fun _ hstored => nomatch hstored)

/-- An entry of Circle's list of fees. -/
def feeEntry (sourceDomain minimumFee : String) : Json := .object [
  ("sourceDomain", .number sourceDomain), ("destinationDomain", .number "26"),
  ("finalityThreshold", .number "1000"), ("minimumFee", .number minimumFee)]

/-- The fee of the route from Ethereum comes first. -/
def exampleCircle : CircleAnswers where
  fees := some ⟨200, some (.array [feeEntry "0" "10", feeEntry "6" "1"])⟩
  allowance := some ⟨200, some (.object [("allowance", .number "1000000")])⟩

/-- A bridge from Base is quoted with the fee of its route. Its creation demands the
fee of the first entry, and is refused. -/
theorem quoted_bridge_refused :
    ∃ quoted, quote exampleCircle "BASE-MAINNET" "ARC-MAINNET" "1000000" = .ok quoted ∧
      isAddress (.ofTable [] []) (trim quotingWallet) = true ∧
      ((createIntent (.ofTable [] []) (quoted.request "key-1" quotingWallet quotingWallet)).alone
        creationMachine (exampleCircle.input "bridge-1") []).1.toOption = none := by
  have hquote : (quote exampleCircle "BASE-MAINNET" "ARC-MAINNET" "1000000").toOption =
      some ⟨"BASE-MAINNET", "ARC-MAINNET", .fast, 1000, "1000000", "100", "120", "999900",
        some true⟩ := by
    decide +kernel
  cases hresult : quote exampleCircle "BASE-MAINNET" "ARC-MAINNET" "1000000" with
  | error error =>
      rw [hresult] at hquote
      cases hquote
  | ok quoted =>
      rw [hresult] at hquote
      obtain rfl := Option.some.inj hquote
      exact ⟨_, rfl, by decide +kernel, by decide +kernel⟩

end WizPay.Bridge
