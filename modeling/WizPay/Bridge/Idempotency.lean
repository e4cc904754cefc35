import WizPay.Backend.Conditions
import WizPay.Bridge.Creation

/-!
# One intent an idempotency key

A creation that nothing came before, and a lookup that finds the same maximal fee,
keep one intent a key. Then a call that succeeds returns what it asked for.
-/

namespace WizPay.Bridge

open Foundation Backend

variable {runtime : Runtime}

/-! ## What a call asks for -/

/-- The intent is the one that was requested, in every parameter. -/
structure Fulfils (request : CreateBridgeIntent) (created : CreatedView) : Prop where
  idempotencyKey : created.creation.idempotencyKey = request.idempotencyKey
  sourceCode : created.creation.sourceCode = request.sourceCode
  destinationCode : created.creation.destinationCode = request.destinationCode
  walletAddress : addressOf (trim request.walletAddress) = some created.intent.payload.walletAddress
  recipientAddress :
    addressOf (trim request.recipientAddress) = some created.intent.payload.recipientAddress
  amount : created.intent.payload.amount = toString (bigInt request.amount)
  maxFee : created.intent.payload.maxFee = toString (bigInt request.maxFee)
  minFinalityThreshold :
    created.intent.payload.minFinalityThreshold = request.minFinalityThreshold

theorem getBridgeChain_ok {code : String} {chain : BridgeChain}
    (hchain : getBridgeChain code = .ok chain) : chain.code = code := by
  unfold getBridgeChain at hchain
  split at hchain
  · next found hfound =>
      cases hchain
      simpa using List.find?_some hfound
  · cases hchain

theorem assertBridgeRoute_ok {sourceCode destinationCode : String} {source destination : BridgeChain}
    (hroute : assertBridgeRoute sourceCode destinationCode = .ok (source, destination)) :
    getBridgeChain sourceCode = .ok source ∧ getBridgeChain destinationCode = .ok destination := by
  obtain ⟨first, hfirst, hrest⟩ := except_bind_ok.mp hroute
  obtain ⟨second, hsecond, hchecked⟩ := except_bind_ok.mp hrest
  split at hchecked
  · cases hchecked
  · split at hchecked
    · cases hchecked
    · cases hchecked
      exact ⟨hfirst, hsecond⟩

theorem parseAddress_ok {value label : String} {address : Evm.Address}
    (haddress : parseAddress runtime value label = .ok address) :
    addressOf (trim value) = some address := by
  unfold parseAddress at haddress
  dsimp only at haddress
  split at haddress
  · split at haddress
    · next found hfound =>
        cases haddress
        exact hfound
    · cases haddress
  · cases haddress

theorem parseAmount_ok {value label : String} {amount : ℕ}
    (hamount : parseAmount value label = .ok amount) : amount = bigInt value := by
  unfold parseAmount at hamount
  split at hamount
  · cases hamount
  · split at hamount
    · cases hamount
    · exact (Except.ok.inj hamount).symm

/-- What a checked request carries of the request. -/
structure CheckedRequest.Of (checked : CheckedRequest) (request : CreateBridgeIntent) : Prop where
  source : getBridgeChain request.sourceCode = .ok checked.source
  destination : getBridgeChain request.destinationCode = .ok checked.destination
  walletAddress : addressOf (trim request.walletAddress) = some checked.walletAddress
  recipientAddress : addressOf (trim request.recipientAddress) = some checked.recipientAddress
  amount : checked.amount = bigInt request.amount
  maxFee : checked.maxFee = bigInt request.maxFee
  minFinalityThreshold : request.minFinalityThreshold = checked.source.finalityThreshold

theorem checkRequest_ok {request : CreateBridgeIntent} {checked : CheckedRequest}
    (hchecked : checkRequest runtime request = .ok checked) : checked.Of request := by
  obtain ⟨⟨source, destination⟩, hroute, hrest⟩ := except_bind_ok.mp hchecked
  obtain ⟨walletAddress, hwallet, hrest⟩ := except_bind_ok.mp hrest
  obtain ⟨recipientAddress, hrecipient, hrest⟩ := except_bind_ok.mp hrest
  obtain ⟨amount, hamount, hrest⟩ := except_bind_ok.mp hrest
  obtain ⟨maxFee, hmaxFee, hrest⟩ := except_bind_ok.mp hrest
  split at hrest
  · cases hrest
  · split at hrest
    · cases hrest
    · split at hrest
      · cases hrest
      · next hthreshold =>
          cases hrest
          obtain ⟨hsource, hdestination⟩ := assertBridgeRoute_ok hroute
          exact ⟨hsource, hdestination, parseAddress_ok hwallet, parseAddress_ok hrecipient,
            parseAmount_ok hamount, parseAmount_ok hmaxFee, not_not.mp hthreshold⟩

/-! ## Stored intents -/

/-- One intent a key, each with the threshold of its source. -/
structure ConsistentBridges (rows : List StoredBridge) : Prop where
  unique : rows.Pairwise fun first second =>
    first.creation.idempotencyKey ≠ second.creation.idempotencyKey
  threshold : ∀ stored ∈ rows, ∀ source, getBridgeChain stored.creation.sourceCode = .ok source →
    stored.row.payload.minFinalityThreshold = source.finalityThreshold

/-- The others add rows, and keep the table consistent. -/
def Grows (before after : List StoredBridge) : Prop :=
  (∀ stored ∈ before, stored ∈ after) ∧ ConsistentBridges after

theorem grows_isRely : IsRely Grows where
  trans hfirst hsecond :=
    ⟨fun stored hstored => hsecond.1 stored (hfirst.1 stored hstored), hsecond.2⟩
  refl_after hgrows := ⟨fun _ hstored => hstored, hgrows.2⟩

/-- A creation meets no row with its key, and a lookup by a request that finds one
with the parameters it compares finds its maximal fee, too. -/
def CreationCondition (runtime : Runtime) (request : CreateBridgeIntent) :
    CreationOp → CreationInput → List StoredBridge → Prop
  | .create _ creation, input, rows => input.outage = none →
      ∀ stored ∈ rows, stored.creation.idempotencyKey ≠ creation.idempotencyKey
  | .findFirst idempotencyKey, input, rows => input.outage = none →
      ∀ stored checked, (rows.find? fun stored => stored.creation.idempotencyKey = idempotencyKey) =
          some stored → checkRequest runtime request = .ok checked →
        sameRequest stored checked = true → stored.row.payload.maxFee = toString checked.maxFee
  | _, _, _ => True

/-- A creation brings the threshold of its source. -/
def CreationGuarantee : CreationOp → CreationInput → List StoredBridge → Prop
  | .create payload creation, _, _ => ∀ source,
      getBridgeChain creation.sourceCode = .ok source →
        payload.minFinalityThreshold = source.finalityThreshold
  | _, _, _ => True

/-- A created or found intent is stored. -/
def Stored (created : CreatedView) (rows : List StoredBridge) : Prop :=
  ∃ stored ∈ rows, stored.view = created

theorem creation_moves {op : CreationOp} {input : CreationInput} {rows : List StoredBridge}
    (hrows : ConsistentBridges rows) {request : CreateBridgeIntent}
    (hcondition : CreationCondition runtime request op input rows)
    (hguar : CreationGuarantee op input rows) :
    Grows rows (creationMachine.answer op input rows).2 := by
  cases op with
  | create payload creation =>
      simp only [creationMachine]
      cases houtage : input.outage with
      | some error => exact ⟨fun _ hstored => hstored, hrows⟩
      | none =>
          refine ⟨fun stored hstored => List.mem_append_left _ hstored, ?_, ?_⟩
          · refine List.pairwise_append.mpr ⟨hrows.unique, List.pairwise_singleton _ _, ?_⟩
            intro stored hstored created hcreated
            rw [List.mem_singleton.mp hcreated]
            exact hcondition houtage stored hstored
          · intro stored hstored source hsource
            rcases List.mem_append.mp hstored with hstored | hstored
            · exact hrows.threshold stored hstored source hsource
            · obtain rfl := List.mem_singleton.mp hstored
              exact hguar source hsource
  | _ => exact ⟨fun _ hstored => hstored, hrows⟩

/-! ## One call -/

section

variable {request : CreateBridgeIntent} {rows : List StoredBridge}

open Service

/-- The operation asks Circle. -/
def CreationOp.Asks : CreationOp → Prop
  | .fetchFees _ _ => True
  | .fetchAllowance => True
  | _ => False

theorem assertFastReady_performs (checked : CheckedRequest) :
    Performs CreationOp.Asks (assertFastReady checked) := by
  refine performs_bind (performs_perform trivial) fun fee => ?_
  cases fee with
  | none => exact performs_throw _
  | some hundredths =>
      refine performs_bind (performs_throwIf _) fun _ => ?_
      refine performs_bind (performs_perform trivial) fun allowance => ?_
      cases allowance with
      | none => exact performs_throw _
      | some allowance => exact performs_throwIf _

/-- A found intent with the compared parameters and the maximal fee is the requested
one: its threshold is that of the source. -/
theorem found_fulfils {stored : StoredBridge} {checked : CheckedRequest}
    (hof : checked.Of request) (hkey : stored.creation.idempotencyKey = request.idempotencyKey)
    (hthreshold : ∀ source, getBridgeChain stored.creation.sourceCode = .ok source →
      stored.row.payload.minFinalityThreshold = source.finalityThreshold)
    (hsame : sameRequest stored checked = true)
    (hmaxFee : stored.row.payload.maxFee = toString checked.maxFee) :
    Fulfils request stored.view := by
  simp only [sameRequest, Bool.and_eq_true, decide_eq_true_eq] at hsame
  obtain ⟨⟨⟨⟨hwallet, hsource⟩, hdestination⟩, hamount⟩, hrecipient⟩ := hsame
  have hsourceCode := getBridgeChain_ok hof.source
  have hdestinationCode := getBridgeChain_ok hof.destination
  refine ⟨hkey, hsource.trans hsourceCode, hdestination.trans hdestinationCode, ?_, ?_, ?_, ?_, ?_⟩
  · rw [hof.walletAddress, ← hwallet]
    rfl
  · rw [hof.recipientAddress, ← hrecipient]
    rfl
  · rw [← hof.amount, ← hamount]
    rfl
  · rw [← hof.maxFee, ← hmaxFee]
    rfl
  · rw [hof.minFinalityThreshold]
    apply hthreshold
    rw [hsource, hsourceCode, hof.source]

theorem created_fulfils {id : String} {checked : CheckedRequest} (hof : checked.Of request) :
    Fulfils request (StoredBridge.created id (intentPayload checked)
      (intentCreation request.idempotencyKey checked)).view where
  idempotencyKey := rfl
  sourceCode := getBridgeChain_ok hof.source
  destinationCode := getBridgeChain_ok hof.destination
  walletAddress := hof.walletAddress
  recipientAddress := hof.recipientAddress
  amount := congrArg toString hof.amount
  maxFee := congrArg toString hof.maxFee
  minFinalityThreshold := hof.minFinalityThreshold.symm

theorem findOrCreate_expects {checked : CheckedRequest}
    (hchecked : checkRequest runtime request = .ok checked) (state : List StoredBridge) :
    Expects creationMachine Grows (CreationCondition runtime request) CreationGuarantee
      (fun created rows => Fulfils request created ∧ Stored created rows)
      (findOrCreate request.idempotencyKey checked) state := by
  have hof := checkRequest_ok hchecked
  have hfind : Expects creationMachine Grows (CreationCondition runtime request) CreationGuarantee
      (fun found rows => ∀ stored, found = some stored → stored ∈ rows ∧
        (sameRequest stored checked = true → Fulfils request stored.view))
      (findFirst request.idempotencyKey) state := by
    have hread : Expects creationMachine Grows (CreationCondition runtime request)
        CreationGuarantee (fun answer rows => ∀ stored, answer = .ok (some stored) →
          stored ∈ rows ∧ (sameRequest stored checked = true → Fulfils request stored.view))
        (perform (S := creationSignature) (.findFirst request.idempotencyKey)) state := by
      refine expects_perform fun later hlater input hcondition => ⟨trivial, ?_⟩
      intro last hlast stored hanswer
      simp only [creationMachine] at hanswer
      split at hanswer
      · next houtage =>
          have hfound := Except.ok.inj hanswer
          have hmember := List.mem_of_find?_eq_some hfound
          have hkey : stored.creation.idempotencyKey = request.idempotencyKey := by
            simpa using List.find?_some hfound
          refine ⟨hlast.1 stored hmember, fun hsame => found_fulfils hof hkey ?_ hsame ?_⟩
          · exact hlater.2.threshold stored hmember
          · exact hcondition houtage stored checked hfound hchecked hsame
      · cases hanswer
    refine expects_bind grows_isRely hread fun answer later hanswer => ?_
    refine expects_orThrow fun found hfound last hlast stored hstored => ?_
    obtain ⟨hmember, hfulfils⟩ := hanswer stored (hfound.trans (congrArg Except.ok hstored))
    exact ⟨hlast.1 stored hmember, hfulfils⟩
  refine expects_bind grows_isRely hfind fun found later hfound => ?_
  cases found with
  | some existing =>
      obtain ⟨hmember, hfulfils⟩ := hfound existing rfl
      have hcheck : Expects creationMachine Grows (CreationCondition runtime request)
          CreationGuarantee (fun _ rows => Fulfils request existing.view ∧ existing ∈ rows)
          (throwIf (sameRequest existing checked = false) (.conflict "BRIDGE_INTENT_CONFLICT"
            "A bridge intent with this idempotency key already exists with different parameters."))
          later :=
        expects_throwIf fun hsame last hlast =>
          ⟨hfulfils (by simpa using hsame), hlast.1 existing hmember⟩
      refine expects_bind grows_isRely hcheck fun _ checkedAt hboth => ?_
      exact expects_pure fun last hlast =>
        ⟨hboth.1, existing, hlast.1 existing hboth.2, rfl⟩
  | none =>
      have hcreate : Expects creationMachine Grows (CreationCondition runtime request)
          CreationGuarantee (fun created rows => Fulfils request created.view ∧ created ∈ rows)
          (create (intentPayload checked) (intentCreation request.idempotencyKey checked)) later := by
        have hwrite : Expects creationMachine Grows (CreationCondition runtime request)
            CreationGuarantee (fun answer rows => ∀ created, answer = .ok created →
              Fulfils request created.view ∧ created ∈ rows)
            (perform (S := creationSignature) (.create (intentPayload checked)
              (intentCreation request.idempotencyKey checked))) later := by
          refine expects_perform fun now hnow input _ => ⟨fun source hsource => ?_, ?_⟩
          · have hcode := getBridgeChain_ok hof.source
            have hsame : getBridgeChain checked.source.code = .ok checked.source := by
              rw [hcode]
              exact hof.source
            obtain rfl := Except.ok.inj (hsame.symm.trans hsource)
            rfl
          · intro last hlast created hanswer
            simp only [creationMachine] at hanswer hlast
            split at hanswer
            · next houtage =>
                obtain rfl := Except.ok.inj hanswer
                rw [houtage] at hlast
                exact ⟨created_fulfils hof, hlast.1 _ (List.mem_append_right _ (by simp))⟩
            · cases hanswer
        refine expects_bind grows_isRely hwrite fun answer now hanswer => ?_
        refine expects_orThrow fun created hcreated last hlast => ?_
        obtain ⟨hfulfils, hmember⟩ := hanswer created hcreated
        exact ⟨hfulfils, hlast.1 created hmember⟩
      refine expects_bind grows_isRely hcreate fun created now hboth => ?_
      exact expects_pure fun last hlast => ⟨hboth.1, created, hlast.1 created hboth.2, rfl⟩

theorem createIntent_expects (request : CreateBridgeIntent) (state : List StoredBridge) :
    Expects creationMachine Grows (CreationCondition runtime request) CreationGuarantee
      (fun created rows => Fulfils request created ∧ Stored created rows)
      (createIntent runtime request) state := by
  have hcheck : Expects creationMachine Grows (CreationCondition runtime request) CreationGuarantee
      (fun checked _ => checkRequest runtime request = .ok checked)
      (Service.ofExcept (checkRequest runtime request)) state :=
    expects_ofExcept fun checked hchecked _ _ => hchecked
  refine expects_bind grows_isRely hcheck fun checked later hchecked => ?_
  split
  · refine expects_then grows_isRely ?_ fun _ now => findOrCreate_expects hchecked now
    refine expects_of_performs (fun op hop input rows => ?_) (assertFastReady_performs checked) later
    cases op with
    | create => exact hop.elim
    | _ => trivial
  · exact findOrCreate_expects hchecked later

end

/-! ## Concurrent calls -/

def creationPool (runtime : Runtime) (requests : List CreateBridgeIntent)
    (rows : List StoredBridge) :
    Pool creationSignature (List StoredBridge) (Except ServiceError CreatedView) where
  state := rows
  threads := requests.map fun request => (createIntent runtime request).run

/-- One intent a key, and a call that succeeded returned what it asked for: it does
not succeed when the intent with its key is another one. -/
structure IdempotentCreation (requests : List CreateBridgeIntent)
    (pool : Pool creationSignature (List StoredBridge) (Except ServiceError CreatedView)) :
    Prop where
  unique : pool.state.Pairwise fun first second =>
    first.creation.idempotencyKey ≠ second.creation.idempotencyKey
  fulfils : ∀ thread request created, requests[thread]? = some request →
    pool.returned thread = some (.ok created) → Fulfils request created
  conflicts : ∀ thread request created, requests[thread]? = some request →
    pool.returned thread = some (.ok created) → ∀ stored ∈ pool.state,
      stored.creation.idempotencyKey = request.idempotencyKey → Fulfils request stored.view

/-- The condition of the request that a thread serves. -/
def RequestCondition (runtime : Runtime) (requests : List CreateBridgeIntent) (thread : ℕ)
    (op : CreationOp) (input : CreationInput) (rows : List StoredBridge) : Prop :=
  ∃ request, requests[thread]? = some request ∧ CreationCondition runtime request op input rows

/-- In every run of concurrent creations whose creations meet no row with their key,
and whose lookups find the requested maximal fee, every moment is idempotent. -/
theorem createIntent_idempotent (requests : List CreateBridgeIntent) {rows : List StoredBridge}
    (hrows : ConsistentBridges rows) {choices : List (ℕ × CreationInput)}
    (hrun : Pool.Along creationMachine (Pool.Conditioned (RequestCondition runtime requests))
      choices (creationPool runtime requests rows)) :
    ∀ first rest, choices = first ++ rest →
      IdempotentCreation requests
        ((creationPool runtime requests rows).run creationMachine first) := by
  rintro first rest rfl
  have hpool : (creationPool runtime requests rows).Expects creationMachine Grows
      (RequestCondition runtime requests) (fun _ => CreationGuarantee)
      (fun thread outcome rows => ∀ request created, requests[thread]? = some request →
        outcome = .ok created → Fulfils request created ∧ Stored created rows) := by
    intro thread program hprogram
    obtain ⟨request, hrequest, rfl⟩ :=
      Option.map_eq_some_iff.mp (List.getElem?_map.symm.trans hprogram)
    refine ((createIntent_expects request rows).mono_condition ?_).mono ?_
    · rintro op input state ⟨other, hother, hcondition⟩
      obtain rfl := Option.some.inj (hrequest.symm.trans hother)
      exact hcondition
    · rintro outcome state hpost other created hother rfl
      obtain rfl := Option.some.inj (hrequest.symm.trans hother)
      exact hpost created rfl
  have hmove : ∀ thread op input state, Grows state state →
      RequestCondition runtime requests thread op input state → CreationGuarantee op input state →
      Grows state (creationMachine.answer op input state).2 := by
    rintro thread op input state hstate ⟨request, -, hcondition⟩ hguar
    exact creation_moves hstate.2 hcondition hguar
  obtain ⟨hgrows, hreturned⟩ := hpool.returned grows_isRely hmove ⟨fun _ hstored => hstored, hrows⟩ hrun
  refine ⟨hgrows.2.unique, ?_, ?_⟩
  · exact fun thread request created hrequest hdone =>
      (hreturned thread _ hdone request created hrequest rfl).1
  · intro thread request created hrequest hdone stored hstored hkey
    obtain ⟨hfulfils, own, hown, rfl⟩ := hreturned thread _ hdone request created hrequest rfl
    -- The stored intent with the key is the one that was returned.
    have hsame : stored = own := by
      by_contra hne
      have : Std.Symm fun first second : StoredBridge =>
          first.creation.idempotencyKey ≠ second.creation.idempotencyKey := ⟨fun _ _ => Ne.symm⟩
      exact List.Pairwise.forall hgrows.2.unique hstored hown hne
        (hkey.trans hfulfils.idempotencyKey.symm)
    rw [hsame]
    exact hfulfils

/-- One dollar from Arc to Base. -/
def exampleRequest (maxFee : String) : CreateBridgeIntent where
  idempotencyKey := "11111111-1111-4111-8111-111111111111"
  sourceCode := "ARC-MAINNET"
  destinationCode := "BASE-MAINNET"
  walletAddress := "0x1111111111111111111111111111111111111111"
  recipientAddress := "0x2222222222222222222222222222222222222222"
  amount := "1000000"
  maxFee
  minFinalityThreshold := 2000

def exampleCreation : CreationInput := ⟨"bridge-1", none, none, none⟩

def exampleRequests : List CreateBridgeIntent := [exampleRequest "1000", exampleRequest "999"]

/-- The first call runs to its end. -/
def firstCall : List (ℕ × CreationInput) := [(0, exampleCreation), (0, exampleCreation)]

/-- While there are no rows, every operation of the first call meets its condition. -/
theorem requestCondition_nil (op : CreationOp) (input : CreationInput) :
    RequestCondition (.ofTable [] []) exampleRequests 0 op input [] := by
  refine ⟨exampleRequest "1000", rfl, ?_⟩
  cases op with
  | create => exact fun _ _ hstored => nomatch hstored
  | findFirst => exact fun _ _ _ hfound => nomatch hfound
  | _ => trivial

/-- A call that finds nothing creates an intent. -/
theorem createIntent_idempotent_first :
    (((creationPool (.ofTable [] []) exampleRequests []).run creationMachine
        firstCall).returned 0).isSome = true ∧
      ∀ first rest, firstCall = first ++ rest → IdempotentCreation exampleRequests
        ((creationPool (.ofTable [] []) exampleRequests []).run creationMachine first) := by
  have hlooked : ((creationPool (.ofTable [] []) exampleRequests []).step creationMachine
      (0, exampleCreation)).state = [] := by
    decide +kernel
  have hcondition : Pool.Along creationMachine
      (Pool.Conditioned (RequestCondition (.ofTable [] []) exampleRequests)) firstCall
      (creationPool (.ofTable [] []) exampleRequests []) := by
    refine Pool.along_cons.mpr ⟨fun op _ => requestCondition_nil op _,
      Pool.along_cons.mpr ⟨fun op _ => ?_, Pool.along_nil _⟩⟩
    rw [hlooked]
    exact requestCondition_nil op _
  exact ⟨by decide +kernel,
    createIntent_idempotent exampleRequests ⟨List.Pairwise.nil, fun _ hstored => nomatch hstored⟩
      hcondition⟩

/-- The second call with the key asks for another maximal fee, and gets the first
intent all the same. -/
theorem other_maximal_fee_accepted :
    ¬ IdempotentCreation exampleRequests ((creationPool (.ofTable [] []) exampleRequests []).run
      creationMachine (firstCall ++ [(1, exampleCreation)])) := by
  intro hidempotent
  have hreturned : (((creationPool (.ofTable [] []) exampleRequests []).run creationMachine
      (firstCall ++ [(1, exampleCreation)])).returned 1).map
        (fun outcome => outcome.toOption.map fun created => created.intent.payload.maxFee) =
      some (some "1000") := by
    decide +kernel
  have hdiffer : toString (bigInt "999") ≠ "1000" := by decide +kernel
  obtain ⟨outcome, hdone, hfee⟩ := Option.map_eq_some_iff.mp hreturned
  cases outcome with
  | error error => cases hfee
  | ok created =>
      have hfulfils := (hidempotent.fulfils 1 _ created rfl hdone).maxFee
      exact hdiffer (hfulfils.symm.trans (Option.some.inj hfee))

end WizPay.Bridge
