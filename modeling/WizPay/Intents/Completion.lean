import Mathlib.Data.List.Pairwise
import WizPay.Intents.Digest
import WizPay.Intents.Steps

/-!
# Completed intents

What concurrent calls rely on about each other: the request of an intent never
changes, a bound hash stays, and a completed intent with a hash stays completed.
Under that interference a completing write still finds the row it checked.
-/

namespace WizPay.Intents

open Foundation Backend ExecutionIntentStatus

/-! ## What a row keeps -/

/-- The immutable request of an intent, without the owner that may be bound later. -/
def ExecutionIntent.request (intent : ExecutionIntent) : Immutable :=
  { intent.immutable with ownerId := none }

/-- How a row may change: its request stays, a bound hash stays bound, and a
completed row that has one stays completed. -/
structure Evolves (before after : ExecutionIntent) : Prop where
  id : after.id = before.id
  request : after.request = before.request
  transactionHash : ∀ hash, before.transactionHash = some hash → after.transactionHash = some hash
  completed : before.status = COMPLETED → before.transactionHash ≠ none → after.status = COMPLETED

theorem Evolves.refl (row : ExecutionIntent) : Evolves row row :=
  ⟨rfl, rfl, fun _ hhash => hhash, fun hstatus _ => hstatus⟩

theorem Evolves.trans {first second third : ExecutionIntent} (hfirst : Evolves first second)
    (hsecond : Evolves second third) : Evolves first third where
  id := hsecond.id.trans hfirst.id
  request := hsecond.request.trans hfirst.request
  transactionHash hash hhash := hsecond.transactionHash hash (hfirst.transactionHash hash hhash)
  completed hstatus hbound := by
    obtain ⟨hash, hhash⟩ := Option.ne_none_iff_exists'.mp hbound
    refine hsecond.completed (hfirst.completed hstatus hbound) ?_
    rw [hfirst.transactionHash hash hhash]
    exact Option.some_ne_none hash

theorem apply_evolves {update : IntentUpdate} {row : ExecutionIntent}
    (hselects : update.selects row = true) : Evolves row (update.apply row) := by
  cases update with
  | attachTask | acquireLease | bindImmutableExecutionContext | bindCircleCorrelation =>
      exact ⟨rfl, rfl, fun _ hhash => hhash, fun hstatus _ => hstatus⟩
  | transition id edge data completedAt =>
      refine ⟨rfl, rfl, fun _ hhash => hhash, fun hstatus _ => ?_⟩
      simp only [IntentUpdate.selects, IntentUpdate.condition, Bool.and_eq_true,
        decide_eq_true_eq] at hselects
      have hallowed := edge.allowed
      rw [← hselects.2, hstatus] at hallowed
      cases hallowed
  | bindTransactionHash id hash =>
      simp only [IntentUpdate.selects, IntentUpdate.condition, Bool.and_eq_true,
        decide_eq_true_eq] at hselects
      exact ⟨rfl, rfl, fun _ hhash => absurd (hselects.2.symm.trans hhash) (by simp),
        fun _ hbound => absurd hselects.2 hbound⟩
  | cancelUnsubmitted id =>
      simp only [IntentUpdate.selects, IntentUpdate.condition, Bool.and_eq_true,
        decide_eq_true_eq] at hselects
      exact ⟨rfl, rfl, fun _ hhash => hhash, fun _ hbound => absurd hselects.2.1 hbound⟩

/-! ## What the table keeps -/

/-- Every row is still there, evolved, and the unique columns hold. -/
structure Progresses (before after : Database) : Prop where
  unique : UniqueIntents after.intents
  rows : ∀ row ∈ before.intents, ∃ next ∈ after.intents, Evolves row next

theorem progresses_refl {database : Database} (hunique : UniqueIntents database.intents) :
    Progresses database database :=
  ⟨hunique, fun row hmember => ⟨row, hmember, .refl row⟩⟩

theorem progresses_isRely : IsRely Progresses where
  trans := by
    intro first second third hfirst hsecond
    refine ⟨hsecond.unique, fun row hmember => ?_⟩
    obtain ⟨next, hnext, hevolves⟩ := hfirst.rows row hmember
    obtain ⟨last, hlast, hlater⟩ := hsecond.rows next hnext
    exact ⟨last, hlast, hevolves.trans hlater⟩
  refl_after hlater := progresses_refl hlater.unique

theorem clashes_comm (first second : ExecutionIntent) :
    first.clashes second = second.clashes first := by
  have hoption : ∀ one other : Option String,
      (one.isSome && decide (one = other)) = (other.isSome && decide (other = one)) := by
    intro one other
    by_cases hsame : one = other
    · rw [hsame]
    · simp [hsame, Ne.symm hsame]
  simp only [ExecutionIntent.clashes, eq_comm, hoption first.circleChallengeId,
    hoption first.circleTransactionId, hoption first.transactionHash]

/-- Rows that agree on a unique column are one row. -/
theorem row_unique {intents : List ExecutionIntent} (hunique : UniqueIntents intents)
    {first second : ExecutionIntent} (hfirst : first ∈ intents) (hsecond : second ∈ intents)
    (hclashes : first.clashes second = true) : first = second := by
  have hsymm : Std.Symm fun one other : ExecutionIntent => one.clashes other = false :=
    ⟨fun one other hclash => (clashes_comm other one).trans hclash⟩
  by_contra hne
  have hnone := List.Pairwise.forall hunique hfirst hsecond hne
  rw [hnone] at hclashes
  cases hclashes

theorem row_unique_id {intents : List ExecutionIntent} (hunique : UniqueIntents intents)
    {first second : ExecutionIntent} (hfirst : first ∈ intents) (hsecond : second ∈ intents)
    (hid : first.id = second.id) : first = second :=
  row_unique hunique hfirst hsecond (by simp [ExecutionIntent.clashes, hid])

theorem row_unique_hash {intents : List ExecutionIntent} (hunique : UniqueIntents intents)
    {first second : ExecutionIntent} {hash : String} (hfirst : first ∈ intents)
    (hsecond : second ∈ intents) (hone : first.transactionHash = some hash)
    (hother : second.transactionHash = some hash) : first = second :=
  row_unique hunique hfirst hsecond (by simp [ExecutionIntent.clashes, hone, hother])

variable {runtime : Runtime} {routing : PaymentRouting}

theorem answer_progresses (op : IntentOp) (input : Input) {database : Database}
    (hunique : UniqueIntents database.intents) :
    Progresses database ((intentMachine runtime routing).answer op input database).2 := by
  rcases answer_cases runtime routing op input database with
    hsame | ⟨canonical, -, hinserted, hnext⟩ | ⟨update, -, hcommits, hupdated⟩
  · rw [hsame]
    exact progresses_refl hunique
  · rw [hinserted]
    exact ⟨hnext, fun row hmember => ⟨row, List.mem_append_left _ hmember, .refl row⟩⟩
  · rw [hupdated]
    refine ⟨hcommits.1, fun row hmember => ⟨_, List.mem_map_of_mem hmember, ?_⟩⟩
    split
    · next hselects => exact apply_evolves hselects
    · exact .refl row

theorem run_progresses (runtime : Runtime) (routing : PaymentRouting) {pool : IntentPool}
    (hunique : UniqueIntents pool.state.intents) (choices : List (ℕ × Input)) :
    Progresses pool.state (pool.run (intentMachine runtime routing) choices).state := by
  induction choices generalizing pool with
  | nil => exact progresses_refl hunique
  | cons choice rest ih =>
      have hstep : Progresses pool.state
          (pool.step (intentMachine runtime routing) choice).state := by
        rcases Pool.step_state choice pool with hsame | ⟨op, -, hanswer⟩
        · rw [hsame]
          exact progresses_refl hunique
        · rw [hanswer]
          exact answer_progresses op choice.2 hunique
      exact progresses_isRely.trans hstep (ih hstep.unique)

/-! ## Matching receipts -/

theorem nonempty_eq_some {value : Option String} {text : String}
    (hvalue : nonempty value = some text) : value = some text := by
  unfold nonempty at hvalue
  split at hvalue
  · cases hvalue
  · exact hvalue

theorem transactionHash_ok {value hash : String} (hhash : transactionHash value = .ok hash) :
    isHexText 64 value = true ∧ hash = asciiLower value := by
  unfold transactionHash at hhash
  split at hhash
  · next hvalue => exact ⟨hvalue, (Except.ok.inj hhash).symm⟩
  · cases hhash

/-- Two texts of one address. -/
structure SameAccount (one other : String) : Prop where
  first : isHexText 40 one = true
  second : isHexText 40 other = true
  lower : asciiLower one = asciiLower other

theorem sameAddress_true {first second : String}
    (hsame : sameAddress runtime first second = .ok true) : SameAccount first second := by
  simp only [sameAddress, except_bind_ok, requireAddress_ok] at hsame
  obtain ⟨_, ⟨hfirst, rfl⟩, _, ⟨hsecond, rfl⟩, hlower⟩ := hsame
  refine ⟨hfirst, hsecond, ?_⟩
  rw [← (checksumAddress_spec hfirst).2, ← (checksumAddress_spec hsecond).2]
  exact of_decide_eq_true (Except.ok.inj hlower)

/-- A receipt reports the payment an intent requested. -/
structure ReceiptAgrees (intent : ExecutionIntent) (receipt : VerifiedExecutionReceipt) : Prop where
  network : intent.network = receipt.network
  transactionHash : intent.transactionHash = some (asciiLower receipt.transactionHash)
  sourceWallet : SameAccount intent.sourceWallet receipt.sourceWallet
  token : SameAccount intent.tokenOut receipt.token
  amountUnits : intent.amountUnits = receipt.amountUnits
  recipient : ∀ recipient, nonempty intent.recipient = some recipient →
    ∃ paid, receipt.recipient = some paid ∧ SameAccount recipient paid
  batchDigest : nonempty intent.recipient = none →
    ∃ digest, intent.batchDigest = some digest ∧ receipt.batchDigest = some digest

theorem ReceiptAgrees.evolves {before after : ExecutionIntent} {receipt : VerifiedExecutionReceipt}
    (hagrees : ReceiptAgrees before receipt) (hevolves : Evolves before after) :
    ReceiptAgrees after receipt := by
  have hrequest := hevolves.request
  simp only [ExecutionIntent.request, ExecutionIntent.immutable, Immutable.mk.injEq] at hrequest
  obtain ⟨hnetwork, -, -, hsource, hrecipient, hdigest, -, htoken, hamount, -⟩ := hrequest
  obtain ⟨h1, h2, h3, h4, h5, h6, h7⟩ := hagrees
  refine ⟨hnetwork.trans h1, hevolves.transactionHash _ h2, ?_, ?_, hamount.trans h5, ?_, ?_⟩
  · rwa [hsource]
  · rwa [htoken]
  · rwa [hrecipient]
  · rwa [hrecipient, hdigest]

theorem receiptRecipientMatches_true {intent : ExecutionIntent} {receipt : VerifiedExecutionReceipt}
    (hmatches : receiptRecipientMatches runtime intent receipt = .ok true) :
    (∀ recipient, nonempty intent.recipient = some recipient →
      ∃ paid, receipt.recipient = some paid ∧ SameAccount recipient paid) ∧
      (nonempty intent.recipient = none →
        ∃ digest, intent.batchDigest = some digest ∧ receipt.batchDigest = some digest) := by
  unfold receiptRecipientMatches at hmatches
  cases hrecipient : nonempty intent.recipient with
  | none =>
      rw [hrecipient] at hmatches
      have hdigests := Except.ok.inj hmatches
      rw [Bool.and_eq_true, decide_eq_true_eq, Option.isSome_iff_exists] at hdigests
      obtain ⟨⟨digest, hdigest⟩, hsame⟩ := hdigests
      exact ⟨fun _ hsome => (nomatch hsome), fun _ => ⟨digest, hsame.trans hdigest, hdigest⟩⟩
  | some recipient =>
      rw [hrecipient] at hmatches
      cases hpaid : nonempty receipt.recipient with
      | none =>
          rw [hpaid] at hmatches
          cases Except.ok.inj hmatches
      | some paid =>
          rw [hpaid] at hmatches
          refine ⟨?_, fun hnone => nomatch hnone⟩
          rintro _ ⟨⟩
          exact ⟨paid, nonempty_eq_some hpaid, sameAddress_true hmatches⟩

theorem receiptMatches_true {intent : ExecutionIntent} {receipt : VerifiedExecutionReceipt}
    {hash : String} (hhash : transactionHash receipt.transactionHash = .ok hash)
    (hmatches : receiptMatches runtime intent receipt hash = .ok true) :
    ReceiptAgrees intent receipt := by
  unfold receiptMatches at hmatches
  split at hmatches
  · cases hmatches
  · next hstate =>
      have hstate := not_not.mp hstate
      simp only [except_bind_ok] at hmatches
      obtain ⟨sameSource, hsource, hmatches⟩ := hmatches
      cases sameSource with
      | false => cases hmatches
      | true =>
          rw [if_neg (by simp), except_bind_ok] at hmatches
          obtain ⟨sameToken, htoken, hmatches⟩ := hmatches
          cases sameToken with
          | false => cases hmatches
          | true =>
              rw [if_neg (by simp)] at hmatches
              split at hmatches
              · cases hmatches
              · next hamount =>
                  obtain ⟨hrecipient, hdigest⟩ := receiptRecipientMatches_true hmatches
                  rw [(transactionHash_ok hhash).2] at hstate
                  exact ⟨hstate.2.2, hstate.2.1, sameAddress_true hsource,
                    sameAddress_true htoken, not_not.mp hamount, hrecipient, hdigest⟩

/-! ## Completing writes -/

/-- An intent for which a receipt was presented that agrees with it. -/
def Agreed (presented : String → VerifiedExecutionReceipt → Prop) (id : String)
    (database : Database) : Prop :=
  ∃ row ∈ database.intents, row.id = id ∧
    ∃ receipt, presented id receipt ∧ ReceiptAgrees row receipt

/-- A transition to `COMPLETED` is one of an agreed intent. -/
def CompletesAgreed (presented : String → VerifiedExecutionReceipt → Prop) (op : IntentOp)
    (_input : Input) (database : Database) : Prop :=
  ∀ update, op = .updateMany update → op.target = some COMPLETED →
    Agreed presented update.id database

variable {presented : String → VerifiedExecutionReceipt → Prop} {database : Database}

theorem Agreed.progresses {id : String} {before after : Database}
    (hprogresses : Progresses before after) (hagreed : Agreed presented id before) :
    Agreed presented id after := by
  obtain ⟨row, hmember, hid, receipt, hpresented, hagrees⟩ := hagreed
  obtain ⟨next, hnext, hevolves⟩ := hprogresses.rows row hmember
  exact ⟨next, hnext, hevolves.id.trans hid, receipt, hpresented, hagrees.evolves hevolves⟩

theorem answer_relies (op : IntentOp) (input : Input) (state : Database)
    (hstate : Progresses state state) (_hguar : CompletesAgreed presented op input state) :
    Progresses state ((intentMachine runtime routing).answer op input state).2 :=
  answer_progresses op input hstate.unique

theorem completesAgreed_of_movesTo {targets : List ExecutionIntentStatus}
    (htargets : COMPLETED ∉ targets) (op : IntentOp) (hop : MovesTo targets op) (input : Input)
    (state : Database) : CompletesAgreed presented op input state :=
  fun _ _ htarget => absurd (hop COMPLETED htarget) htargets

open Service in
theorem transition_completes {id : String} (hagreed : Agreed presented id database) :
    Meets (intentMachine runtime routing) Progresses (CompletesAgreed presented) (fun _ _ => True)
      (transition routing id VERIFYING COMPLETED) database := by
  have hharmless : ∀ {α : Type} {service : IntentService α} {state : Database},
      Performs (MovesTo []) service → Meets (intentMachine runtime routing) Progresses
        (CompletesAgreed presented) (fun _ _ => True) service state := fun hperforms =>
    meets_of_performs (completesAgreed_of_movesTo (by decide)) hperforms _
  unfold transition
  rw [dif_pos (by decide)]
  dsimp only
  rw [if_pos rfl]
  refine meets_bind progresses_isRely (Meets.frame progresses_isRely Agreed.progresses answer_relies
    (hharmless (performs_bind currentTime_movesTo fun _ => performs_pure _)) hagreed) ?_
  rintro completedAt later ⟨-, hlater⟩
  refine meets_then progresses_isRely ?_ fun count last => ?_
  · refine meets_then progresses_isRely
      (meets_perform fun last hlast input => ⟨?_, fun _ _ => trivial⟩)
      fun answer last => hharmless (performs_orThrow answer)
    rintro update ⟨⟩ -
    exact hlater.progresses hlast
  · split
    · exact hharmless (performs_bind (get_movesTo id) fun _ =>
        performs_bind (performs_throw _) fun _ => get_movesTo id)
    · exact hharmless (get_movesTo id)

/-- The row a snapshot was read from, whatever happened to it since. -/
def Stored (id : String) (intent : ExecutionIntent) (database : Database) : Prop :=
  ∃ row ∈ database.intents, row.id = id ∧ Evolves intent row

theorem Stored.progresses {id : String} {intent : ExecutionIntent} {before after : Database}
    (hprogresses : Progresses before after) (hstored : Stored id intent before) :
    Stored id intent after := by
  obtain ⟨row, hmember, hid, hevolves⟩ := hstored
  obtain ⟨next, hnext, hlater⟩ := hprogresses.rows row hmember
  exact ⟨next, hnext, hlater.id.trans hid, hevolves.trans hlater⟩

theorem find_stored {id : String} {intent : ExecutionIntent}
    (hfound : database.findUnique (fun row => row.id = id) = some intent) :
    Stored id intent database :=
  ⟨intent, List.mem_of_find?_eq_some hfound, by simpa using List.find?_some hfound, .refl intent⟩

theorem read_ok {input : Input} {key : ExecutionIntent → Bool} {found : Option ExecutionIntent}
    (hread : intentMachine.read input key database = .ok found) :
    database.findUnique key = found := by
  unfold intentMachine.read at hread
  split at hread
  · exact Except.ok.inj hread
  · cases hread

open Service in
theorem findById_stored {guar : IntentOp → Input → Database → Prop} {id : String}
    (hguar : ∀ input state, guar (.findById id) input state) (state : Database) :
    Meets (intentMachine runtime routing) Progresses guar
      (fun found state => ∀ intent, found = some intent → Stored id intent state)
      (findById id) state := by
  have hread := @meets_perform intentSignature Input Database (intentMachine runtime routing)
    Progresses guar state (.findById id)
    (fun answer state => ∀ intent, answer = Except.ok (some intent) → Stored id intent state)
    fun later _ input => ⟨hguar input later, fun last hlast intent hanswer => by
      exact Stored.progresses hlast (find_stored (read_ok hanswer))⟩
  refine meets_bind progresses_isRely hread fun answer later hlater =>
    meets_orThrow fun found hfound last hlast intent hintent => ?_
  exact (hlater intent (by rw [hfound, hintent])).progresses hlast

open Service in
/-- What `get` returns was read, and the row is still there. -/
theorem get_stored {guar : IntentOp → Input → Database → Prop} {id : String}
    (hguar : ∀ input state, guar (.findById id) input state) (state : Database) :
    Meets (intentMachine runtime routing) Progresses guar (Stored id) (get routing id) state := by
  refine meets_bind progresses_isRely (findById_stored hguar state) fun found later hfound => ?_
  cases found with
  | none => exact meets_throw _
  | some intent =>
      have hchecked : Meets (intentMachine runtime routing) Progresses guar
          (fun _ state => Stored id intent state) (assertSelectedNetwork routing intent) later :=
        meets_throwIf fun _ last hlast => (hfound intent rfl).progresses hlast
      exact meets_bind progresses_isRely hchecked fun _ last hlast =>
        meets_pure fun final hfinal => hlast.progresses hfinal

open Service in
/-- What is found by its hash was read, and the row is still there. -/
theorem getByTransactionHash_stored {guar : IntentOp → Input → Database → Prop} {hash : String}
    (hguar : ∀ text input state, guar (.findByTransactionHash text) input state)
    (state : Database) :
    Meets (intentMachine runtime routing) Progresses guar
      (fun intent state => Stored intent.id intent state)
      (getByTransactionHash routing hash) state := by
  refine meets_then progresses_isRely (meets_ofExcept fun _ _ _ _ => trivial) fun text state => ?_
  have hread := @meets_perform intentSignature Input Database (intentMachine runtime routing)
    Progresses guar state (.findByTransactionHash text)
    (fun answer state => ∀ intent, answer = Except.ok (some intent) → Stored intent.id intent state)
    fun later _ input => ⟨hguar text input later, fun last hlast intent hanswer => by
      have hmember := List.mem_of_find?_eq_some (read_ok hanswer)
      exact Stored.progresses hlast ⟨intent, hmember, rfl, .refl intent⟩⟩
  have hfind : Meets (intentMachine runtime routing) Progresses guar
      (fun found state => ∀ intent, found = some intent → Stored intent.id intent state)
      (findByTransactionHash text) state := by
    refine meets_bind progresses_isRely hread fun answer later hlater =>
      meets_orThrow fun found hfound last hlast intent hintent => ?_
    exact (hlater intent (by rw [hfound, hintent])).progresses hlast
  refine meets_bind progresses_isRely hfind fun found later hfound => ?_
  cases found with
  | none => exact meets_throw _
  | some intent =>
      have hchecked : Meets (intentMachine runtime routing) Progresses guar
          (fun _ state => Stored intent.id intent state)
          (assertSelectedNetwork routing intent) later :=
        meets_throwIf fun _ last hlast => (hfound intent rfl).progresses hlast
      exact meets_bind progresses_isRely hchecked fun _ last hlast =>
        meets_pure fun final hfinal => hlast.progresses hfinal

open Service in
/-- The receipt is compared with a row that was read; what follows starts from
their agreement. -/
theorem completeWithVerifiedReceipt_meets {guar : IntentOp → Input → Database → Prop}
    {post : ExecutionIntent → Database → Prop} {id : String} {receipt : VerifiedExecutionReceipt}
    (hguar : ∀ input state, guar (.findById id) input state)
    (hcompleted : ∀ intent state, intent.status = COMPLETED → Stored id intent state →
      ReceiptAgrees intent receipt → post intent state)
    (htransition : ∀ intent state, Stored id intent state → ReceiptAgrees intent receipt →
      Meets (intentMachine runtime routing) Progresses guar post
        (transition routing id VERIFYING COMPLETED) state)
    (state : Database) :
    Meets (intentMachine runtime routing) Progresses guar post
      (completeWithVerifiedReceipt runtime routing id receipt) state := by
  refine meets_bind progresses_isRely (get_stored hguar state) fun intent later hstored => ?_
  have hhash : Meets (intentMachine runtime routing) Progresses guar
      (fun hash state => transactionHash receipt.transactionHash = .ok hash ∧
        Stored id intent state) (Service.ofExcept (transactionHash receipt.transactionHash)) later :=
    meets_ofExcept fun hash hvalue last hlast => ⟨hvalue, hstored.progresses hlast⟩
  refine meets_bind progresses_isRely hhash fun hash later hlater => ?_
  have hmatch : Meets (intentMachine runtime routing) Progresses guar
      (fun isMatch state => receiptMatches runtime intent receipt hash = .ok isMatch ∧
        Stored id intent state) (Service.ofExcept (receiptMatches runtime intent receipt hash)) later :=
    meets_ofExcept fun isMatch hvalue last hlast => ⟨hvalue, hlater.2.progresses hlast⟩
  refine meets_bind progresses_isRely hmatch fun isMatch last hlast => ?_
  have hchecked : Meets (intentMachine runtime routing) Progresses guar
      (fun _ state => Stored id intent state ∧ ReceiptAgrees intent receipt)
      (throwIf (isMatch = false) receiptMismatch : IntentService Unit) last := by
    refine meets_throwIf fun htrue final hfinal => ⟨hlast.2.progresses hfinal, ?_⟩
    exact receiptMatches_true hlater.1 (by simpa [htrue] using hlast.1)
  refine meets_bind progresses_isRely hchecked fun _ final hagreed => ?_
  split
  · next hstatus =>
      exact meets_pure fun last hlast =>
        hcompleted intent last hstatus (hagreed.1.progresses hlast) hagreed.2
  · exact htransition intent final hagreed.1 hagreed.2

theorem completeWithVerifiedReceipt_completes {id : String} {receipt : VerifiedExecutionReceipt}
    (hpresented : presented id receipt) (state : Database) :
    Service.Meets (intentMachine runtime routing) Progresses (CompletesAgreed presented)
      (fun _ _ => True) (completeWithVerifiedReceipt runtime routing id receipt) state := by
  refine completeWithVerifiedReceipt_meets (fun _ _ _ hop => nomatch hop)
    (fun _ _ _ _ _ => trivial) ?_ state
  intro intent state hstored hagrees
  obtain ⟨row, hmember, hid, hevolves⟩ := hstored
  exact transition_completes ⟨row, hmember, hid, receipt, hpresented, hagrees.evolves hevolves⟩

/-! ## Completed intents -/

/-- An intent that is completed by the payment of a receipt. -/
def Settled (id : String) (receipt : VerifiedExecutionReceipt) (database : Database) : Prop :=
  ∃ row ∈ database.intents, row.id = id ∧ row.status = COMPLETED ∧ ReceiptAgrees row receipt

theorem ReceiptAgrees.bound {intent : ExecutionIntent} {receipt : VerifiedExecutionReceipt}
    (hagrees : ReceiptAgrees intent receipt) : intent.transactionHash ≠ none := by
  rw [hagrees.transactionHash]
  exact Option.some_ne_none _

theorem Settled.progresses {id : String} {receipt : VerifiedExecutionReceipt}
    {before after : Database} (hprogresses : Progresses before after)
    (hsettled : Settled id receipt before) : Settled id receipt after := by
  obtain ⟨row, hmember, hid, hstatus, hagrees⟩ := hsettled
  obtain ⟨next, hnext, hevolves⟩ := hprogresses.rows row hmember
  exact ⟨next, hnext, hevolves.id.trans hid, hevolves.completed hstatus hagrees.bound,
    hagrees.evolves hevolves⟩

/-- A completing write that counts one row has completed the row that was read. -/
theorem answer_settled {id : String} {receipt : VerifiedExecutionReceipt} {edge : Edge}
    (hedge : edge.next = COMPLETED) {data : TransitionData} {completedAt : Option ℕ} {input : Input}
    {intent : ExecutionIntent} (hunique : UniqueIntents database.intents)
    (hstored : Stored id intent database) (hagrees : ReceiptAgrees intent receipt)
    (hanswer : ((intentMachine runtime routing).answer
      (.updateMany (.transition id edge data completedAt)) input database).1 = Except.ok 1) :
    Settled id receipt ((intentMachine runtime routing).answer
      (.updateMany (.transition id edge data completedAt)) input database).2 := by
  obtain ⟨hcommits, hcount⟩ := commits_of_answer runtime routing hanswer
  obtain ⟨selected, hselected, hselects⟩ :=
    List.countP_pos_iff.mp (Nat.lt_of_lt_of_eq Nat.one_pos hcount.symm)
  obtain ⟨row, hmember, hid, hevolves⟩ := hstored
  have hsame : selected.id = id := by
    simp only [IntentUpdate.selects, IntentUpdate.id, Bool.and_eq_true] at hselects
    exact of_decide_eq_true hselects.1
  rw [row_unique_id hunique hselected hmember (hsame.trans hid.symm)] at hselects
  rw [answer_updateMany, if_pos hcommits]
  refine ⟨_, List.mem_map.mpr ⟨row, hmember, if_pos hselects⟩, ?_, hedge, ?_⟩
  · rw [IntentUpdate.apply_id, hid]
  · exact (hagrees.evolves hevolves).evolves (apply_evolves hselects)

open Service in
theorem transition_settled {id : String} {receipt : VerifiedExecutionReceipt}
    {intent : ExecutionIntent} (hstored : Stored id intent database)
    (hagrees : ReceiptAgrees intent receipt) :
    Meets (intentMachine runtime routing) Progresses (fun _ _ _ => True)
      (fun _ state => Settled id receipt state)
      (transition routing id VERIFYING COMPLETED) database := by
  have hany : ∀ {α : Type} {service : IntentService α} {state : Database},
      Performs (MovesTo []) service → Meets (intentMachine runtime routing) Progresses
        (fun _ _ _ => True) (fun _ _ => True) service state := fun hperforms =>
    meets_of_performs (fun _ _ _ _ => trivial) hperforms _
  have hmoves : ∀ (op : IntentOp) (input : Input) (state : Database), Progresses state state →
      True → Progresses state ((intentMachine runtime routing).answer op input state).2 :=
    fun op input state hstate _ => answer_progresses op input hstate.unique
  unfold transition
  rw [dif_pos (by decide)]
  dsimp only
  rw [if_pos rfl]
  refine meets_bind_keeping progresses_isRely Stored.progresses hmoves
    (hany (performs_bind currentTime_movesTo fun _ => performs_pure _)) hstored ?_
  intro completedAt later _ hlater
  have hwrite := @meets_perform intentSignature Input Database (intentMachine runtime routing)
    Progresses (fun _ _ _ => True) later
    (.updateMany (.transition id ⟨VERIFYING, COMPLETED, by decide⟩ {} completedAt))
    (fun answer state => answer = Except.ok 1 → Settled id receipt state)
    fun last hlast input => ⟨trivial, fun final hfinal hanswer =>
      (answer_settled rfl hlast.unique (hlater.progresses hlast) hagrees hanswer).progresses hfinal⟩
  have hcount : Meets (intentMachine runtime routing) Progresses (fun _ _ _ => True)
      (fun count state => count = 1 → Settled id receipt state)
      (updateMany (.transition id ⟨VERIFYING, COMPLETED, by decide⟩ {} completedAt)) later :=
    meets_bind progresses_isRely hwrite fun answer last hlast =>
      meets_orThrow fun count hanswer final hfinal hone =>
        (hlast (by rw [hanswer, hone])).progresses hfinal
  refine meets_bind progresses_isRely hcount fun count last hlast => ?_
  split
  · refine meets_then progresses_isRely (hany (get_movesTo id)) fun current state => ?_
    exact @meets_bind _ _ _ _ _ _ _ _ (fun _ _ => False) _ progresses_isRely _ _ _
      (meets_throw _) fun _ _ hnever => hnever.elim
  · next hone =>
      refine (Meets.frame progresses_isRely Settled.progresses hmoves (hany (get_movesTo id))
        (hlast (not_not.mp hone))).mono ?_
      exact fun outcome state hpost value hvalue => (hpost value hvalue).2

theorem completeWithVerifiedReceipt_settled (id : String) (receipt : VerifiedExecutionReceipt)
    (state : Database) :
    Service.Meets (intentMachine runtime routing) Progresses (fun _ _ _ => True)
      (fun _ state => Settled id receipt state)
      (completeWithVerifiedReceipt runtime routing id receipt) state := by
  refine completeWithVerifiedReceipt_meets (fun _ _ => trivial) ?_
    (fun intent state hstored hagrees => transition_settled hstored hagrees) state
  rintro intent state hstatus ⟨row, hmember, hid, hevolves⟩ hagrees
  exact ⟨row, hmember, hid, hevolves.completed hstatus hagrees.bound, hagrees.evolves hevolves⟩

end WizPay.Intents
