import WizPay.Backend.Address
import WizPay.Intents.Canonical

/-!
# The text of a batch digest

A digest is computed over one object for each payment, in order. Its text
determines the tokens: two batches of the same payments that differ in a token
have different texts.
-/

namespace WizPay.Intents

open Backend

variable {runtime : Runtime}

theorem requireAddress_ok {text address : String} : requireAddress runtime text = .ok address ↔
    isHexText 40 text = true ∧ address = checksumAddress runtime text := by
  rw [← getAddress_eq_some, requireAddress]
  cases getAddress runtime text with
  | none => exact ⟨fun h => (nomatch h), fun h => (nomatch h)⟩
  | some found => exact ⟨fun h => congrArg some (Except.ok.inj h), fun h => congrArg Except.ok (Option.some.inj h)⟩

/-- An entry in the form its digest is computed over. -/
def BatchEntry.normal (entry : BatchEntry) : BatchEntry :=
  ⟨asciiLower entry.recipient, asciiLower entry.token, toString (bigInt entry.amountUnits)⟩

def BatchEntry.json (index : ℕ) (entry : BatchEntry) : Json :=
  .object [("index", .number (toString index)), ("recipient", .string entry.recipient),
    ("token", .string entry.token), ("amountUnits", .string entry.amountUnits)]

structure BatchEntry.WellFormed (entry : BatchEntry) : Prop where
  recipient : isHexText 40 entry.recipient = true
  token : isHexText 40 entry.token = true
  amountUnits : isBaseUnits entry.amountUnits = true

theorem batchEntryJson_ok {index : ℕ} {entry : BatchEntry} {json : Json} :
    batchEntryJson runtime index entry = .ok json ↔
      entry.WellFormed ∧ json = entry.normal.json index := by
  unfold batchEntryJson
  simp only [except_bind_ok, requireAddress_ok]
  constructor
  · rintro ⟨_, ⟨hrecipient, rfl⟩, _, ⟨htoken, rfl⟩, hrest⟩
    split at hrest
    · cases hrest
    · next hamount =>
        cases hrest
        refine ⟨⟨hrecipient, htoken, by simpa using hamount⟩, ?_⟩
        rw [BatchEntry.normal, BatchEntry.json, (checksumAddress_spec hrecipient).2,
          (checksumAddress_spec htoken).2]
  · rintro ⟨hentry, rfl⟩
    refine ⟨_, ⟨hentry.recipient, rfl⟩, _, ⟨hentry.token, rfl⟩, ?_⟩
    rw [if_neg (by simp [hentry.amountUnits]), (checksumAddress_spec hentry.recipient).2,
      (checksumAddress_spec hentry.token).2]
    rfl

theorem batchEntries_ok {index : ℕ} {entries : List BatchEntry} {jsons : List Json} :
    batchEntries runtime index entries = .ok jsons ↔ (∀ entry ∈ entries, entry.WellFormed) ∧
      jsons = entries.mapIdx fun i entry => entry.normal.json (index + i) := by
  induction entries generalizing index jsons with
  | nil => simp [batchEntries, pure, Except.pure, eq_comm]
  | cons entry rest ih =>
      simp only [batchEntries, except_bind_ok, batchEntryJson_ok, ih, List.forall_mem_cons,
        List.mapIdx_cons]
      constructor
      · rintro ⟨_, ⟨hentry, rfl⟩, _, ⟨hrest, rfl⟩, hjsons⟩
        cases hjsons
        exact ⟨⟨hentry, hrest⟩, by simp [Nat.add_assoc, Nat.add_comm 1]⟩
      · rintro ⟨⟨hentry, hrest⟩, rfl⟩
        refine ⟨_, ⟨hentry, rfl⟩, _, ⟨hrest, rfl⟩, ?_⟩
        simp [pure, Except.pure, Nat.add_assoc, Nat.add_comm 1]

/-- The text a digest is computed over. -/
def digestText (entries : List BatchEntry) : String :=
  (Json.array (entries.mapIdx fun i entry => entry.normal.json i)).stableJson

theorem createPayrollBatchDigest_ok {entries : List BatchEntry} {digest : String} :
    createPayrollBatchDigest runtime entries = .ok digest ↔ entries ≠ [] ∧
      (∀ entry ∈ entries, entry.WellFormed) ∧ digest = runtime.sha256 (digestText entries) := by
  unfold createPayrollBatchDigest digestText
  split
  · next hempty => exact ⟨fun h => (nomatch h), fun h => absurd hempty h.1⟩
  · next hsome =>
      simp only [except_bind_ok, batchEntries_ok, Nat.zero_add]
      constructor
      · rintro ⟨_, ⟨hentries, rfl⟩, hdigest⟩
        exact ⟨hsome, hentries, (Except.ok.inj hdigest).symm⟩
      · rintro ⟨_, hentries, rfl⟩
        exact ⟨_, ⟨hentries, rfl⟩, rfl⟩


theorem quote_hexText {n : ℕ} {text : String} (htext : isHexText n text = true) :
    Json.quote text = '"' :: text.toList ++ ['"'] := by
  obtain ⟨digits, rfl, -, hdigits⟩ := isHexText_iff.mp htext
  have hescape : ∀ c ∈ 'x' :: "0123456789abcdefABCDEF".toList, Json.escape c = [c] :=
    List.all_iff_forall_prop.mp (by decide)
  have hsame : digits.flatMap Json.escape = digits := by
    conv_rhs => rw [← List.flatMap_singleton' digits]
    refine List.flatMap_congr fun c hmember => ?_
    exact hescape c (List.mem_cons_of_mem _ (isHexDigit_cases (hdigits c hmember)))
  have hzero : Json.escape '0' = ['0'] := by decide
  simp [Json.quote, hsame, hzero, hescape 'x' List.mem_cons_self]

/-- The text of an entry up to its token. -/
def BatchEntry.pre (index : ℕ) (entry : BatchEntry) : List Char :=
  '\x7b' :: (Json.quote "amountUnits" ++ ':' :: Json.quote entry.amountUnits) ++ ',' ::
    (Json.quote "index" ++ ':' :: (toString index).toList) ++ ',' ::
    (Json.quote "recipient" ++ ':' :: Json.quote entry.recipient) ++ ',' :: (Json.quote "token" ++ [':'])

theorem json_chars {index : ℕ} (entry : BatchEntry) :
    (entry.json index).sortKeys.chars = entry.pre index ++ (Json.quote entry.token ++ ['\x7d']) := by
  have h1 : ¬ ("index" ≤ "amountUnits") := by decide
  have h2 : ¬ ("recipient" ≤ "amountUnits") := by decide
  have h3 : ¬ ("token" ≤ "amountUnits") := by decide
  have h4 : ("index" ≤ "recipient") := by decide
  have h5 : ("recipient" ≤ "token") := by decide
  simp [BatchEntry.json, Json.sortKeys, Json.sortFields, List.insertionSort, List.orderedInsert, h1,h2,h3,h4,h5, Json.chars, Json.fieldChars, Json.commaSeparated, BatchEntry.pre]

theorem commaSeparated_inj {first second : List (List Char)}
    (hlengths : first.map List.length = second.map List.length)
    (htext : Json.commaSeparated first = Json.commaSeparated second) : first = second := by
  induction first generalizing second with
  | nil => exact (List.map_eq_nil_iff.mp hlengths.symm).symm
  | cons item rest ih =>
      cases second with
      | nil => cases hlengths
      | cons item' rest' =>
          obtain ⟨hitem, hrest⟩ := List.cons.inj hlengths
          cases rest with
          | nil =>
              obtain rfl := List.map_eq_nil_iff.mp hrest.symm
              exact congrArg (· :: []) htext
          | cons next rest =>
              cases rest' with
              | nil => cases hrest
              | cons next' rest' =>
                  obtain ⟨rfl, htail⟩ := List.append_inj htext hitem
                  rw [ih hrest (List.cons.inj htail).2]

theorem itemChars_sortItems (items : List Json) :
    Json.itemChars (Json.sortItems items) = items.map fun item => item.sortKeys.chars := by
  induction items with
  | nil => rfl
  | cons item rest ih => exact congrArg (_ :: ·) ih

theorem digestText_toList (entries : List BatchEntry) :
    (digestText entries).toList = '[' :: Json.commaSeparated (entries.mapIdx fun i entry =>
      entry.normal.pre i ++ (Json.quote (asciiLower entry.token) ++ ['\x7d'])) ++ [']'] := by
  have hitems : (entries.mapIdx fun i entry => entry.normal.json i).map
      (fun item => item.sortKeys.chars) = entries.mapIdx fun i entry =>
        entry.normal.pre i ++ (Json.quote (asciiLower entry.token) ++ ['\x7d']) :=
    List.ext_getElem (by simp) fun j _ _ => by simp [json_chars, BatchEntry.normal]
  simp only [digestText, Json.stableJson, Json.sortKeys, Json.stringify, Json.chars,
    String.toList_ofList, itemChars_sortItems, hitems]

theorem digestText_congr {first second : List BatchEntry}
    (hnormal : first.map BatchEntry.normal = second.map BatchEntry.normal) :
    digestText first = digestText second := by
  have hitems : ∀ entries : List BatchEntry, (entries.mapIdx fun i entry => entry.normal.json i) =
      (entries.map BatchEntry.normal).mapIdx fun i entry => entry.json i := fun entries =>
    List.ext_getElem (by simp) fun _ _ _ => by simp
  rw [digestText, digestText, hitems, hitems, hnormal]

/-- The entry with another token. -/
def BatchEntry.withToken (token : String) (entry : BatchEntry) : BatchEntry := { entry with token }

/-- Writing one token into every entry changes the text unless it was there. -/
theorem digestText_withToken_iff {entries : List BatchEntry} {token : String}
    (hentries : ∀ entry ∈ entries, isHexText 40 entry.token = true)
    (htoken : isHexText 40 token = true) :
    digestText (entries.map (BatchEntry.withToken token)) = digestText entries ↔
      ∀ entry ∈ entries, asciiLower entry.token = asciiLower token := by
  have hquote : ∀ {text}, isHexText 40 text = true →
      Json.quote (asciiLower text) = '"' :: (asciiLower text).toList ++ ['"'] := fun htext =>
    quote_hexText (asciiLower_isHexText htext).1
  have hlength : ∀ {text}, isHexText 40 text = true → (asciiLower text).toList.length = 42 := by
    intro text htext
    obtain ⟨digits, rfl, hdigits, -⟩ := isHexText_iff.mp htext
    simp [asciiLower, hdigits]
  constructor
  · intro htext entry hmember
    obtain ⟨i, hi, rfl⟩ := List.getElem_of_mem hmember
    have hchars := congrArg String.toList htext
    rw [digestText_toList, digestText_toList] at hchars
    have hitems := commaSeparated_inj ?_ (List.cons.inj (List.append_cancel_right hchars)).2
    · have hitem := congrArg (·[i]?) hitems
      simp only [List.getElem?_mapIdx, List.getElem?_map, List.getElem?_eq_getElem hi,
        Option.map_some, Option.some.injEq] at hitem
      have hquoted := List.append_cancel_right (List.append_cancel_left hitem)
      rw [BatchEntry.withToken, hquote htoken, hquote (hentries _ hmember)] at hquoted
      exact String.toList_inj.mp (List.cons.inj (List.append_cancel_right hquoted)).2.symm
    · refine List.ext_getElem (by simp) fun j hj _ => ?_
      have hj : j < entries.length := by simpa using hj
      have hentry := hentries entries[j] (List.getElem_mem hj)
      have hsize : (Json.quote (asciiLower token)).length =
          (Json.quote (asciiLower entries[j].token)).length := by
        simp [hquote htoken, hquote hentry, hlength htoken, hlength hentry]
      simp [BatchEntry.withToken, BatchEntry.normal, BatchEntry.pre, hsize]
  · intro hsame
    refine congrArg (fun items => (Json.array items).stableJson) ?_
    refine List.ext_getElem (by simp) fun j hj _ => ?_
    have hj : j < entries.length := by simpa using hj
    have hentry := hsame entries[j] (List.getElem_mem hj)
    simp [BatchEntry.withToken, BatchEntry.normal, hentry]

/-! ## Stored digests -/

theorem isHexDigest_spec {digest : String} (hdigest : isHexDigest digest = true) :
    digest.toList.length = 64 ∧ ∀ c ∈ digest.toList, isHexDigit c = true ∧ c.toLower = c := by
  simpa [isHexDigest] using hdigest

/-- A digest is its own trimmed and lower-case form. -/
theorem toLowerCase_digest (hruntime : runtime.Documented) {digest : String}
    (hdigest : isHexDigest digest = true) :
    trim digest = digest ∧ runtime.toLowerCase digest = digest := by
  obtain ⟨-, hchars⟩ := isHexDigest_spec hdigest
  have hall : ∀ c ∈ "0123456789abcdefABCDEF".toList, isSpace c = false ∧ c.val < 0x80 :=
    List.all_iff_forall_prop.mp (by decide)
  have hplain := fun c hmember => hall c (isHexDigit_cases (hchars c hmember).1)
  refine ⟨trim_eq_self fun c hmember => (hplain c hmember).1, ?_⟩
  rw [hruntime.toLowerCase_ascii digest (by simpa using fun c hmember => (hplain c hmember).2),
    asciiLower, List.map_congr_left fun c hmember => (hchars c hmember).2, List.map_id',
    String.ofList_toList]

/-- A digest is stored as it is. -/
theorem nonempty_digest (hruntime : runtime.Documented) (text : String) :
    nonempty (some (runtime.toLowerCase (trim (runtime.sha256 text)))) =
      some (runtime.sha256 text) := by
  have hdigest := hruntime.sha256_hex text
  obtain ⟨htrim, hlower⟩ := toLowerCase_digest hruntime hdigest
  rw [htrim, hlower]
  unfold nonempty
  split
  · next hempty =>
      rw [Option.some.inj hempty] at hdigest
      exact absurd hdigest (by decide)
  · rfl

theorem baseUnits_ok {value units : String} : baseUnits value = .ok units ↔
    isBaseUnits value = true ∧ units = toString (bigInt value) := by
  unfold baseUnits
  split
  · next hvalue => exact ⟨fun h => ⟨hvalue, (Except.ok.inj h).symm⟩, fun h => congrArg Except.ok h.2.symm⟩
  · next hvalue => exact ⟨fun h => (nomatch h), fun h => absurd h.1 hvalue⟩

theorem assertExecutable_ok {decision executable : PaymentRouteDecision}
    (hexecutable : assertExecutable decision = .ok executable) : executable = decision := by
  unfold assertExecutable at hexecutable
  split at hexecutable
  · cases hexecutable
  · exact (Except.ok.inj hexecutable).symm

/-- What the stored part of a request has from the request. -/
structure StoredFrom (runtime : Runtime) (input : ExecutionIntentAcquireInput) (request : Immutable) :
    Prop where
  sourceWallet : isHexText 40 input.sourceWallet = true ∧
    request.sourceWallet = checksumAddress runtime input.sourceWallet
  batchDigest : request.batchDigest =
    nonempty (input.batchDigest.map fun digest => runtime.toLowerCase (trim digest))
  tokenOut : isHexText 40 input.tokenOut = true ∧
    asciiLower request.tokenOut = asciiLower input.tokenOut
  amountUnits : request.amountUnits = toString (bigInt input.amountUnits)
  externalReference : request.externalReference = trim input.externalReference
  externalReference_ne : request.externalReference ≠ ""

theorem immutableRequest_spec {input : ExecutionIntentAcquireInput} {request : Immutable}
    {decision : PaymentRouteDecision}
    (hrequest : immutableRequest runtime routing input = .ok (request, decision)) :
    StoredFrom runtime input request := by
  simp only [immutableRequest, except_bind_ok, requireAddress_ok, baseUnits_ok] at hrequest
  obtain ⟨_, hwallet, recipient, -, _, ⟨-, rfl⟩, hrequest⟩ := hrequest
  split at hrequest
  · cases hrequest
  · next hreference =>
    split at hrequest
    · cases hrequest
    · simp only [except_bind_ok] at hrequest
      obtain ⟨decided, hdecide, executable, hexecutable, hrequest⟩ := hrequest
      obtain rfl := assertExecutable_ok hexecutable
      obtain ⟨-, htoken⟩ := decide_spec hdecide
      cases hrequest
      exact ⟨hwallet, rfl, htoken, rfl, rfl, fun hempty => hreference (.inl hempty)⟩

end WizPay.Intents
