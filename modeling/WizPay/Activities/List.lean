import Mathlib.Data.Prod.Lex
import WizPay.Backend.Base64
import WizPay.Backend.Dates
import WizPay.Backend.JsonParse
import WizPay.Backend.Uuid
import WizPay.Foundation.Paging

/-!
# Listing activities

The rows of a wallet, newest first, a page at a time. A page ends with a cursor, which
names the last row shown: a JSON object of its time and its id, in base64url.
-/

namespace WizPay.Activities

open Backend

/-! ## Rows -/

def activityTypes : List String :=
  ["send", "receive", "payroll", "swap", "bridge", "fx", "invoice_payment"]

def activityStatuses : List String :=
  ["pending", "submitted", "confirming", "completed", "failed", "expired", "cancelled",
    "recovery_required"]

structure Activity where
  id : Uuid
  ownerUserId : String
  walletAddress : String
  type : String
  status : String
  createdAt : Instant
deriving DecidableEq

/-- The table; an id belongs to one row. -/
structure ActivityTable where
  rows : List Activity
  unique : (rows.map Activity.id).Nodup

/-- What is shown of a row. -/
structure PublicActivity where
  id : String
  type : String
  status : String
  createdAt : String
deriving DecidableEq

def toPublic (row : Activity) : PublicActivity where
  id := row.id.text
  type := row.type
  status := row.status
  createdAt := toISOString row.createdAt

/-- What the engine and the database leave open: other spellings of dates and ids, the text
of a number, and what stands for ill-formed bytes. -/
structure Engine extends Runtime where
  otherDate : String → Option Instant
  otherId : String → Option Uuid
  numberText : String → String
  replaced : List UInt8 → String

/-! ## Cursors -/

variable (engine : Engine)

/-- Whether a property counts as true. -/
def truthy : Option Json → Bool
  | none | some .null => false
  | some (.bool value) => value
  | some (.number text) => text ≠ "0" && text ≠ "NaN"
  | some (.string text) => text ≠ ""
  | some _ => true

/-- The instant at a time, if it is in range. -/
def instantAt (time : ℤ) : Option Instant := if hrange : _ then some ⟨time, hrange⟩ else none

/-- `new Date` of a property that is not absent. -/
def newDate : Json → Option Instant
  | .string text => parseDate engine.otherDate text
  | .number text => (numberOf text).bind fun value =>
      instantAt (if 0 ≤ value then ⌊value⌋ else ⌈value⌉)
  | .bool value => instantAt (if value then 1 else 0)
  | .null => instantAt 0
  | value => if value.hasText then parseDate engine.otherDate value.toText else none

def encodeCursor (row : Activity) : String :=
  toBase64url (Json.object [("createdAt", .string (toISOString row.createdAt)),
    ("id", .string row.id.text)]).stringify

structure Cursor where
  createdAt : Instant
  id : Json

/-- `decodeCursor`; whatever goes wrong, the cursor is refused. -/
def decodeCursor (value : String) : Except String Cursor :=
  match Json.parse engine.numberText (fromBase64url engine.replaced value) with
  | none | some .null => throw "Invalid activity cursor."
  | some parsed =>
      let createdAt := (Json.orElse (parsed.get? "createdAt") (some (.string ""))).bind
        (newDate engine)
      match createdAt, parsed.get? "id" with
      | some createdAt, some id =>
          if truthy (some id) then return { createdAt, id } else throw "Invalid activity cursor."
      | _, _ => throw "Invalid activity cursor."

/-! ## Requests -/

structure ListInput where
  cursor : Option String
  /-- A number, if there is one; none inside is `NaN`. -/
  limit : Option (Option ℚ)
  type : Option String
  status : Option String

structure Principal where
  merchantUserId : String
  merchantWalletAddress : String

/-- `Number.isInteger`. -/
def isInteger : Option ℚ → Bool
  | some value => value.isInt && |value| < 2 ^ 1024
  | none => false

def optionalType (value : Option String) : Except String (Option String) :=
  if value.getD "" = "" then return none
  else if value.getD "" ∉ activityTypes then throw "Invalid activity type filter."
  else return value

def optionalStatus (value : Option String) : Except String (Option String) :=
  if value.getD "" = "" then return none
  else if value.getD "" ∉ activityStatuses then throw "Invalid activity status filter."
  else return value

/-- The cursor of a request; an empty one is none. -/
def requestedCursor (input : ListInput) : Except String (Option Cursor) :=
  if input.cursor.getD "" = "" then return none
  else some <$> decodeCursor engine (input.cursor.getD "")

def validateListInput (input : ListInput) : Except String Unit := do
  match input.limit with
  | none => pure ()
  | some limit =>
      if isInteger limit = false ∨ limit.getD 0 < 1 then throw "Invalid activity page size."
  let _ ← optionalType input.type
  let _ ← optionalStatus input.status
  let _ ← requestedCursor engine input

/-- `Math.min(Math.max(limit ?? 20, 1), 50)` of an integer. -/
def pageSize (limit : Option (Option ℚ)) : ℕ :=
  ⌊min (max ((limit.getD (some 20)).getD 1) 1) 50⌋₊

def canonicalWallet (value : String) : Except String String :=
  match getAddress engine.toRuntime value with
  | some address => return asciiLower address
  | none => throw "InvalidAddressError"

/-! ## Pages -/

/-- The filters of a query, its cursor apart. -/
structure Filters where
  ownerUserId : String
  walletAddress : String
  type : Option String
  status : Option String

def Filters.Matches (filters : Filters) (row : Activity) : Prop :=
  row.ownerUserId = filters.ownerUserId ∧ row.walletAddress = filters.walletAddress ∧
    (∀ type ∈ filters.type, row.type = type) ∧ ∀ status ∈ filters.status, row.status = status

instance (filters : Filters) (row : Activity) : Decidable (filters.Matches row) := by
  unfold Filters.Matches
  infer_instance

/-- Whether a row comes behind a time and an id. -/
def BehindCursor (position : Option (Instant × Uuid)) (row : Activity) : Prop :=
  ∀ found ∈ position, row.createdAt < found.1 ∨ (row.createdAt = found.1 ∧ row.id < found.2)

instance (position : Option (Instant × Uuid)) (row : Activity) :
    Decidable (BehindCursor position row) := by
  unfold BehindCursor
  infer_instance

/-- `orderBy: [{ createdAt: 'desc' }, { id: 'desc' }]`. -/
def newerFirst (first second : Activity) : Bool :=
  second.createdAt < first.createdAt ||
    (first.createdAt = second.createdAt && second.id ≤ first.id)

def findMany (table : ActivityTable) (filters : Filters) (position : Option (Instant × Uuid))
    (take : ℕ) : List Activity :=
  ((table.rows.filter fun row => filters.Matches row ∧ BehindCursor position row).mergeSort
    newerFirst).take take

/-- The id of a cursor, as the database reads it. -/
def idOf : Json → Except String Uuid
  | .string text =>
      match Uuid.ofText engine.otherId text with
      | some id => return id
      | none => throw "PrismaClientKnownRequestError"
  | _ => throw "PrismaClientValidationError"

/-- The position of a cursor in the table. -/
def locate : Option Cursor → Except String (Option (Instant × Uuid))
  | none => return none
  | some cursor => do
      let id ← idOf engine cursor.id
      return some (cursor.createdAt, id)

structure ActivityPage where
  items : List PublicActivity
  nextCursor : Option String

def list (table : ActivityTable) (principal : Principal) (input : ListInput) :
    Except String ActivityPage := do
  validateListInput engine input
  let limit := pageSize input.limit
  let type ← optionalType input.type
  let status ← optionalStatus input.status
  let cursor ← requestedCursor engine input
  let walletAddress ← canonicalWallet engine principal.merchantWalletAddress
  let filters := { ownerUserId := principal.merchantUserId, walletAddress, type, status }
  let position ← locate engine cursor
  let rows := findMany table filters position (limit + 1)
  let items := rows.take limit
  return {
    items := items.map toPublic
    nextCursor := if limit < rows.length then items.getLast?.map encodeCursor else none }

end WizPay.Activities
