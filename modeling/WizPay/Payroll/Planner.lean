import WizPay.Backend.Address
import WizPay.Backend.Number
import WizPay.Backend.Routing

/-!
# Planning a payroll

A payroll request is validated, its recipients are grouped by token and cut
into batches, and each batch gets a reference of its own.
-/

namespace WizPay.Payroll

open Backend

def MAX_BATCH_SIZE : ℕ := 50
def MAX_REFERENCE_ID_LENGTH : ℕ := 64

def SUPPORTED_TOKENS : List String := ["USDC", "EURC"]

structure ValidatedRecipient where
  address : String
  amount : String
  amountUnits : ℕ
  targetToken : String
  targetTokenAddress : String
deriving DecidableEq

structure PayrollValidationResult where
  valid : Bool
  recipients : List ValidatedRecipient
  errors : List String

/-! ## Amounts -/

/-- The text before a decimal point, and the text after it if there is one. -/
def splitDecimal (text : String) : List Char × Option (List Char) :=
  let whole := text.toList.takeWhile (· ≠ '.')
  match text.toList.drop whole.length with
  | [] => (whole, none)
  | _ :: fraction => (whole, some fraction)

/-- The shape `/^(?:0|[1-9]\d*)(?:\.\d{1,6})?$/`. -/
def isDecimalAmount (text : String) : Bool :=
  let (whole, fraction) := splitDecimal text
  (whole = ['0'] || isBaseUnits (String.ofList whole)) &&
    fraction.all fun digits => 1 ≤ digits.length && digits.length ≤ 6 && digits.all isDigit

/-- The units of a decimal amount. -/
def parseAmountToUnits (value : String) (decimals : ℕ) : ℕ :=
  let (whole, fraction) := splitDecimal (trim value)
  let fraction := fraction.getD []
  let padded := fraction ++ List.replicate (decimals - fraction.length) '0'
  bigInt (String.ofList (whole ++ padded.take decimals))

/-! ## Validation -/

section

variable (runtime : Runtime)

def supportedToken : Option Json → Bool
  | some (.string token) => token ∈ SUPPORTED_TOKENS
  | _ => false

/-- `value.length > bound` on a text or an array. -/
def lengthExceeds (bound : ℕ) : Option Json → Bool
  | some (.string text) => bound < utf16Length text
  | some (.array items) => bound < items.length
  | _ => false

def getRecipientAddressValue (recipient : Json) : Option String :=
  match recipient.get? "address" with
  | some (.string address) => some address
  | _ =>
      match recipient.get? "recipientAddress" with
      | some (.string address) => some address
      | _ => none

/-- A strictly checked address in its checksummed form. -/
def strictAddress (text : String) : Option String :=
  if isAddress runtime (trim text) then getAddress runtime (trim text) else none

/-- The sender a recipient must differ from; none when the wallet text fails the
strict check. -/
def validationSender (payload : Json) : Option String :=
  match payload.get? "walletAddress" with
  | some (.string wallet) => strictAddress runtime wallet
  | _ => none

def addressErrors (pre : String) (sender : Option String) (addressValue : Option String) :
    List String :=
  match addressValue with
  | none => [pre ++ ".address: required"]
  | some "" => [pre ++ ".address: required"]
  | some value =>
      match strictAddress runtime value with
      | none => [pre ++ ".address: invalid Ethereum address \"" ++ value ++ "\""]
      | some address =>
          if sender.any fun sender => asciiLower sender = asciiLower address then
            [pre ++ ".address: self-send is not allowed"]
          else []

/-- An absent, null or empty amount. -/
def amountMissing : Option Json → Bool
  | none => true
  | some .null => true
  | some (.string "") => true
  | _ => false

def positiveAmount (text : String) (decimals : ℕ) : Bool :=
  isDecimalAmount text && 0 < parseAmountToUnits text decimals

def amountErrors (pre : String) (amount : Option Json) : List String :=
  if amountMissing amount then [pre ++ ".amount: required"]
  else
    let accepted := match amount with
      | some (.string text) => positiveAmount text 6
      | _ => false
    if accepted then []
    else [pre ++ ".amount: must be a positive decimal with at most 6 places, got \"" ++
      Json.propertyText amount ++ "\""]

/-- `recipient.targetToken ?? sourceToken ?? 'USDC'`. -/
def targetTokenValue (payload recipient : Json) : Json :=
  ((present (recipient.get? "targetToken")).or (present (payload.get? "sourceToken"))).getD
    (.string "USDC")

def targetTokenAddressValue (payload recipient : Json) : String :=
  match recipient.get? "targetTokenAddress" with
  | some (.string address) => address
  | _ =>
      match payload.get? "sourceTokenAddress" with
      | some (.string address) => address
      | _ => ""

/-- One turn of the loop: the errors of a recipient, and what is kept of it. -/
def validateRecipient (payload : Json) (sender : Option String) (i : ℕ) (recipient : Json) :
    List String × Option ValidatedRecipient :=
  let pre := "recipients[" ++ toString i ++ "]"
  let entry := match recipient with
    | .object _ => true
    | .array _ => true
    | _ => false
  if entry = false then ([pre ++ ": must be an object"], none)
  else
    let addressValue := getRecipientAddressValue recipient
    let amount := recipient.get? "amount"
    let targetToken := targetTokenValue payload recipient
    let targetErrors :=
      if supportedToken (some targetToken) then []
      else [pre ++ ".targetToken: must be one of " ++ String.intercalate ", " SUPPORTED_TOKENS ++
        ". Got: \"" ++ targetToken.toText ++ "\""]
    let amountText := Json.propertyText amount
    let kept := (addressValue.bind (strictAddress runtime)).bind fun address =>
      if amountMissing amount = false ∧ positiveAmount amountText 6 = true then
        some {
          address
          amount := amountText
          amountUnits := parseAmountToUnits amountText 6
          targetToken := targetToken.toText
          targetTokenAddress := targetTokenAddressValue payload recipient }
      else none
    (addressErrors runtime pre sender addressValue ++ amountErrors pre amount ++ targetErrors, kept)

def validateRecipients (payload : Json) (sender : Option String) :
    ℕ → List Json → List String × List ValidatedRecipient
  | _, [] => ([], [])
  | i, recipient :: rest =>
      let (errors, kept) := validateRecipient runtime payload sender i recipient
      let (restErrors, restKept) := validateRecipients payload sender (i + 1) rest
      (errors ++ restErrors, kept.toList ++ restKept)

def validate (payload : Json) : PayrollValidationResult :=
  let sourceErrors :=
    if supportedToken (payload.get? "sourceToken") then []
    else ["sourceToken must be one of: " ++ String.intercalate ", " SUPPORTED_TOKENS ++
      ". Got: \"" ++ Json.propertyText (payload.get? "sourceToken") ++ "\""]
  let referenceErrors :=
    if lengthExceeds MAX_REFERENCE_ID_LENGTH (payload.get? "referenceId") then
      ["referenceId must be " ++ toString MAX_REFERENCE_ID_LENGTH ++ " characters or less"]
    else []
  match payload.get? "recipients" with
  | some (.array (first :: rest)) =>
      let (errors, recipients) :=
        validateRecipients runtime payload (validationSender runtime payload) 0 (first :: rest)
      let errors := sourceErrors ++ referenceErrors ++ errors
      ⟨errors.isEmpty, recipients, errors⟩
  | _ => ⟨false, [], sourceErrors ++ referenceErrors ++ ["recipients must be a non-empty array"]⟩

end

/-! ## Batches -/

structure PayrollBatch where
  index : ℕ
  recipients : List ValidatedRecipient
  totalAmount : ℕ
deriving DecidableEq

/-- Appends to the group of the token, or opens one at the end. -/
def addToGroup (recipient : ValidatedRecipient) :
    List (String × List ValidatedRecipient) → List (String × List ValidatedRecipient)
  | [] => [(recipient.targetToken, [recipient])]
  | group :: rest =>
      if group.1 = recipient.targetToken then (group.1, group.2 ++ [recipient]) :: rest
      else group :: addToGroup recipient rest

/-- The groups in the order of their first recipients. -/
def groupByToken (recipients : List ValidatedRecipient) : List (String × List ValidatedRecipient) :=
  recipients.foldl (fun groups recipient => addToGroup recipient groups) []

/-- `slice(0, size)`, `slice(size, 2 * size)` and so on, `count` of them. -/
def slices {α : Type} (size : ℕ) : ℕ → List α → List (List α)
  | 0, _ => []
  | count + 1, items => items.take size :: slices size count (items.drop size)

/-- The slices of the loop that advances by `size` below the length. -/
def chunks {α : Type} (size : ℕ) (items : List α) : List (List α) :=
  slices size ((items.length + (size - 1)) / size) items

def totalUnits (recipients : List ValidatedRecipient) : ℕ :=
  (recipients.map ValidatedRecipient.amountUnits).sum

def splitIntoBatches (recipients : List ValidatedRecipient) : List PayrollBatch :=
  ((groupByToken recipients).flatMap fun group => chunks MAX_BATCH_SIZE group.2).mapIdx
    fun index chunk => ⟨index, chunk, totalUnits chunk⟩

structure BatchBreakdown where
  index : ℕ
  recipientCount : ℕ
  amount : ℕ
deriving DecidableEq

structure PayrollBatchTotals where
  totalAmount : ℕ
  totalRecipients : ℕ
  totalBatches : ℕ
  batchBreakdown : List BatchBreakdown
deriving DecidableEq

def calculateTotals (batches : List PayrollBatch) : PayrollBatchTotals where
  totalAmount := (batches.map PayrollBatch.totalAmount).sum
  totalRecipients := (batches.map fun batch => batch.recipients.length).sum
  totalBatches := batches.length
  batchBreakdown := batches.map fun batch =>
    ⟨batch.index, batch.recipients.length, batch.totalAmount⟩

/-- The approval of the same-token recipients with the fee of each. -/
def payrollSameTokenApprovalAmountWithFee (recipients : List ValidatedRecipient)
    (sourceToken : String) (feeBps : ℕ) : ℕ :=
  ((recipients.filter fun recipient => recipient.targetToken = sourceToken).map fun recipient =>
    recipient.amountUnits + recipient.amountUnits * feeBps / 10000).sum

/-! ## Owner and references -/

/-- `normalizeTaskOwner` with `walletAddress` as the only field. -/
def normalizeTaskOwner (payload : Json) : Except ServiceError String :=
  match payload.get? "walletAddress" with
  | some (.string wallet) =>
      if isHexText 40 (trim wallet) then return asciiLower (trim wallet) else throw ownerRequired
  | _ => throw ownerRequired
where
  ownerRequired : ServiceError :=
    .badRequest "Bad Request"
      "A valid initiator walletAddress or sourceAddress is required before creating a task."

/-- A property that is a text with more than white space, trimmed. -/
def trimmedField (payload : Json) (key : String) : Option String :=
  match payload.get? key with
  | some (.string text) => if trim text = "" then none else some (trim text)
  | _ => none

def normalizeReferenceId (payload : Json) (now : ℕ) : String :=
  (trimmedField payload "referenceId").getD ("PAY-" ++ toString now)

def isLineTerminator (c : Char) : Bool :=
  c.val = 0x0A || c.val = 0x0D || c.val = 0x2028 || c.val = 0x2029

/-- The groups of `/(.*)-(\d+)$/`: the digits at the end, and what stands
between the hyphen before them and the line start. -/
def matchSuffix (text : String) : Option (String × String) :=
  let reversed := text.toList.reverse
  let digits := reversed.takeWhile isDigit
  match digits, reversed.drop digits.length with
  | _ :: _, '-' :: before =>
      some (String.ofList (before.takeWhile fun c => !isLineTerminator c).reverse,
        String.ofList digits.reverse)
  | _, _ => none

def getBatchReferenceId (baseReferenceId : String) (batchIndex : ℕ) : String :=
  if batchIndex = 0 then baseReferenceId
  else
    match matchSuffix baseReferenceId with
    | some (before, digits) => before ++ "-" ++ addNumber (bigInt digits) batchIndex
    | none => baseReferenceId ++ "-" ++ numberText (toDouble (batchIndex + 1))

/-! ## Accepted requests -/

/-- What the checks of `createPayrollTask` leave of a request. -/
structure AcceptedPayroll where
  owner : String
  recipients : List ValidatedRecipient
  sourceToken : String
deriving DecidableEq

variable (runtime : Runtime) (routing : PaymentRouting)

def acceptPayroll (payload : Json) : Except ServiceError AcceptedPayroll := do
  assertPayroll runtime routing payload
  let owner ← normalizeTaskOwner payload
  let validation := validate runtime payload
  if validation.valid = false then
    throw (.invalid "PAYROLL_INIT_INVALID" "Payroll init validation failed." validation.errors)
  return {
    owner
    recipients := validation.recipients
    sourceToken := (trimmedField payload "sourceToken").getD "USDC" }

end WizPay.Payroll
