import Mathlib.Data.List.Infix
import WizPay.Backend.Conversion

/-!
# Importing payees from CSV

The preview of a CSV file: its lines without blank ones, a first line with a header's
words skipped, the delimiter guessed from one line, and of each row the first three
cells checked. The amounts go on as texts; the composer parses them when it adds up.
-/

namespace WizPay.Csv

open Backend

inductive TokenSymbol where
  | usdc
  | eurc
deriving DecidableEq

def TokenSymbol.text : TokenSymbol → String
  | usdc => "USDC"
  | eurc => "EURC"

structure RecipientDraft where
  id : String
  address : String
  amount : String
  targetToken : TokenSymbol
deriving DecidableEq

structure CsvPreviewRow where
  lineNumber : ℕ
  address : String
  amount : String
  token : String
  errors : List String
deriving DecidableEq

structure CsvPreviewState where
  fileName : String
  rows : List CsvPreviewRow
  validRows : List RecipientDraft
  invalidCount : ℕ

/-! ## Lines and cells -/

/-- `split(/\r?\n/)`. -/
def splitLines : List Char → List (List Char)
  | [] => [[]]
  | '\r' :: '\n' :: rest => [] :: splitLines rest
  | '\n' :: rest => [] :: splitLines rest
  | c :: rest =>
      match splitLines rest with
      | line :: lines => (c :: line) :: lines
      | [] => [[c]]

/-- The lines of a file that are not blank, without the byte order mark. -/
def linesOf (text : String) : List String :=
  let chars := match text.toList with
    | '\uFEFF' :: rest => rest
    | chars => chars
  ((splitLines chars).map fun line => trim (String.ofList line)).filter (· ≠ "")

def isQuote (c : Char) : Bool := c = '\'' || c = '"'

def cleanCsvCell (value : String) : String :=
  let chars := (trim value).toList
  let chars := match chars with
    | first :: rest => if isQuote first then rest else chars
    | [] => []
  let chars := match chars.reverse with
    | last :: rest => if isQuote last then rest.reverse else chars
    | [] => []
  trim (String.ofList chars)

/-- The cells of a line, cleaned. -/
def cellsOf (delimiter : Char) (line : String) : List String :=
  (line.toList.splitOn delimiter).map fun cell => cleanCsvCell (String.ofList cell)

def includes (text word : String) : Bool := decide (word.toList <:+: text.toList)

variable (runtime : Runtime)

/-- Whether a line has one of the words of a header. -/
def hasHeaderWord (line : String) : Bool :=
  let lower := runtime.toLowerCase line
  includes lower "address" || includes lower "wallet" || includes lower "recipient"

def delimiterOf (line : String) : Char := if includes line ";" then ';' else ','

/-! ## Recipients -/

inductive RecipientInputKind where
  | empty
  | address
  | invalidAddress
deriving DecidableEq

structure RecipientInputClassification where
  input : String
  trimmedInput : String
  kind : RecipientInputKind
  normalizedAddress : Option String
  errorMessage : Option String

def classifyRecipientInput (input : String) : RecipientInputClassification :=
  let trimmedInput := trim input
  if trimmedInput = "" then
    { input, trimmedInput, kind := .empty, normalizedAddress := none, errorMessage := none }
  else if isAddress runtime trimmedInput then
    { input, trimmedInput, kind := .address
      normalizedAddress := getAddress runtime trimmedInput, errorMessage := none }
  else
    { input, trimmedInput, kind := .invalidAddress, normalizedAddress := none
      errorMessage := some "Invalid wallet address." }

/-! ## Rows -/

/-- What is read of a line: its first three cells. -/
structure CsvLine where
  address : String
  amount : String
  token : String

def readLine (delimiter : Char) (line : String) : CsvLine :=
  let cells := cellsOf delimiter line
  { address := cells.getD 0 "", amount := cells.getD 1 "", token := cells.getD 2 "" }

/-- Whether `Number` makes a positive number of an amount. -/
def amountIsPositive (amount : String) : Bool :=
  amount ≠ "" && match numberOf amount with
    | some value => 0 < value
    | none => false

def tokenIsKnown (token : String) : Bool :=
  token = "" || runtime.toUpperCase token = "USDC" || runtime.toUpperCase token = "EURC"

def resolvedToken (selectedToken : TokenSymbol) (token : String) : TokenSymbol :=
  if runtime.toUpperCase token = "EURC" then .eurc
  else if runtime.toUpperCase token = "USDC" then .usdc
  else selectedToken

/-- The recipients seen so far, and the rows made of the lines so far. -/
structure Progress where
  seenRecipients : List String
  rows : List CsvPreviewRow
  validRows : List RecipientDraft

variable (newId : ℕ → String) (selectedToken : TokenSymbol) (delimiter : Char)

/-- One turn of the loop. -/
def addLine (progress : Progress) (entry : String × ℕ) : Progress :=
  let line := readLine delimiter entry.1
  let token := resolvedToken runtime selectedToken line.token
  let classification := classifyRecipientInput runtime line.address
  let dedupeKey := classification.normalizedAddress.map asciiLower
  let duplicate := dedupeKey.any fun key => decide (key ∈ progress.seenRecipients)
  let errors := classification.errorMessage.toList ++
    (if amountIsPositive line.amount then [] else ["Amount must be greater than 0."]) ++
    (if tokenIsKnown runtime line.token then [] else ["Token must be USDC or EURC."]) ++
    (if duplicate then ["Duplicate address found in this file."] else [])
  { seenRecipients := progress.seenRecipients ++
      (if duplicate then [] else dedupeKey.toList)
    rows := progress.rows ++ [{
      lineNumber := entry.2 + 1
      address := line.address
      amount := line.amount
      token := if line.token = "" then token.text else line.token
      errors }]
    validRows := progress.validRows ++
      (match classification.normalizedAddress with
      | some address =>
          if errors = [] then
            [{ id := newId entry.2, address, amount := line.amount, targetToken := token }]
          else []
      | none => []) }

/-- `buildCsvPreview`; a file without lines has none. The ids of the drafts are drawn. -/
def buildCsvPreview (fileName text : String) : Option CsvPreviewState :=
  match linesOf text with
  | [] => none
  | first :: rest =>
      let lines := first :: rest
      let startIndex := if hasHeaderWord runtime first then 1 else 0
      let delimiter := delimiterOf (lines.getD startIndex first)
      let progress := (lines.zipIdx.drop startIndex).foldl
        (addLine runtime newId selectedToken delimiter) ⟨[], [], []⟩
      some {
        fileName
        rows := progress.rows
        validRows := progress.validRows
        invalidCount := (progress.rows.filter fun row => row.errors ≠ []).length }

/-! ## Amounts in the composer -/

/-- The units of an amount; what the library refuses is zero. -/
def parseAmountToUnits (parseUnits : String → ℕ → Option ℤ) (value : String) (decimals : ℕ) : ℤ :=
  let normalized := trim value
  if normalized = "" then 0 else (parseUnits normalized decimals).getD 0

end WizPay.Csv
