import WizPay.Backend.Abi
import WizPay.Backend.Conversion

/-!
# Deployment plans

A plan is a JSON object that states what is deployed, and the digests of it. The
plan digest is taken over digests, addresses and numbers; the commit, the compiler
and the constructor arguments enter it through a digest that the plan states beside
them.
-/

namespace WizPay.Deployment

open Backend

/-- The fields of a plan that are displayed or hashed, as a file may state them. -/
structure DeploymentPlan where
  schemaVersion : Json
  deploymentManifestSchemaVersion : Json
  network : Json
  chainId : Json
  contract : Json
  sourceCommit : Json
  sourceCommitDigest : Json
  sourceSetDigest : Json
  compiler : Json
  compilerDigest : Json
  canonicalUsdc : Json
  deployer : Json
  owner : Json
  feeRecipient : Json
  feeBps : Json
  constructorArguments : Json
  constructorDigest : Json
  creationBytecodeHash : Json
  runtimeBytecodeHash : Json
  initCodeHash : Json
  initCode : Json
  resourceManifestDigest : Json
  planDigest : Json

/-! ## Arguments -/

/-- `BigInt` of a text. -/
def bigIntLiteral (text : String) : Option ℤ :=
  let decimal := fun digits : List Char =>
    if digits ≠ [] ∧ digits.all isDigit = true then some (digitsValue 10 digits : ℤ) else none
  match (trim text).toList with
  | [] => some 0
  | '0' :: 'x' :: digits | '0' :: 'X' :: digits => (radixLiteral 16 digits).map fun value => value.num
  | '0' :: 'o' :: digits | '0' :: 'O' :: digits => (radixLiteral 8 digits).map fun value => value.num
  | '0' :: 'b' :: digits | '0' :: 'B' :: digits => (radixLiteral 2 digits).map fun value => value.num
  | '-' :: digits => (decimal digits).map fun value => -value
  | '+' :: digits => decimal digits
  | digits => decimal digits

/-- `BigInt` of a JSON value; it throws on a fraction. -/
def bigIntOf : Json → Option ℤ
  | .null => none
  | .bool value => some (if value then 1 else 0)
  | .number text => (numberOf text).bind fun value =>
      if value.den = 1 ∧ |value| < 2 ^ 1024 then some value.num else none
  | .string text => bigIntLiteral text
  | value => if value.hasText then bigIntLiteral value.toText else none

/-- An argument of type `uint256`. -/
def uintOf (value : Json) : Option (BitVec 256) :=
  (bigIntOf value).bind fun n =>
    if 0 ≤ n ∧ n < 2 ^ 256 then some (BitVec.ofInt 256 n) else none

/-- An argument of type `string`. -/
def stringOf (value : Json) : Option String :=
  if value.hasText = true ∧ value.toText.utf8ByteSize < 16 ^ 64 then some value.toText else none

/-- An argument of type `address`. -/
def addressArgument (runtime : Runtime) : Json → Option Evm.Address
  | .string text => if isAddress runtime text then addressOf text else none
  | _ => none

/-- An argument of type `bytes32`. -/
def wordOf : Json → Option (BitVec 256)
  | .string text =>
      if isHexText 64 text then some (BitVec.ofNat 256 (hexNat (text.toList.drop 2))) else none
  | _ => none

/-- The bytes that a hex text stands for, as digits in lower case. -/
def bytesOf : Json → Option String
  | .string text =>
      match text.toList with
      | '0' :: 'x' :: digits =>
          if digits.all isHexDigit = true then
            let lower := digits.map Char.toLower
            some (String.ofList ('0' :: 'x' :: if digits.length % 2 = 0 then lower else '0' :: lower))
          else none
      | _ => none
  | _ => none

def bytes32 (value : Json) (label : String) : Except String String :=
  match value with
  | .string text =>
      if isHexText 64 text then return asciiLower text
      else throw (label ++ " must be a bytes32 hex value.")
  | _ => throw (label ++ " must be a bytes32 hex value.")

/-! ## Digests -/

variable (runtime : Runtime) (keccak256 : String → String)

def canonicalDigest (value : Json) : String := keccak256 (toHex value.stableJson)

/-- What identifies the deployment. -/
def identityValues (core : DeploymentPlan) : Option (List AbiValue) := do
  let schemaVersion ← uintOf core.schemaVersion
  let deploymentManifestSchemaVersion ← uintOf core.deploymentManifestSchemaVersion
  let network ← stringOf core.network
  let chainId ← uintOf core.chainId
  let contract ← stringOf core.contract
  return [.uint256 schemaVersion, .uint256 deploymentManifestSchemaVersion, .string network,
    .uint256 chainId, .string contract]

/-- What a plan digest is taken of. -/
def coreValues (core : DeploymentPlan) : Option (List AbiValue) := do
  let identity ← identityValues core
  let identityDigest ← wordOf (.string (keccak256 (encodeAbiParameters identity)))
  let sourceCommitDigest ← wordOf core.sourceCommitDigest
  let sourceSetDigest ← wordOf core.sourceSetDigest
  let compilerDigest ← wordOf core.compilerDigest
  let creationBytecodeHash ← wordOf core.creationBytecodeHash
  let runtimeBytecodeHash ← wordOf core.runtimeBytecodeHash
  let initCodeHash ← wordOf core.initCodeHash
  let constructorDigest ← wordOf core.constructorDigest
  let canonicalUsdc ← addressArgument runtime core.canonicalUsdc
  let deployer ← addressArgument runtime core.deployer
  let owner ← addressArgument runtime core.owner
  let feeRecipient ← addressArgument runtime core.feeRecipient
  let feeBps ← uintOf core.feeBps
  let resourceManifestDigest ← wordOf core.resourceManifestDigest
  return [.bytes32 identityDigest, .bytes32 sourceCommitDigest, .bytes32 sourceSetDigest,
    .bytes32 compilerDigest, .bytes32 creationBytecodeHash, .bytes32 runtimeBytecodeHash,
    .bytes32 initCodeHash, .bytes32 constructorDigest, .address canonicalUsdc, .address deployer,
    .address owner, .address feeRecipient, .uint256 feeBps, .bytes32 resourceManifestDigest]

def encodePlanCore (core : DeploymentPlan) : Option String :=
  (coreValues runtime keccak256 core).map encodeAbiParameters

/-- The arguments of the constructor, which are hashed on their own. -/
def constructorValues (arguments : Json) : Option (List AbiValue) := do
  let canonicalUsdc ← addressArgument runtime (← arguments.get? "canonicalUsdc")
  let initialOwner ← addressArgument runtime (← arguments.get? "initialOwner")
  let feeRecipient ← addressArgument runtime (← arguments.get? "feeRecipient")
  let feeBps ← uintOf (← arguments.get? "feeBps")
  return [.address canonicalUsdc, .address initialOwner, .address feeRecipient, .uint256 feeBps]

def assertPlanDigest (plan : DeploymentPlan) : Except String Unit := do
  let expected ← bytes32 plan.planDigest "planDigest"
  match encodePlanCore runtime keccak256 plan, bytesOf plan.initCode with
  | none, _ => throw "InvalidArgument"
  | some encoded, code =>
      if keccak256 encoded ≠ expected then throw "Deployment plan digest mismatch."
      else match code with
        | none => throw "InvalidHex"
        | some initCode => do
            let initCodeHash ← bytes32 plan.initCodeHash "initCodeHash"
            if keccak256 initCode ≠ initCodeHash then
              throw "Deployment init code hash mismatch."
            else return ()

/-! ## Plans of a build -/

/-- What a plan is built from, after the checks of its input and of the artifact. -/
structure PlanSources where
  currentCommit : String
  sources : Json
  compiler : Json
  canonicalUsdc : String
  owner : String
  feeRecipient : String
  deployer : String
  feeBps : String
  creationBytecode : String
  runtimeBytecode : String
  initCode : String
  resourceManifest : Json

def PlanSources.constructorArguments (built : PlanSources) : Json := .object [
  ("canonicalUsdc", .string built.canonicalUsdc), ("initialOwner", .string built.owner),
  ("feeRecipient", .string built.feeRecipient), ("feeBps", .string built.feeBps)]

/-- A built plan: every digest is taken of what stands beside it. -/
def buildDeploymentPlan (built : PlanSources) : Option DeploymentPlan := do
  let arguments ← constructorValues runtime built.constructorArguments
  let core : DeploymentPlan := {
    schemaVersion := .number "3"
    deploymentManifestSchemaVersion := .number "2"
    network := .string "arc-mainnet"
    chainId := .number "5042"
    contract := .string "WizPayMainnetV2"
    sourceCommit := .string built.currentCommit
    sourceCommitDigest := .string (keccak256 (toHex built.currentCommit))
    sourceSetDigest := .string (canonicalDigest keccak256 built.sources)
    compiler := built.compiler
    compilerDigest := .string (canonicalDigest keccak256 built.compiler)
    canonicalUsdc := .string built.canonicalUsdc
    deployer := .string built.deployer
    owner := .string built.owner
    feeRecipient := .string built.feeRecipient
    feeBps := .string built.feeBps
    constructorArguments := built.constructorArguments
    constructorDigest := .string (keccak256 (encodeAbiParameters arguments))
    creationBytecodeHash := .string (keccak256 built.creationBytecode)
    runtimeBytecodeHash := .string (keccak256 built.runtimeBytecode)
    initCodeHash := .string (keccak256 built.initCode)
    initCode := .string built.initCode
    resourceManifestDigest := .string (canonicalDigest keccak256 built.resourceManifest)
    planDigest := .null }
  let encoded ← encodePlanCore runtime keccak256 core
  return { core with planDigest := .string (keccak256 encoded) }

end WizPay.Deployment
