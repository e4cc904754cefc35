import Mathlib.Data.List.Pairwise
import WizPay.Backend.Service
import WizPay.Deployment.Plan

/-!
# What a plan digest binds

Two accepted plans with one digest agree in everything that is hashed. They agree in
the commit, the compiler and the constructor arguments, too, if each of them states
the digests of its own, as a built plan does; the check of the digest does not look.
-/

namespace WizPay.Deployment

open Backend

/-- The real functions: a digest is 32 bytes, written in lower case. -/
def IsDigest (keccak256 : String → String) : Prop :=
  ∀ text, isHexText 64 (keccak256 text) = true ∧ asciiLower (keccak256 text) = keccak256 text

/-- No two of some texts have the same digest. -/
def CollisionFree (keccak256 : String → String) (texts : List String) : Prop :=
  ∀ first ∈ texts, ∀ second ∈ texts, keccak256 first = keccak256 second → first = second

variable (runtime : Runtime) (keccak256 : String → String)

def commitText : Json → Option String
  | .string text => some (toHex text)
  | _ => none

/-- The texts that are hashed for a plan, where it is built and where it is checked. -/
def DeploymentPlan.hashed (plan : DeploymentPlan) : List String :=
  ((identityValues plan).map encodeAbiParameters).toList ++
    (encodePlanCore runtime keccak256 plan).toList ++ (bytesOf plan.initCode).toList ++
    (commitText plan.sourceCommit).toList ++ [toHex plan.compiler.stableJson] ++
    ((constructorValues runtime plan.constructorArguments).map encodeAbiParameters).toList

/-- Two plans state the same values wherever the digest is taken, and the same code. -/
structure SameHashed (plan other : DeploymentPlan) : Prop where
  schemaVersion : uintOf plan.schemaVersion = uintOf other.schemaVersion
  deploymentManifestSchemaVersion : uintOf plan.deploymentManifestSchemaVersion =
    uintOf other.deploymentManifestSchemaVersion
  network : stringOf plan.network = stringOf other.network
  chainId : uintOf plan.chainId = uintOf other.chainId
  contract : stringOf plan.contract = stringOf other.contract
  sourceCommitDigest : wordOf plan.sourceCommitDigest = wordOf other.sourceCommitDigest
  sourceSetDigest : wordOf plan.sourceSetDigest = wordOf other.sourceSetDigest
  compilerDigest : wordOf plan.compilerDigest = wordOf other.compilerDigest
  creationBytecodeHash : wordOf plan.creationBytecodeHash = wordOf other.creationBytecodeHash
  runtimeBytecodeHash : wordOf plan.runtimeBytecodeHash = wordOf other.runtimeBytecodeHash
  initCodeHash : wordOf plan.initCodeHash = wordOf other.initCodeHash
  constructorDigest : wordOf plan.constructorDigest = wordOf other.constructorDigest
  canonicalUsdc : addressArgument runtime plan.canonicalUsdc =
    addressArgument runtime other.canonicalUsdc
  deployer : addressArgument runtime plan.deployer = addressArgument runtime other.deployer
  owner : addressArgument runtime plan.owner = addressArgument runtime other.owner
  feeRecipient : addressArgument runtime plan.feeRecipient =
    addressArgument runtime other.feeRecipient
  feeBps : uintOf plan.feeBps = uintOf other.feeBps
  resourceManifestDigest : wordOf plan.resourceManifestDigest = wordOf other.resourceManifestDigest
  initCode : bytesOf plan.initCode = bytesOf other.initCode

/-- A plan states the digests of its own commit, compiler and arguments. -/
structure SelfConsistent (plan : DeploymentPlan) : Prop where
  sourceCommit : ∃ text, plan.sourceCommit = .string text ∧
    wordOf plan.sourceCommitDigest = wordOf (.string (keccak256 (toHex text)))
  compiler : wordOf plan.compilerDigest =
    wordOf (.string (canonicalDigest keccak256 plan.compiler))
  constructorArguments : ∃ arguments, constructorValues runtime plan.constructorArguments =
      some arguments ∧ wordOf plan.constructorDigest =
        wordOf (.string (keccak256 (encodeAbiParameters arguments)))

/-- Two plans display the same commit, the same compiler up to the order of its keys,
and the same constructor arguments. -/
structure SameDisplayed (plan other : DeploymentPlan) : Prop where
  sourceCommit : plan.sourceCommit = other.sourceCommit
  compiler : plan.compiler.stableJson = other.compiler.stableJson
  constructorArguments : constructorValues runtime plan.constructorArguments =
    constructorValues runtime other.constructorArguments

/-! ## Digests and arguments -/

/-- A digest is found back in its word. -/
theorem digest_of_word {keccak256 : String → String} (hdigest : IsDigest keccak256)
    {first second : String}
    (hsame : wordOf (.string (keccak256 first)) = wordOf (.string (keccak256 second))) :
    keccak256 first = keccak256 second := by
  have hread : ∀ text, ∃ digits, keccak256 text = String.ofList ('0' :: 'x' :: digits) ∧
      hexDigits 64 (hexNat digits) = digits ∧ hexNat digits < 2 ^ 256 := by
    intro text
    obtain ⟨hhex, hlower⟩ := hdigest text
    obtain ⟨digits, htext, hlength, hdigits⟩ := isHexText_iff.mp hhex
    refine ⟨digits, htext, ?_, ?_⟩
    · rw [htext, asciiLower, String.toList_ofList, String.ofList_inj] at hlower
      rw [← hlength, hexDigits_hexNat hdigits]
      exact (List.cons.inj (List.cons.inj hlower).2).2
    · have hlt := hexNat_lt hdigits
      rw [hlength] at hlt
      exact hlt.trans_le (by decide)
  have hword : ∀ text digits, keccak256 text = String.ofList ('0' :: 'x' :: digits) →
      wordOf (.string (keccak256 text)) = some (BitVec.ofNat 256 (hexNat digits)) := by
    intro text digits htext
    rw [wordOf, if_pos (hdigest text).1, htext, String.toList_ofList]
    rfl
  obtain ⟨digits, hfirst, hdigits, hlt⟩ := hread first
  obtain ⟨others, hsecond, hothers, hotherLt⟩ := hread second
  rw [hword first digits hfirst, hword second others hsecond, Option.some.injEq] at hsame
  have hvalue : hexNat digits = hexNat others := by
    have hnat := congrArg BitVec.toNat hsame
    rwa [BitVec.toNat_ofNat, BitVec.toNat_ofNat, Nat.mod_eq_of_lt hlt,
      Nat.mod_eq_of_lt hotherLt] at hnat
  rw [hfirst, hsecond, ← hdigits, ← hothers, hvalue]

/-- A word may be stated in any letter case. -/
theorem wordOf_bytes32 {value : Json} {label text : String}
    (hbytes : bytes32 value label = .ok text) : wordOf value = wordOf (.string text) := by
  cases value with
  | string stated =>
      unfold bytes32 at hbytes
      dsimp only at hbytes
      split at hbytes
      next hhex =>
        obtain rfl := Except.ok.inj hbytes
        obtain ⟨digits, rfl, hlength, hdigits⟩ := isHexText_iff.mp hhex
        have hlower : asciiLower (String.ofList ('0' :: 'x' :: digits)) =
            String.ofList ('0' :: 'x' :: hexDigits 64 (hexNat digits)) := by
          rw [asciiLower, String.toList_ofList, ← hlength, hexDigits_hexNat hdigits]
          rfl
        have hlowerHex : isHexText 64 (String.ofList ('0' :: 'x' :: hexDigits 64 (hexNat digits))) =
            true :=
          isHexText_iff.mpr ⟨_, rfl, hexDigits_length _ _, hexDigits_isHexDigit _ _⟩
        have hvalue : hexNat (hexDigits 64 (hexNat digits)) = hexNat digits :=
          hexNat_hexDigits (hlength ▸ hexNat_lt hdigits)
        rw [hlower, wordOf, wordOf, if_pos hhex, if_pos hlowerHex, String.toList_ofList,
          String.toList_ofList]
        exact congrArg (fun n => some (BitVec.ofNat 256 n)) hvalue.symm
      next => cases hbytes
  | _ => cases hbytes

variable {runtime} {keccak256}

theorem identityValues_some {plan : DeploymentPlan} {values : List AbiValue}
    (hvalues : identityValues plan = some values) :
    ∃ schemaVersion manifestVersion network chainId contract,
      uintOf plan.schemaVersion = some schemaVersion ∧
      uintOf plan.deploymentManifestSchemaVersion = some manifestVersion ∧
      stringOf plan.network = some network ∧ uintOf plan.chainId = some chainId ∧
      stringOf plan.contract = some contract ∧
      values = [.uint256 schemaVersion, .uint256 manifestVersion, .string network,
        .uint256 chainId, .string contract] := by
  simp only [identityValues, Option.bind_eq_bind, Option.bind_eq_some_iff, Option.pure_def,
    Option.some.injEq] at hvalues
  obtain ⟨schemaVersion, hschema, manifestVersion, hmanifest, network, hnetwork, chainId, hchain,
    contract, hcontract, rfl⟩ := hvalues
  exact ⟨schemaVersion, manifestVersion, network, chainId, contract, hschema, hmanifest, hnetwork,
    hchain, hcontract, rfl⟩

theorem stringOf_fits {value : Json} {text : String} (htext : stringOf value = some text) :
    (AbiValue.string text).Fits := by
  unfold stringOf at htext
  split at htext
  · next hshort =>
      cases htext
      exact hshort.2
  · cases htext

/-- Identities with one encoding are the same. -/
theorem identityValues_inj {plan other : DeploymentPlan} {values others : List AbiValue}
    (hvalues : identityValues plan = some values) (hothers : identityValues other = some others)
    (hsame : encodeAbiParameters values = encodeAbiParameters others) : values = others := by
  obtain ⟨_, _, network, _, contract, -, -, hnetwork, -, hcontract, rfl⟩ :=
    identityValues_some hvalues
  obtain ⟨_, _, network', _, contract', -, -, hnetwork', -, hcontract', rfl⟩ :=
    identityValues_some hothers
  refine encodeAbiParameters_inj rfl ?_ ?_ hsame
  · simp only [List.forall_mem_cons, List.not_mem_nil]
    exact ⟨trivial, trivial, stringOf_fits hnetwork, trivial, stringOf_fits hcontract, nofun⟩
  · simp only [List.forall_mem_cons, List.not_mem_nil]
    exact ⟨trivial, trivial, stringOf_fits hnetwork', trivial, stringOf_fits hcontract', nofun⟩

theorem constructorValues_inj {first second : Json} {values others : List AbiValue}
    (hvalues : constructorValues runtime first = some values)
    (hothers : constructorValues runtime second = some others)
    (hsame : encodeAbiParameters values = encodeAbiParameters others) : values = others := by
  have hshape : ∀ {arguments : Json} {values : List AbiValue},
      constructorValues runtime arguments = some values →
      values.map AbiValue.kind = [.address, .address, .address, .uint256] ∧
        ∀ value ∈ values, value.Fits := by
    intro arguments values hvalues
    simp only [constructorValues, Option.bind_eq_bind, Option.bind_eq_some_iff, Option.pure_def,
      Option.some.injEq] at hvalues
    obtain ⟨_, -, _, -, _, -, _, -, _, -, _, -, _, -, _, -, rfl⟩ := hvalues
    simp [AbiValue.kind, AbiValue.Fits]
  exact encodeAbiParameters_inj ((hshape hvalues).1.trans (hshape hothers).1.symm)
    (hshape hvalues).2 (hshape hothers).2 hsame

/-- The hashed values of a plan, one by one. -/
theorem coreValues_some {plan : DeploymentPlan} {values : List AbiValue}
    (hvalues : coreValues runtime keccak256 plan = some values) :
    ∃ identity identityDigest sourceCommit sourceSet compiler creation runtimeCode initCode arguments
      canonicalUsdc deployer owner feeRecipient feeBps manifest,
      identityValues plan = some identity ∧
      wordOf (.string (keccak256 (encodeAbiParameters identity))) = some identityDigest ∧
      wordOf plan.sourceCommitDigest = some sourceCommit ∧
      wordOf plan.sourceSetDigest = some sourceSet ∧ wordOf plan.compilerDigest = some compiler ∧
      wordOf plan.creationBytecodeHash = some creation ∧
      wordOf plan.runtimeBytecodeHash = some runtimeCode ∧
      wordOf plan.initCodeHash = some initCode ∧ wordOf plan.constructorDigest = some arguments ∧
      addressArgument runtime plan.canonicalUsdc = some canonicalUsdc ∧
      addressArgument runtime plan.deployer = some deployer ∧
      addressArgument runtime plan.owner = some owner ∧
      addressArgument runtime plan.feeRecipient = some feeRecipient ∧
      uintOf plan.feeBps = some feeBps ∧ wordOf plan.resourceManifestDigest = some manifest ∧
      values = [.bytes32 identityDigest, .bytes32 sourceCommit, .bytes32 sourceSet,
        .bytes32 compiler, .bytes32 creation, .bytes32 runtimeCode, .bytes32 initCode,
        .bytes32 arguments, .address canonicalUsdc, .address deployer, .address owner,
        .address feeRecipient, .uint256 feeBps, .bytes32 manifest] := by
  obtain ⟨identity, hidentity, hvalues⟩ := Option.bind_eq_some_iff.mp hvalues
  obtain ⟨identityDigest, hdigest, hvalues⟩ := Option.bind_eq_some_iff.mp hvalues
  obtain ⟨sourceCommit, hcommit, hvalues⟩ := Option.bind_eq_some_iff.mp hvalues
  obtain ⟨sourceSet, hset, hvalues⟩ := Option.bind_eq_some_iff.mp hvalues
  obtain ⟨compiler, hcompiler, hvalues⟩ := Option.bind_eq_some_iff.mp hvalues
  obtain ⟨creation, hcreation, hvalues⟩ := Option.bind_eq_some_iff.mp hvalues
  obtain ⟨runtimeCode, hruntime, hvalues⟩ := Option.bind_eq_some_iff.mp hvalues
  obtain ⟨initCode, hinit, hvalues⟩ := Option.bind_eq_some_iff.mp hvalues
  obtain ⟨arguments, harguments, hvalues⟩ := Option.bind_eq_some_iff.mp hvalues
  obtain ⟨canonicalUsdc, husdc, hvalues⟩ := Option.bind_eq_some_iff.mp hvalues
  obtain ⟨deployer, hdeployer, hvalues⟩ := Option.bind_eq_some_iff.mp hvalues
  obtain ⟨owner, howner, hvalues⟩ := Option.bind_eq_some_iff.mp hvalues
  obtain ⟨feeRecipient, hrecipient, hvalues⟩ := Option.bind_eq_some_iff.mp hvalues
  obtain ⟨feeBps, hfee, hvalues⟩ := Option.bind_eq_some_iff.mp hvalues
  obtain ⟨manifest, hmanifest, hvalues⟩ := Option.bind_eq_some_iff.mp hvalues
  obtain rfl := Option.some.inj hvalues
  exact ⟨identity, identityDigest, sourceCommit, sourceSet, compiler, creation, runtimeCode,
    initCode, arguments, canonicalUsdc, deployer, owner, feeRecipient, feeBps, manifest, hidentity,
    hdigest, hcommit, hset, hcompiler, hcreation, hruntime, hinit, harguments, husdc, hdeployer,
    howner, hrecipient, hfee, hmanifest, rfl⟩

theorem coreValues_inj {plan other : DeploymentPlan} {values others : List AbiValue}
    (hvalues : coreValues runtime keccak256 plan = some values)
    (hothers : coreValues runtime keccak256 other = some others)
    (hsame : encodeAbiParameters values = encodeAbiParameters others) : values = others := by
  have hshape : ∀ {plan : DeploymentPlan} {values : List AbiValue},
      coreValues runtime keccak256 plan = some values →
      values.map AbiValue.kind = List.replicate 8 .bytes32 ++ List.replicate 4 .address ++
          [.uint256, .bytes32] ∧ ∀ value ∈ values, value.Fits := by
    intro plan values hvalues
    obtain ⟨_, _, _, _, _, _, _, _, _, _, _, _, _, _, _, -, -, -, -, -, -, -, -, -, -, -, -, -, -, -,
      rfl⟩ := coreValues_some hvalues
    refine ⟨rfl, ?_⟩
    simp [AbiValue.Fits]
  exact encodeAbiParameters_inj ((hshape hvalues).1.trans (hshape hothers).1.symm)
    (hshape hvalues).2 (hshape hothers).2 hsame

/-- An accepted plan states the digest of what it hashes, and that of its code. -/
theorem assertPlanDigest_ok {plan : DeploymentPlan} :
    assertPlanDigest runtime keccak256 plan = .ok () ↔
      ∃ values initCode, coreValues runtime keccak256 plan = some values ∧
        bytes32 plan.planDigest "planDigest" = .ok (keccak256 (encodeAbiParameters values)) ∧
        bytesOf plan.initCode = some initCode ∧
        bytes32 plan.initCodeHash "initCodeHash" = .ok (keccak256 initCode) := by
  constructor
  case mpr =>
    rintro ⟨values, initCode, hvalues, hplan, hcode, hhash⟩
    unfold assertPlanDigest
    rw [hplan, encodePlanCore, hvalues, hcode, hhash]
    simp [bind, Except.bind, pure, Except.pure]
  intro hok
  obtain ⟨expected, hexpected, hrest⟩ := except_bind_ok.mp hok
  unfold encodePlanCore at hrest
  cases hvalues : coreValues runtime keccak256 plan with
  | none =>
      rw [hvalues] at hrest
      cases hrest
  | some values =>
      rw [hvalues] at hrest
      simp only [Option.map_some] at hrest
      split at hrest
      · cases hrest
      · next hplan =>
          cases hcode : bytesOf plan.initCode with
          | none =>
              rw [hcode] at hrest
              cases hrest
          | some initCode =>
              rw [hcode] at hrest
              obtain ⟨stated, hstated, hcompared⟩ := except_bind_ok.mp hrest
              split at hcompared
              · cases hcompared
              · next hinit =>
                  refine ⟨values, initCode, rfl, ?_, rfl, ?_⟩
                  · rw [not_not.mp hplan]
                    exact hexpected
                  · rw [not_not.mp hinit]
                    exact hstated

/-! ## Built plans -/

theorem buildDeploymentPlan_some {built : PlanSources} {plan : DeploymentPlan}
    (hbuilt : buildDeploymentPlan runtime keccak256 built = some plan) :
    ∃ arguments values, constructorValues runtime built.constructorArguments = some arguments ∧
      coreValues runtime keccak256 plan = some values ∧
      plan.planDigest = .string (keccak256 (encodeAbiParameters values)) ∧
      plan.sourceCommit = .string built.currentCommit ∧
      plan.sourceCommitDigest = .string (keccak256 (toHex built.currentCommit)) ∧
      plan.compilerDigest = .string (canonicalDigest keccak256 plan.compiler) ∧
      plan.constructorArguments = built.constructorArguments ∧
      plan.constructorDigest = .string (keccak256 (encodeAbiParameters arguments)) ∧
      plan.initCode = .string built.initCode ∧
      plan.initCodeHash = .string (keccak256 built.initCode) := by
  obtain ⟨arguments, harguments, hrest⟩ := Option.bind_eq_some_iff.mp hbuilt
  obtain ⟨encoded, hencoded, hplan⟩ := Option.bind_eq_some_iff.mp hrest
  obtain ⟨values, hvalues, rfl⟩ := Option.map_eq_some_iff.mp hencoded
  obtain rfl := Option.some.inj hplan
  exact ⟨arguments, values, harguments, hvalues, rfl, rfl, rfl, rfl, rfl, rfl, rfl, rfl⟩

/-- A built plan states the digests of what it displays. -/
theorem buildDeploymentPlan_consistent {built : PlanSources} {plan : DeploymentPlan}
    (hbuilt : buildDeploymentPlan runtime keccak256 built = some plan) :
    SelfConsistent runtime keccak256 plan := by
  obtain ⟨arguments, values, harguments, -, -, hcommit, hcommitDigest, hcompiler, hstated,
    hconstructor, -, -⟩ := buildDeploymentPlan_some hbuilt
  exact {
    sourceCommit := ⟨built.currentCommit, hcommit, by rw [hcommitDigest]⟩
    compiler := by rw [hcompiler]
    constructorArguments := ⟨arguments, by rw [hstated, harguments], by rw [hconstructor]⟩ }

/-- It is accepted, its code being whole bytes in lower case. -/
theorem buildDeploymentPlan_accepted (hdigest : IsDigest keccak256) {built : PlanSources}
    {plan : DeploymentPlan} (hbuilt : buildDeploymentPlan runtime keccak256 built = some plan)
    (hcode : bytesOf (.string built.initCode) = some built.initCode) :
    assertPlanDigest runtime keccak256 plan = .ok () := by
  obtain ⟨arguments, values, -, hvalues, hplan, -, -, -, -, -, hinitCode, hinitHash⟩ :=
    buildDeploymentPlan_some hbuilt
  have hbytes : ∀ text label, bytes32 (.string (keccak256 text)) label = .ok (keccak256 text) := by
    intro text label
    obtain ⟨hhex, hlower⟩ := hdigest text
    unfold bytes32
    dsimp only
    rw [if_pos hhex, hlower]
    rfl
  refine assertPlanDigest_ok.mpr ⟨values, built.initCode, hvalues, ?_, ?_, ?_⟩
  · rw [hplan, hbytes]
  · rw [hinitCode, hcode]
  · rw [hinitHash, hbytes]

/-! ## Two plans with one digest -/

section Binding

variable {plan other : DeploymentPlan}

/-- The texts that are hashed for two plans. -/
abbrev DeploymentPlan.hashedWith (runtime : Runtime) (keccak256 : String → String)
    (plan other : DeploymentPlan) : List String :=
  plan.hashed runtime keccak256 ++ other.hashed runtime keccak256

theorem identity_mem {values : List AbiValue} (hvalues : identityValues plan = some values) :
    encodeAbiParameters values ∈ plan.hashed runtime keccak256 := by
  simp [DeploymentPlan.hashed, hvalues]

theorem core_mem {values : List AbiValue}
    (hvalues : coreValues runtime keccak256 plan = some values) :
    encodeAbiParameters values ∈ plan.hashed runtime keccak256 := by
  simp [DeploymentPlan.hashed, encodePlanCore, hvalues]

theorem code_mem {initCode : String} (hcode : bytesOf plan.initCode = some initCode) :
    initCode ∈ plan.hashed runtime keccak256 := by
  simp [DeploymentPlan.hashed, hcode]

theorem commit_mem {text : String} (hcommit : plan.sourceCommit = .string text) :
    toHex text ∈ plan.hashed runtime keccak256 := by
  simp [DeploymentPlan.hashed, hcommit, commitText]

theorem compiler_mem : toHex plan.compiler.stableJson ∈ plan.hashed runtime keccak256 := by
  simp [DeploymentPlan.hashed]

theorem constructor_mem {values : List AbiValue}
    (hvalues : constructorValues runtime plan.constructorArguments = some values) :
    encodeAbiParameters values ∈ plan.hashed runtime keccak256 := by
  simp [DeploymentPlan.hashed, hvalues]

/-- Accepted plans with one digest have the same hashed values and the same code. -/
theorem sameHashed (hdigest : IsDigest keccak256)
    (hcollision : CollisionFree keccak256 (plan.hashedWith runtime keccak256 other))
    (hplan : assertPlanDigest runtime keccak256 plan = .ok ())
    (hother : assertPlanDigest runtime keccak256 other = .ok ())
    (hsame : bytes32 plan.planDigest "planDigest" = bytes32 other.planDigest "planDigest") :
    SameHashed runtime plan other := by
  obtain ⟨values, code, hvalues, hstated, hcode, hhash⟩ := assertPlanDigest_ok.mp hplan
  obtain ⟨values', code', hvalues', hstated', hcode', hhash'⟩ :=
    assertPlanDigest_ok.mp hother
  have hencoded := hcollision _ (List.mem_append_left _ (core_mem hvalues)) _
    (List.mem_append_right _ (core_mem hvalues'))
    (Except.ok.inj (hstated.symm.trans (hsame.trans hstated')))
  have hequal := coreValues_inj hvalues hvalues' hencoded
  obtain ⟨identity, digest, commit, sourceSet, compiler, creation, runtimeCode, initCode, arguments,
    usdc, deployer, owner, recipient, fee, manifest, hidentity, hdigestOf, hcommit, hset, hcompiler,
    hcreation, hruntime, hinit, harguments, husdc, hdeployer, howner, hrecipient, hfee, hmanifest,
    rfl⟩ := coreValues_some hvalues
  obtain ⟨identity', digest', commit', sourceSet', compiler', creation', runtimeCode', initCode',
    arguments', usdc', deployer', owner', recipient', fee', manifest', hidentity', hdigestOf',
    hcommit', hset', hcompiler', hcreation', hruntime', hinit', harguments', husdc', hdeployer',
    howner', hrecipient', hfee', hmanifest', rfl⟩ := coreValues_some hvalues'
  simp only [List.cons.injEq, AbiValue.bytes32.injEq, AbiValue.address.injEq,
    AbiValue.uint256.injEq, and_true] at hequal
  obtain ⟨rfl, rfl, rfl, rfl, rfl, rfl, rfl, rfl, rfl, rfl, rfl, rfl, rfl, rfl⟩ := hequal
  -- The identity is hashed on its own, and so is the code.
  have hidentities := identityValues_inj hidentity hidentity' (hcollision _
    (List.mem_append_left _ (identity_mem hidentity)) _
    (List.mem_append_right _ (identity_mem hidentity'))
    (digest_of_word hdigest (hdigestOf.trans hdigestOf'.symm)))
  obtain ⟨_, _, _, _, _, hschema, hmanifestVersion, hnetwork, hchain, hcontract, rfl⟩ :=
    identityValues_some hidentity
  obtain ⟨_, _, _, _, _, hschema', hmanifestVersion', hnetwork', hchain', hcontract', rfl⟩ :=
    identityValues_some hidentity'
  simp only [List.cons.injEq, AbiValue.uint256.injEq, AbiValue.string.injEq, and_true]
    at hidentities
  obtain ⟨rfl, rfl, rfl, rfl, rfl⟩ := hidentities
  have hcodes := digest_of_word hdigest (((wordOf_bytes32 hhash).symm.trans
    (hinit.trans hinit'.symm)).trans (wordOf_bytes32 hhash'))
  have hbytes := hcollision _ (List.mem_append_left _ (code_mem hcode)) _
    (List.mem_append_right _ (code_mem hcode')) hcodes
  exact {
    schemaVersion := hschema.trans hschema'.symm
    deploymentManifestSchemaVersion := hmanifestVersion.trans hmanifestVersion'.symm
    network := hnetwork.trans hnetwork'.symm
    chainId := hchain.trans hchain'.symm
    contract := hcontract.trans hcontract'.symm
    sourceCommitDigest := hcommit.trans hcommit'.symm
    sourceSetDigest := hset.trans hset'.symm
    compilerDigest := hcompiler.trans hcompiler'.symm
    creationBytecodeHash := hcreation.trans hcreation'.symm
    runtimeBytecodeHash := hruntime.trans hruntime'.symm
    initCodeHash := hinit.trans hinit'.symm
    constructorDigest := harguments.trans harguments'.symm
    canonicalUsdc := husdc.trans husdc'.symm
    deployer := hdeployer.trans hdeployer'.symm
    owner := howner.trans howner'.symm
    feeRecipient := hrecipient.trans hrecipient'.symm
    feeBps := hfee.trans hfee'.symm
    resourceManifestDigest := hmanifest.trans hmanifest'.symm
    initCode := by rw [hcode, hcode', hbytes] }

/-- So have plans that state the digests of what they display. -/
theorem sameDisplayed (hdigest : IsDigest keccak256)
    (hcollision : CollisionFree keccak256 (plan.hashedWith runtime keccak256 other))
    (hhashed : SameHashed runtime plan other) (hplan : SelfConsistent runtime keccak256 plan)
    (hother : SelfConsistent runtime keccak256 other) : SameDisplayed runtime plan other := by
  obtain ⟨⟨text, htext, hcommit⟩, hcompiler, ⟨arguments, harguments, hconstructor⟩⟩ := hplan
  obtain ⟨⟨text', htext', hcommit'⟩, hcompiler', ⟨arguments', harguments', hconstructor'⟩⟩ := hother
  have hcommits := hcollision _ (List.mem_append_left _ (commit_mem htext)) _
    (List.mem_append_right _ (commit_mem htext')) (digest_of_word hdigest
      (hcommit.symm.trans (hhashed.sourceCommitDigest.trans hcommit')))
  have hcompilers := hcollision _ (List.mem_append_left _ compiler_mem) _
    (List.mem_append_right _ compiler_mem) (digest_of_word hdigest
      (hcompiler.symm.trans (hhashed.compilerDigest.trans hcompiler')))
  have hconstructors := hcollision _ (List.mem_append_left _ (constructor_mem harguments)) _
    (List.mem_append_right _ (constructor_mem harguments')) (digest_of_word hdigest
      (hconstructor.symm.trans (hhashed.constructorDigest.trans hconstructor')))
  exact {
    sourceCommit := by rw [htext, htext', toHex_inj hcommits]
    compiler := toHex_inj hcompilers
    constructorArguments := by
      rw [harguments, harguments', constructorValues_inj harguments harguments' hconstructors] }

/-- The digest binds what is hashed and the code. It binds the commit, the compiler and
the constructor arguments of plans that state the digests of their own. -/
theorem planDigest_binds (hdigest : IsDigest keccak256)
    (hcollision : CollisionFree keccak256 (plan.hashedWith runtime keccak256 other))
    (hplan : assertPlanDigest runtime keccak256 plan = .ok ())
    (hother : assertPlanDigest runtime keccak256 other = .ok ())
    (hsame : bytes32 plan.planDigest "planDigest" = bytes32 other.planDigest "planDigest") :
    SameHashed runtime plan other ∧ (SelfConsistent runtime keccak256 plan →
      SelfConsistent runtime keccak256 other → SameDisplayed runtime plan other) := by
  have hhashed := sameHashed hdigest hcollision hplan hother hsame
  exact ⟨hhashed, sameDisplayed hdigest hcollision hhashed⟩

end Binding

/-! ## Another commit under one digest -/

def exampleArguments : Json := .object [
  ("canonicalUsdc", .string "0x3600000000000000000000000000000000000000"),
  ("initialOwner", .string "0x1111111111111111111111111111111111111111"),
  ("feeRecipient", .string "0x2222222222222222222222222222222222222222"),
  ("feeBps", .string "10")]

def exampleArgumentValues : List AbiValue := [.address 0x3600000000000000000000000000000000000000,
  .address 0x1111111111111111111111111111111111111111,
  .address 0x2222222222222222222222222222222222222222, .uint256 10]

/-- The digits of an encoding. -/
def encodedDigits (values : List AbiValue) : List Char :=
  abiHeads (32 * values.length) values ++ values.flatMap AbiValue.tail

theorem encodeAbiParameters_eq (values : List AbiValue) :
    encodeAbiParameters values = String.ofList ('0' :: 'x' :: encodedDigits values) := rfl

/-- Two bytes of code, and the arguments of the constructor behind them. -/
def exampleCodeDigits : List Char :=
  '6' :: '0' :: '0' :: '1' :: encodedDigits exampleArgumentValues

def examplePlan : DeploymentPlan where
  schemaVersion := .number "3"
  deploymentManifestSchemaVersion := .number "2"
  network := .string "arc-mainnet"
  chainId := .number "5042"
  contract := .string "WizPayMainnetV2"
  sourceCommit := .string "0123456789abcdef0123456789abcdef01234567"
  sourceCommitDigest := .string
    "0xe615a0110b665eda35f8f9422f43ba54b0c3694ceb1128ca2da6be42ac64c8a5"
  sourceSetDigest := .string "0xbceb487b0e208c0c3a110b9829dd99bb427ffd095b5f72fe1ffb3ac27c5723bd"
  compiler := .object [("version", .string "0.8.24+commit.e11b9ed9")]
  compilerDigest := .string "0x5784263bbc14b7f1233543b5a06de6c9327227ab63770830f762e703bde7f24d"
  canonicalUsdc := .string "0x3600000000000000000000000000000000000000"
  deployer := .string "0x3333333333333333333333333333333333333333"
  owner := .string "0x1111111111111111111111111111111111111111"
  feeRecipient := .string "0x2222222222222222222222222222222222222222"
  feeBps := .string "10"
  constructorArguments := exampleArguments
  constructorDigest := .string "0x054dca39e3a4e03ceeffce7665fbd64bcf7d03e8403904325762a59a8355cf4d"
  creationBytecodeHash := .string
    "0x309c67890bde4c575dc23d2cc3b5c3a3d599e312e980e9b61b5bc8f3cd87c8bb"
  runtimeBytecodeHash := .string
    "0xcde7aac41575d8b30bd84f598371d46d266fadb09c9dcfcdd047fd087ef8763e"
  initCodeHash := .string "0xff88c5124e6400ab93e6f165e5211362276aac018fede0315fdc9132af398c30"
  initCode := .string (String.ofList ('0' :: 'x' :: exampleCodeDigits))
  resourceManifestDigest := .string
    "0x0296f2e4895edc26581f32bfba22a8f6b6c87def537df64a9c348bd025add82e"
  planDigest := .string "0x7a5a506db87f7f1a10ad66cbe364f1fc222dc3a0f2d9e9d677184137544ad62d"

/-- The plan with the commit of another source, whose digest it does not state. -/
def otherCommitPlan : DeploymentPlan :=
  { examplePlan with sourceCommit := .string "ffffffffffffffffffffffffffffffffffffffff" }

def exampleIdentity : List AbiValue := [.uint256 3, .uint256 2, .string "arc-mainnet",
  .uint256 5042, .string "WizPayMainnetV2"]

def exampleCore : List AbiValue := [
  .bytes32 0x03a7c1db0a974a23091152e3e0b88939c47f046f7942fdbc3f1b2770ffc3f636,
  .bytes32 0xe615a0110b665eda35f8f9422f43ba54b0c3694ceb1128ca2da6be42ac64c8a5,
  .bytes32 0xbceb487b0e208c0c3a110b9829dd99bb427ffd095b5f72fe1ffb3ac27c5723bd,
  .bytes32 0x5784263bbc14b7f1233543b5a06de6c9327227ab63770830f762e703bde7f24d,
  .bytes32 0x309c67890bde4c575dc23d2cc3b5c3a3d599e312e980e9b61b5bc8f3cd87c8bb,
  .bytes32 0xcde7aac41575d8b30bd84f598371d46d266fadb09c9dcfcdd047fd087ef8763e,
  .bytes32 0xff88c5124e6400ab93e6f165e5211362276aac018fede0315fdc9132af398c30,
  .bytes32 0x054dca39e3a4e03ceeffce7665fbd64bcf7d03e8403904325762a59a8355cf4d,
  .address 0x3600000000000000000000000000000000000000,
  .address 0x3333333333333333333333333333333333333333,
  .address 0x1111111111111111111111111111111111111111,
  .address 0x2222222222222222222222222222222222222222, .uint256 10,
  .bytes32 0x0296f2e4895edc26581f32bfba22a8f6b6c87def537df64a9c348bd025add82e]

/-- Hex digits of bytes, and the digest of the bytes. -/
def exampleDigests : List (List Char × String) := [
  (encodedDigits exampleCore,
    "0x7a5a506db87f7f1a10ad66cbe364f1fc222dc3a0f2d9e9d677184137544ad62d"),
  (encodedDigits exampleIdentity,
    "0x03a7c1db0a974a23091152e3e0b88939c47f046f7942fdbc3f1b2770ffc3f636"),
  (utf8Digits "0123456789abcdef0123456789abcdef01234567",
    "0xe615a0110b665eda35f8f9422f43ba54b0c3694ceb1128ca2da6be42ac64c8a5"),
  (utf8Digits "ffffffffffffffffffffffffffffffffffffffff",
    "0x986d4d76cb313ef48b1f99cb66dcc333793fe92c143ddb8510b1681960abe834"),
  (utf8Digits examplePlan.compiler.stableJson,
    "0x5784263bbc14b7f1233543b5a06de6c9327227ab63770830f762e703bde7f24d"),
  (encodedDigits exampleArgumentValues,
    "0x054dca39e3a4e03ceeffce7665fbd64bcf7d03e8403904325762a59a8355cf4d"),
  (exampleCodeDigits, "0xff88c5124e6400ab93e6f165e5211362276aac018fede0315fdc9132af398c30")]

/-- The digests of a table, and zeros for every other text. -/
def digestOf (table : List (List Char × String)) (text : String) : String :=
  ((table.find? fun entry => String.ofList ('0' :: 'x' :: entry.1) = text).map Prod.snd).getD
    "0x0000000000000000000000000000000000000000000000000000000000000000"

section Table

variable {table : List (List Char × String)}

theorem digestOf_isDigest
    (htable : ∀ entry ∈ table, isHexText 64 entry.2 = true ∧ asciiLower entry.2 = entry.2) :
    IsDigest (digestOf table) := by
  intro text
  unfold digestOf
  cases hfound : table.find? fun entry => String.ofList ('0' :: 'x' :: entry.1) = text with
  | none => exact ⟨by decide, rfl⟩
  | some entry => exact htable entry (List.mem_of_find?_eq_some hfound)

/-- A text of the table has the digest of its entry. -/
theorem digestOf_mem (hkeys : table.Pairwise fun first second => first.1 ≠ second.1)
    {entry : List Char × String} (hentry : entry ∈ table) :
    digestOf table (String.ofList ('0' :: 'x' :: entry.1)) = entry.2 := by
  have hfind : table.find? (fun other =>
      String.ofList ('0' :: 'x' :: other.1) = String.ofList ('0' :: 'x' :: entry.1)) = some entry := by
    induction table with
    | nil => cases hentry
    | cons other rest ih =>
        obtain ⟨hother, hrest⟩ := List.pairwise_cons.mp hkeys
        by_cases hsame : other.1 = entry.1
        · rcases List.mem_cons.mp hentry with rfl | hmember
          · simp
          · exact absurd hsame (hother entry hmember)
        · have hdiffer : ¬ String.ofList ('0' :: 'x' :: other.1) =
              String.ofList ('0' :: 'x' :: entry.1) := fun htexts =>
            hsame (List.cons.inj (List.cons.inj (String.ofList_inj.mp htexts)).2).2
          rcases List.mem_cons.mp hentry with rfl | hmember
          · exact absurd rfl hsame
          · rw [List.find?_cons_of_neg (by simpa using hdiffer)]
            exact ih hrest hmember
  rw [digestOf, hfind, Option.map_some, Option.getD_some]

/-- Texts of a table without repeated digests do not collide. -/
theorem digestOf_collisionFree (hkeys : table.Pairwise fun first second => first.1 ≠ second.1)
    (hdigests : table.Pairwise fun first second => first.2 ≠ second.2) {texts : List String}
    (htexts : ∀ text ∈ texts, ∃ digits ∈ table.map Prod.fst,
      text = String.ofList ('0' :: 'x' :: digits)) : CollisionFree (digestOf table) texts := by
  intro first hfirst second hsecond hsame
  obtain ⟨_, hdigits, rfl⟩ := htexts first hfirst
  obtain ⟨entry, hentry, rfl⟩ := List.mem_map.mp hdigits
  obtain ⟨_, hdigits, rfl⟩ := htexts second hsecond
  obtain ⟨other, hother, rfl⟩ := List.mem_map.mp hdigits
  rw [digestOf_mem hkeys hentry, digestOf_mem hkeys hother] at hsame
  by_contra hne
  have : Std.Symm fun first second : List Char × String => first.2 ≠ second.2 := ⟨fun _ _ => Ne.symm⟩
  exact List.Pairwise.forall hdigests hentry hother (fun heq => hne (by rw [heq])) hsame

end Table

/-- The table states one digest for each text, each digest once, and each in lower case. -/
theorem exampleDigests_table :
    (exampleDigests.Pairwise fun first second => first.1 ≠ second.1) ∧
      (exampleDigests.Pairwise fun first second => first.2 ≠ second.2) ∧
      ∀ entry ∈ exampleDigests, isHexText 64 entry.2 = true ∧ asciiLower entry.2 = entry.2 := by
  decide +kernel

theorem exampleDigests_keys : exampleDigests.Pairwise fun first second => first.1 ≠ second.1 :=
  exampleDigests_table.1

theorem exampleDigests_isDigest : IsDigest (digestOf exampleDigests) :=
  digestOf_isDigest exampleDigests_table.2.2

/-- What is encoded for the example plan, its code apart from its core. -/
theorem examplePlan_values : identityValues examplePlan = some exampleIdentity ∧
    constructorValues (.ofTable [] []) examplePlan.constructorArguments =
      some exampleArgumentValues ∧
    exampleCodeDigits.all isHexDigit = true ∧
    exampleCodeDigits.map Char.toLower = exampleCodeDigits ∧ exampleCodeDigits.length % 2 = 0 := by
  decide +kernel

/-- The digests that the example plan states of itself and of its code. -/
theorem examplePlan_digests : bytes32 examplePlan.planDigest "planDigest" =
      .ok "0x7a5a506db87f7f1a10ad66cbe364f1fc222dc3a0f2d9e9d677184137544ad62d" ∧
    bytes32 examplePlan.initCodeHash "initCodeHash" =
      .ok "0xff88c5124e6400ab93e6f165e5211362276aac018fede0315fdc9132af398c30" := by
  decide +kernel

theorem exampleCore_values :
    coreValues (.ofTable [] []) (digestOf exampleDigests) examplePlan = some exampleCore := by
  have hmember : (encodedDigits exampleIdentity,
      "0x03a7c1db0a974a23091152e3e0b88939c47f046f7942fdbc3f1b2770ffc3f636") ∈ exampleDigests :=
    List.mem_cons_of_mem _ List.mem_cons_self
  have hidentity := digestOf_mem exampleDigests_keys hmember
  refine Option.bind_eq_some_iff.mpr ⟨exampleIdentity, examplePlan_values.1, ?_⟩
  rw [encodeAbiParameters_eq, hidentity]
  decide +kernel

theorem bytesOf_digits {digits : List Char} (hdigits : digits.all isHexDigit = true)
    (hlower : digits.map Char.toLower = digits) (heven : digits.length % 2 = 0) :
    bytesOf (.string (String.ofList ('0' :: 'x' :: digits))) =
      some (String.ofList ('0' :: 'x' :: digits)) := by
  unfold bytesOf
  simp only [String.toList_ofList]
  rw [if_pos hdigits, if_pos heven, hlower]

theorem exampleCode_bytes : bytesOf examplePlan.initCode =
    some (String.ofList ('0' :: 'x' :: exampleCodeDigits)) := by
  obtain ⟨-, -, hdigits, hlower, heven⟩ := examplePlan_values
  exact bytesOf_digits hdigits hlower heven

/-- A plan that differs in what is displayed only is accepted, too. -/
theorem examplePlan_accepted {plan : DeploymentPlan}
    (hvalues : coreValues (.ofTable [] []) (digestOf exampleDigests) plan = some exampleCore)
    (hplan : plan.planDigest = examplePlan.planDigest)
    (hcode : plan.initCode = examplePlan.initCode)
    (hhash : plan.initCodeHash = examplePlan.initCodeHash) :
    assertPlanDigest (.ofTable [] []) (digestOf exampleDigests) plan = .ok () := by
  have hdigest := @digestOf_mem exampleDigests exampleDigests_keys _ List.mem_cons_self
  have hcodeMember : (exampleCodeDigits,
      "0xff88c5124e6400ab93e6f165e5211362276aac018fede0315fdc9132af398c30") ∈ exampleDigests := by
    simp [exampleDigests]
  have hcodeDigest := digestOf_mem exampleDigests_keys hcodeMember
  obtain ⟨hplanText, hhashText⟩ := examplePlan_digests
  refine assertPlanDigest_ok.mpr ⟨exampleCore, _, hvalues, ?_,
    (congrArg bytesOf hcode).trans exampleCode_bytes, ?_⟩
  · rw [hplan, hplanText, encodeAbiParameters_eq, hdigest]
  · rw [hhash, hhashText, hcodeDigest]

theorem exampleDigests_texts : exampleDigests.map Prod.fst = [encodedDigits exampleCore,
    encodedDigits exampleIdentity, utf8Digits "0123456789abcdef0123456789abcdef01234567",
    utf8Digits "ffffffffffffffffffffffffffffffffffffffff",
    utf8Digits examplePlan.compiler.stableJson, encodedDigits exampleArgumentValues,
    exampleCodeDigits] := rfl

/-- Whatever is hashed for the plan is in the table, if its commit is. -/
theorem examplePlan_hashed {commit : String}
    (hcommit : utf8Digits commit ∈ exampleDigests.map Prod.fst) {text : String}
    (htext : text ∈ DeploymentPlan.hashed (.ofTable [] []) (digestOf exampleDigests)
      { examplePlan with sourceCommit := .string commit }) :
    ∃ digits ∈ exampleDigests.map Prod.fst, text = String.ofList ('0' :: 'x' :: digits) := by
  obtain ⟨hidentityValues, harguments, -⟩ := examplePlan_values
  have hidentity : identityValues { examplePlan with sourceCommit := .string commit } =
      some exampleIdentity := hidentityValues
  have hcore : encodePlanCore (.ofTable [] []) (digestOf exampleDigests)
      { examplePlan with sourceCommit := .string commit } =
        some (encodeAbiParameters exampleCore) :=
    Option.map_eq_some_iff.mpr ⟨exampleCore, exampleCore_values, rfl⟩
  unfold DeploymentPlan.hashed at htext
  rw [hidentity, hcore, exampleCode_bytes, harguments] at htext
  simp only [Option.map_some, Option.toList_some, commitText, List.mem_append, List.mem_singleton,
    encodeAbiParameters_eq] at htext
  rcases htext with (((((rfl | rfl) | rfl) | rfl) | rfl) | rfl)
  · exact ⟨encodedDigits exampleIdentity, by simp [exampleDigests_texts], rfl⟩
  · exact ⟨encodedDigits exampleCore, by simp [exampleDigests_texts], rfl⟩
  · exact ⟨exampleCodeDigits, by simp [exampleDigests_texts], rfl⟩
  · exact ⟨utf8Digits commit, hcommit, rfl⟩
  · exact ⟨utf8Digits examplePlan.compiler.stableJson, by simp [exampleDigests_texts], rfl⟩
  · exact ⟨encodedDigits exampleArgumentValues, by simp [exampleDigests_texts], rfl⟩

theorem example_collisionFree : CollisionFree (digestOf exampleDigests)
    (examplePlan.hashedWith (.ofTable [] []) (digestOf exampleDigests) otherCommitPlan) := by
  refine digestOf_collisionFree exampleDigests_keys exampleDigests_table.2.1 fun text htext => ?_
  rcases List.mem_append.mp htext with htext | htext
  · exact @examplePlan_hashed "0123456789abcdef0123456789abcdef01234567"
      (by simp [exampleDigests_texts]) text htext
  · exact examplePlan_hashed (by simp [exampleDigests_texts]) htext

/-- The example plan, and the plan with another commit. -/
theorem planDigest_binds_example :
    SameHashed (.ofTable [] []) examplePlan otherCommitPlan ∧
      (SelfConsistent (.ofTable [] []) (digestOf exampleDigests) examplePlan →
        SelfConsistent (.ofTable [] []) (digestOf exampleDigests) otherCommitPlan →
          SameDisplayed (.ofTable [] []) examplePlan otherCommitPlan) :=
  planDigest_binds exampleDigests_isDigest example_collisionFree
    (examplePlan_accepted exampleCore_values rfl rfl rfl)
    (examplePlan_accepted exampleCore_values rfl rfl rfl) rfl

/-- The commit of an accepted plan is replaced, and the plan accepted with the same
digest, though no two digests collide. -/
theorem other_commit_same_digest :
    IsDigest (digestOf exampleDigests) ∧
      CollisionFree (digestOf exampleDigests)
        (examplePlan.hashedWith (.ofTable [] []) (digestOf exampleDigests) otherCommitPlan) ∧
      assertPlanDigest (.ofTable [] []) (digestOf exampleDigests) examplePlan = .ok () ∧
      assertPlanDigest (.ofTable [] []) (digestOf exampleDigests) otherCommitPlan = .ok () ∧
      examplePlan.planDigest = otherCommitPlan.planDigest ∧
      examplePlan.sourceCommit ≠ otherCommitPlan.sourceCommit := by
  have hdiffer : "0123456789abcdef0123456789abcdef01234567" ≠
      "ffffffffffffffffffffffffffffffffffffffff" := by decide
  exact ⟨exampleDigests_isDigest, example_collisionFree,
    examplePlan_accepted exampleCore_values rfl rfl rfl,
    examplePlan_accepted exampleCore_values rfl rfl rfl, rfl,
    fun hsame => hdiffer (Json.string.inj hsame)⟩

end WizPay.Deployment
