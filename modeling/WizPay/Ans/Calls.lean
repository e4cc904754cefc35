import WizPay.Ans.Controller
import WizPay.Foundation.Sequence

/-!
# Calls of the name service

A frame is a call of one contract by one account, up to the point where it returns or hands
control to code outside. Every contract but the controllers does all it does in one frame;
a controller sends frames of its own, with outside code running in between. A history is a
sequence of frames, in the order in which they take effect.
-/

namespace WizPay.Ans

open Foundation Evm

variable {Node Label : Type}

/-! ## Frames -/

inductive RegistryCall (Node Label : Type) where
  | setRecord (node : Node) (owner resolver : Address) (ttl : ℕ)
  | setSubnodeRecord (node : Node) (label : Label) (owner resolver : Address) (ttl : ℕ)
  | setSubnodeOwner (node : Node) (label : Label) (owner : Address)
  | setResolver (node : Node) (resolver : Address)
  | setOwner (node : Node) (owner : Address)
  | setTTL (node : Node) (ttl : ℕ)
  | setApprovalForAll (operator : Address) (approved : Bool)
deriving DecidableEq

inductive ResolverCall (Node : Type) where
  | clearRecords (node : Node)
  | setAddr (node : Node) (resolvedAddress : Address)
  | setText (node : Node) (key value : String)
deriving DecidableEq

/-- Calls of a registrar. A safe transfer asks its receiver when it is done; what that code
does are frames of their own. -/
inductive RegistrarCall (Label : Type) where
  | approve (approved : Address) (id : Label)
  | setApprovalForAll (operator : Address) (approved : Bool)
  | transferFrom (source target : Address) (id : Label)
  | safeTransferFrom (source target : Address) (id : Label) (accepted : Bool)
  | setController (controller : Address) (enabled : Bool)
  | setResolver (resolver : Address)
  | transferOwnership (newOwner : Address)
  | renounceOwnership
  | register (id : Label) (owner : Address) (duration : ℕ)
  | renew (id : Label) (duration : ℕ)
  | reclaim (id : Label) (owner : Address)
deriving DecidableEq

inductive RootCall where
  | bootstrapArcNamespace (created : Created) (namespaceOwner : Address)
      (pricing : PricingConfig) (promo : PromoConfig)
  | registerNamespace (created : Created) (label : List UInt8) (namespaceOwner : Address)
      (pricing : PricingConfig) (promo : PromoConfig)
  | setNamespacePricing (label : List UInt8) (pricing : PricingConfig)
  | setNamespacePromo (label : List UInt8) (promo : PromoConfig)
  | setNamespaceActive (label : List UInt8) (active : Bool)
  | setNamespaceWhitelist (label : List UInt8) (whitelisted : Bool)
  | setNamespaceBlacklist (label : List UInt8) (blacklisted : Bool)
  | setNamespaceVault (label : List UInt8) (newVault : Address)
  | setPlatformVault (newPlatformVault : Address)
  | setDefaultResolver (newDefaultResolver : Address)
  | transferOwnership (newOwner : Address)
  | renounceOwnership
deriving DecidableEq

inductive VaultCall where
  | withdraw (token target : Address) (amount : ℕ)
  | transferOwnership (newOwner : Address)
  | renounceOwnership
deriving DecidableEq

inductive TokenCall where
  | transfer (target : Address) (amount : ℕ)
  | approve (spender : Address) (amount : ℕ)
  | transferFrom (source target : Address) (amount : ℕ)
deriving DecidableEq

inductive Message (Node Label : Type) where
  | registry (call : RegistryCall Node Label)
  | resolver (call : ResolverCall Node)
  | registrar (self : Address) (call : RegistrarCall Label)
  | root (call : RootCall)
  | vault (self : Address) (call : VaultCall)
  | token (asset : Address) (call : TokenCall)
  /-- The reentrancy status of a controller, which only its own code writes. -/
  | entered (status : Bool)
deriving DecidableEq

/-- A message with its `msg.sender` and the time of its block. -/
structure Frame (Node Label : Type) where
  sender : Address
  timestamp : ℕ
  message : Message Node Label
deriving DecidableEq

/-- Whose code sends messages: outside accounts and the controllers. -/
def World.sends (d : Deployment Node Label) (world : World Node Label) (account : Address) :
    Bool :=
  account != 0 && (d.external account || (world.controllers account).isSome)

section Perform

variable [DecidableEq Node] [DecidableEq Label] (d : Deployment Node Label) (sender : Address)
  (now : ℕ)

def RegistryCall.perform : RegistryCall Node Label → AnsCall Node Label PUnit
  | .setRecord node owner resolver ttl => Registry.setRecord sender node owner resolver ttl
  | .setSubnodeRecord node label owner resolver ttl =>
      Registry.setSubnodeRecord d sender node label owner resolver ttl
  | .setSubnodeOwner node label owner => Registry.setSubnodeOwner d sender node label owner
  | .setResolver node resolver => Registry.setResolver sender node resolver
  | .setOwner node owner => Registry.setOwner sender node owner
  | .setTTL node ttl => Registry.setTTL sender node ttl
  | .setApprovalForAll operator approved => Registry.setApprovalForAll sender operator approved

omit [DecidableEq Label] in
def ResolverCall.perform : ResolverCall Node → AnsCall Node Label PUnit
  | .clearRecords node => Resolver.clearRecords sender node
  | .setAddr node resolvedAddress => Resolver.setAddr sender node resolvedAddress
  | .setText node key value => Resolver.setText sender node key value

def RegistrarCall.perform (self : Address) : RegistrarCall Label → AnsCall Node Label PUnit
  | .approve approved id => Registrar.approve self sender approved id
  | .setApprovalForAll operator approved =>
      Registrar.setApprovalForAll self sender operator approved
  | .transferFrom source target id => Registrar.transferFrom d self sender now source target id
  | .safeTransferFrom source target id accepted => do
      Registrar.transferFrom d self sender now source target id
      Call.revertIf (accepted = false) (.custom (.erc721InvalidReceiver target))
  | .setController controller enabled => Registrar.setController self sender controller enabled
  | .setResolver resolver => Registrar.setResolver self sender resolver
  | .transferOwnership newOwner => Registrar.transferOwnership self sender newOwner
  | .renounceOwnership => Registrar.renounceOwnership self sender
  | .register id owner duration => do
      let _ ← Registrar.register d self sender now id owner duration
  | .renew id duration => do
      let _ ← Registrar.renew self sender now id duration
  | .reclaim id owner => Registrar.reclaim d self sender now id owner

def RootCall.perform : RootCall → AnsCall Node Label PUnit
  | .bootstrapArcNamespace created namespaceOwner pricing promo =>
      Root.bootstrapArcNamespace d sender created namespaceOwner pricing promo
  | .registerNamespace created label namespaceOwner pricing promo =>
      Root.registerNamespace d sender created label namespaceOwner pricing promo
  | .setNamespacePricing label pricing => Root.setNamespacePricing d sender label pricing
  | .setNamespacePromo label promo => Root.setNamespacePromo d sender label promo
  | .setNamespaceActive label active => Root.setNamespaceActive d sender label active
  | .setNamespaceWhitelist label whitelisted =>
      Root.setNamespaceWhitelist d sender label whitelisted
  | .setNamespaceBlacklist label blacklisted =>
      Root.setNamespaceBlacklist d sender label blacklisted
  | .setNamespaceVault label newVault => Root.setNamespaceVault d sender label newVault
  | .setPlatformVault newPlatformVault => Root.setPlatformVault d sender newPlatformVault
  | .setDefaultResolver newDefaultResolver => Root.setDefaultResolver sender newDefaultResolver
  | .transferOwnership newOwner => Root.transferOwnership sender newOwner
  | .renounceOwnership => Root.renounceOwnership sender

omit [DecidableEq Node] [DecidableEq Label] in
def VaultCall.perform (self : Address) : VaultCall → AnsCall Node Label PUnit
  | .withdraw token target amount => Vault.withdraw self sender token target amount
  | .transferOwnership newOwner => Vault.transferOwnership self sender newOwner
  | .renounceOwnership => Vault.renounceOwnership self sender

/-- Calls of a standard token. -/
def TokenCall.effect (token : Address) : TokenCall → Ledgers → Option Ledgers
  | .transfer target amount => Ledgers.moveToken token sender target amount
  | .approve spender amount => fun ledgers => some (ledgers.setAllowance token sender spender amount)
  | .transferFrom source target amount => Ledgers.transferFrom token sender source target amount

def Message.perform : Message Node Label → AnsCall Node Label PUnit
  | .registry call => call.perform d sender
  | .resolver call => call.perform sender
  | .registrar self call => call.perform d sender now self
  | .root call => call.perform d sender
  | .vault self call => call.perform sender self
  | .token asset call => Call.external (onLedgers (call.effect sender asset)) .externalCall
  | .entered status => Controller.setEntered sender status

/-- A frame takes effect or reverts; an account without code that sends sends nothing. -/
def Frame.perform (frame : Frame Node Label) : AnsCall Node Label PUnit := do
  let world ← get
  Call.revertIf (world.sends d frame.sender = false) .externalCall
  frame.message.perform d frame.sender frame.timestamp

/-- The name service after a frame. -/
def step (world : World Node Label) (frame : Frame Node Label) : World Node Label :=
  (frame.perform d).commit world

end Perform

end WizPay.Ans
