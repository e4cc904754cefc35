import WizPay.Backend.Address
import WizPay.Backend.Json
import WizPay.Backend.Service

/-!
# Payment routing and capabilities

Which token pairs the selected network can move for an operation, and whether
the operation is switched on.
-/

namespace WizPay.Backend

inductive ArcTokenSymbol where
  | USDC | EURC
deriving DecidableEq, Repr

inductive ArcCapabilityName where
  | send | sameTokenPayroll | invoice | paymentLink | liquidity | bridge | swap | crossTokenPayroll
  | crossTokenInvoice | nanoAgentApi
deriving DecidableEq, Repr

inductive PaymentOperation where
  | SEND | PAYROLL | INVOICE | PAYMENT_LINK
deriving DecidableEq, Repr

inductive PaymentRouteKind where
  | DIRECT_TRANSFER | CROSS_TOKEN_ATOMIC | CROSS_TOKEN_DISABLED
deriving DecidableEq, Repr

/-- The configured routing: addresses are checksummed, USDC is always there. -/
structure PaymentRouting where
  network : String
  chainId : ℕ
  capabilities : ArcCapabilityName → Bool
  usdc : String
  eurc : Option String

/-- Arc mainnet with every capability switched on. -/
def arcMainnet : PaymentRouting where
  network := "arc-mainnet"
  chainId := 5042
  capabilities := fun _ => true
  usdc := "0x3600000000000000000000000000000000000000"
  eurc := some "0xbEf5f6d51CB62b58e6A8f77868681825C6fe21c1"

structure PaymentRouteDecision where
  kind : PaymentRouteKind
  operation : PaymentOperation
  tokenIn : String
  tokenInSymbol : ArcTokenSymbol
  tokenOut : String
  tokenOutSymbol : ArcTokenSymbol
  provider : Option String
deriving DecidableEq

variable (runtime : Runtime) (routing : PaymentRouting)

/-- A configured or requested address: trimmed, well formed and not zero. -/
def parseAddress (value : Json) : Option String :=
  match value with
  | .string text =>
      if text = trim text then
        (getAddress runtime text).bind fun address =>
          if asciiLower address = zeroAddress then none else some address
      else none
  | _ => none

def identifyToken (value : Json) : Except ServiceError (String × ArcTokenSymbol) :=
  match parseAddress runtime value with
  | none =>
      throw (.badRequest "PAYMENT_ROUTING_INVALID_TOKEN"
        "Payment token address is missing or malformed.")
  | some address =>
      if asciiLower address = asciiLower routing.usdc then return (routing.usdc, .USDC)
      else match routing.eurc with
        | some eurc =>
            if asciiLower address = asciiLower eurc then return (eurc, .EURC)
            else throw unsupported
        | none => throw unsupported
where
  unsupported : ServiceError :=
    .badRequest "PAYMENT_ROUTING_UNSUPPORTED_TOKEN"
      "Payment token is not supported on the selected Arc network."

def crossTokenCapability : PaymentOperation → ArcCapabilityName
  | .PAYROLL => .crossTokenPayroll
  | .SEND => .swap
  | _ => .crossTokenInvoice

/-- The requested network is the selected one. -/
def assertNetwork (network : Json) : Except ServiceError Unit :=
  match network with
  | .string name => if name = routing.network then return () else throw invalidContext
  | _ => throw invalidContext
where
  invalidContext : ServiceError :=
    .badRequest "PAYMENT_ROUTING_INVALID_CONTEXT"
      "Payment routing network does not match the selected Arc network."

def decide (network : Json) (operation : PaymentOperation) (tokenIn tokenOut : Json) :
    Except ServiceError PaymentRouteDecision := do
  assertNetwork routing network
  let (tokenIn, tokenInSymbol) ← identifyToken runtime routing tokenIn
  let (tokenOut, tokenOutSymbol) ← identifyToken runtime routing tokenOut
  if asciiLower tokenIn = asciiLower tokenOut then
    return {
      kind := .DIRECT_TRANSFER, operation, tokenIn, tokenInSymbol, tokenOut, tokenOutSymbol
      provider := none }
  else if routing.network = "arc-mainnet" ∧
      routing.capabilities (crossTokenCapability operation) = true then
    return {
      kind := .CROSS_TOKEN_ATOMIC, operation, tokenIn, tokenInSymbol, tokenOut, tokenOutSymbol
      provider := some "UNISWAP_V4" }
  else
    return {
      kind := .CROSS_TOKEN_DISABLED, operation, tokenIn, tokenInSymbol, tokenOut, tokenOutSymbol
      provider := none }

def assertExecutable (decision : PaymentRouteDecision) :
    Except ServiceError PaymentRouteDecision := do
  if decision.kind = .CROSS_TOKEN_DISABLED then
    throw (.unprocessable "CROSS_TOKEN_DISABLED"
      "Cross-token payments are unavailable on the selected Arc network.")
  return decision

/-! The tokens of a decision are the requested ones, up to letter case. -/

section

variable {runtime : Runtime} {routing : PaymentRouting}

theorem parseAddress_spec {text address : String} (hparse : parseAddress runtime (.string text) = some address) :
    isHexText 40 text = true ∧ asciiLower address = asciiLower text := by
  simp only [parseAddress] at hparse
  split at hparse
  · simp only [Option.bind_eq_some_iff] at hparse
    obtain ⟨found, hfound, hparse⟩ := hparse
    split at hparse
    · cases hparse
    · cases hparse
      exact ⟨(getAddress_eq_some.mp hfound).1, (getAddress_spec hfound).2⟩
  · cases hparse

theorem identifyToken_spec {text token : String} {symbol : ArcTokenSymbol}
    (htoken : identifyToken runtime routing (.string text) = .ok (token, symbol)) :
    isHexText 40 text = true ∧ asciiLower token = asciiLower text := by
  unfold identifyToken at htoken
  split at htoken
  · cases htoken
  · next address hparse =>
      obtain ⟨htext, hlower⟩ := parseAddress_spec hparse
      refine ⟨htext, ?_⟩
      rw [← hlower]
      split at htoken
      · next hsame => cases htoken; exact hsame.symm
      · split at htoken
        · split at htoken
          · next hsame => cases htoken; exact hsame.symm
          · cases htoken
        · cases htoken

theorem decide_spec {network : Json} {operation : PaymentOperation} {tokenIn tokenOut : String}
    {decision : PaymentRouteDecision}
    (hdecide : decide runtime routing network operation (.string tokenIn) (.string tokenOut) = .ok decision) :
    (isHexText 40 tokenIn = true ∧ asciiLower decision.tokenIn = asciiLower tokenIn) ∧
      isHexText 40 tokenOut = true ∧ asciiLower decision.tokenOut = asciiLower tokenOut := by
  unfold decide at hdecide
  simp only [except_bind_ok] at hdecide
  obtain ⟨_, -, ⟨tokenIn, _⟩, hin, ⟨tokenOut, _⟩, hout, hdecide⟩ := hdecide
  split at hdecide
  · cases hdecide
    exact ⟨identifyToken_spec hin, identifyToken_spec hout⟩
  · split at hdecide
    · cases hdecide
      exact ⟨identifyToken_spec hin, identifyToken_spec hout⟩
    · cases hdecide
      exact ⟨identifyToken_spec hin, identifyToken_spec hout⟩

end

/-! ## Capabilities -/

/-- `CapabilityService.assert`. -/
def assertCapability (capability : ArcCapabilityName) : Except ServiceError Unit := do
  if routing.capabilities capability = false then
    throw (.unavailable "CAPABILITY_DISABLED"
      "This feature is unavailable on the selected Arc network.")

def directCapability : PaymentOperation → ArcCapabilityName
  | .SEND => .send
  | .PAYROLL => .sameTokenPayroll
  | .INVOICE => .invoice
  | .PAYMENT_LINK => .paymentLink

def assertPaymentDecision (decision : PaymentRouteDecision) : Except ServiceError Unit := do
  let decision ← assertExecutable decision
  if decision.kind = .DIRECT_TRANSFER then
    assertCapability routing (directCapability decision.operation)

/-- A value JavaScript treats as true. -/
def truthy : Json → Bool
  | .null => false
  | .bool value => value
  | .number text => text ≠ "0" && text ≠ "-0" && text ≠ "NaN"
  | .string text => text ≠ ""
  | .array _ => true
  | .object _ => true

def payrollContextRequired : ServiceError :=
  .badRequest "CAPABILITY_CONTEXT_REQUIRED" "Explicit token context is required for payroll."

/-- The value of a property when it is neither absent nor null. -/
def present (value : Option Json) : Option Json :=
  match value with
  | some .null => none
  | value => value

/-- The recipient loop of `assertPayroll`. -/
def assertPayrollRecipients (source : Json) : List Json → Except ServiceError Unit
  | [] => return ()
  | value :: rest => do
      let target ← match value with
        | .object _ => pure ((present (value.get? "targetTokenAddress")).getD source)
        | .array _ => pure source
        | _ => throw payrollContextRequired
      if truthy target = false then throw payrollContextRequired
      let decision ← decide runtime routing (.string routing.network) .PAYROLL source target
      assertPaymentDecision routing decision
      assertPayrollRecipients source rest

def assertPayroll (payload : Json) : Except ServiceError Unit := do
  let recipients := match payload.get? "recipients" with
    | some (.array items) => items
    | _ => []
  match payload.get? "sourceTokenAddress" with
  | some source =>
      if truthy source = false ∨ recipients = [] then throw payrollContextRequired
      assertPayrollRecipients runtime routing source recipients
  | none => throw payrollContextRequired

end WizPay.Backend
