import WizPay.Foundation.Rounding
import WizPay.UserSwap.Protocol

/-!
# The two floors of a quote

A quote is given a floor for its output and a floor for the price of its one hop, both
rounded down from one product. The router reads the second and the executor the first:
no output passes the price check below the output floor, and none that exceeds the output
floor fails it. The frontend works both floors out again before it signs.
-/

namespace WizPay.UserSwap

open Foundation Backend

/-! ## The copy of the frontend -/

namespace Frontend

def applySlippage (amountOut slippageBps : ℕ) : Except String ℕ := do
  if slippageBps < 1 ∨ 500 < slippageBps then
    throw "slippageBps must be an integer between 1 and 500."
  let minAmountOut := amountOut * (10000 - slippageBps) / 10000
  if minAmountOut = 0 then
    throw "Slippage-adjusted minimum output must be positive."
  return minAmountOut

def calculateMinHopPriceX36 (amountIn amountOut slippageBps : ℕ) : Except String ℕ := do
  if amountIn = 0 then throw "amountIn must be positive."
  let _ ← applySlippage amountOut slippageBps
  let result := amountOut * (10000 - slippageBps) * 10 ^ 36 / (amountIn * 10000)
  if result = 0 then
    throw "Slippage-adjusted per-hop price floor must be positive."
  return result

/-- What the frontend takes for the output floor, the backend does: only the errors of the
two copies differ. -/
theorem applySlippage_ok {amountOut slippageBps minAmountOut : ℕ}
    (hslippage : applySlippage amountOut slippageBps = .ok minAmountOut) :
    UserSwap.applySlippage amountOut slippageBps = .ok minAmountOut := by
  unfold applySlippage at hslippage
  unfold UserSwap.applySlippage
  by_cases hrange : slippageBps < 1 ∨ 500 < slippageBps
  · rw [if_pos hrange] at hslippage
    cases hslippage
  · rw [if_neg hrange] at hslippage ⊢
    dsimp only [pure_bind] at hslippage ⊢
    split at hslippage
    · cases hslippage
    · next hpositive =>
        rw [if_neg hpositive]
        exact congrArg Except.ok (Except.ok.inj hslippage)

theorem calculateMinHopPriceX36_ok {amountIn amountOut slippageBps minHopPriceX36 : ℕ}
    (hprice : calculateMinHopPriceX36 amountIn amountOut slippageBps = .ok minHopPriceX36) :
    UserSwap.calculateMinHopPriceX36 amountIn amountOut slippageBps = .ok minHopPriceX36 := by
  unfold calculateMinHopPriceX36 at hprice
  unfold UserSwap.calculateMinHopPriceX36
  by_cases hzero : amountIn = 0
  · rw [if_pos hzero] at hprice
    cases hprice
  · rw [if_neg hzero] at hprice ⊢
    obtain ⟨minAmountOut, hslippage, hprice⟩ := except_bind_ok.mp hprice
    refine except_bind_ok.mpr ⟨minAmountOut, applySlippage_ok hslippage, ?_⟩
    dsimp only [pure_bind] at hprice ⊢
    split at hprice
    · cases hprice
    · next hpositive =>
        rw [if_neg hpositive]
        exact congrArg Except.ok (Except.ok.inj hprice)

end Frontend

/-! ## The floors against each other -/

/-- The price check on what `amountIn` buys, against the floor for the output: the check
admits nothing below the floor and rejects nothing above it. -/
structure FloorsAgree (amountIn minAmountOut minHopPriceX36 : ℕ) : Prop where
  admitted : ∀ output, minHopPriceX36 ≤ output * 10 ^ 36 / amountIn → minAmountOut ≤ output
  above : ∀ output, minAmountOut + 1 ≤ output → minHopPriceX36 ≤ output * 10 ^ 36 / amountIn

/-- An input of at most the price scale makes the two floors of the backend agree. -/
theorem floorsAgree_of_defined {amountIn amountOut slippageBps minAmountOut minHopPriceX36 : ℕ}
    (hscale : amountIn ≤ 10 ^ 36)
    (hslippage : applySlippage amountOut slippageBps = .ok minAmountOut)
    (hprice : calculateMinHopPriceX36 amountIn amountOut slippageBps = .ok minHopPriceX36) :
    FloorsAgree amountIn minAmountOut minHopPriceX36 := by
  obtain ⟨-, hminimum, -⟩ := applySlippage_ok hslippage
  obtain ⟨hhop, hhop_ne⟩ := calculateMinHopPriceX36_ok hprice
  have hamountIn : 0 < amountIn := by
    apply Nat.pos_of_ne_zero
    intro hzero
    apply hhop_ne
    rw [hhop, hzero, Nat.zero_mul, Nat.div_zero]
  have hwhole : 0 < 10000 := by decide
  constructor
  · intro output hreached
    rw [hhop] at hreached
    rw [hminimum]
    exact floor_le_of_scaled_floor_le hwhole hamountIn hscale hreached
  · intro output habove
    rw [hminimum] at habove
    rw [hhop]
    exact scaled_floor_le_of_floor_lt hwhole habove

/-- Both copies give floors that agree, whenever they give them, for every input up to the
price scale. -/
theorem hop_floor_agrees {amountIn amountOut slippageBps : ℕ} (hscale : amountIn ≤ 10 ^ 36) :
    (∀ minAmountOut minHopPriceX36,
        applySlippage amountOut slippageBps = .ok minAmountOut →
        calculateMinHopPriceX36 amountIn amountOut slippageBps = .ok minHopPriceX36 →
        FloorsAgree amountIn minAmountOut minHopPriceX36) ∧
      ∀ minAmountOut minHopPriceX36,
        Frontend.applySlippage amountOut slippageBps = .ok minAmountOut →
        Frontend.calculateMinHopPriceX36 amountIn amountOut slippageBps = .ok minHopPriceX36 →
        FloorsAgree amountIn minAmountOut minHopPriceX36 := by
  constructor
  · intro minAmountOut minHopPriceX36 hslippage hprice
    exact floorsAgree_of_defined hscale hslippage hprice
  · intro minAmountOut minHopPriceX36 hslippage hprice
    exact floorsAgree_of_defined hscale (Frontend.applySlippage_ok hslippage)
      (Frontend.calculateMinHopPriceX36_ok hprice)

/-- Twenty-five units that buy twenty-two, at half a percent. -/
theorem hop_floor_agrees_half_percent :
    FloorsAgree 25000000 21890000 875600000000000000000000000000000000 :=
  (hop_floor_agrees (by decide)).1 21890000 875600000000000000000000000000000000
    (show applySlippage 22000000 50 = _ by decide)
    (show calculateMinHopPriceX36 25000000 22000000 50 = _ by decide)

-- One unit more than the scale, and an output below the floor passes the price check.
example : ¬ FloorsAgree (10 ^ 36 + 1) (10 ^ 36 + 2)
    ((10 ^ 36 + 2) * 10 ^ 36 / (10 ^ 36 + 1)) := by
  intro hagree
  have hadmitted := hagree.admitted (10 ^ 36 + 1) (by decide)
  omega

end WizPay.UserSwap
