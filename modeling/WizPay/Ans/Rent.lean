import WizPay.Ans.Namespaces
import WizPay.Ans.Purchases
import WizPay.Foundation.Rounding

/-!
# What a name costs

The rent of a term is the yearly price rounded up, less a discount rounded down.
What a discount leaves is again a ceiling, so the rent grows with the term, is never
cheaper in parts, and vanishes only with the price or under a full discount.
-/

namespace WizPay.Ans

open Foundation Evm

/-! ## The price of a term -/

section Price

/-- The discount a promo grants at a moment. -/
def PromoConfig.discountAt (promo : PromoConfig) (now : ℕ) : ℕ :=
  if promo.IsActive now then promo.discountBps else 0

/-- The rent at an annual price and a discount. -/
def rentOf (annualPrice discountBps duration : ℕ) : ℕ :=
  (annualPrice * duration ⌈/⌉ YEAR) * (MAX_BPS - discountBps) ⌈/⌉ MAX_BPS

theorem year_pos : 0 < YEAR := by
  decide

theorem max_bps_pos : 0 < MAX_BPS := by
  decide

variable (annualPrice discountBps : ℕ)

theorem rentOf_mono {first second : ℕ} (hle : first ≤ second) :
    rentOf annualPrice discountBps first ≤ rentOf annualPrice discountBps second := by
  apply ceilDiv_mono max_bps_pos
  apply Nat.mul_le_mul_right
  exact ceilDiv_mono year_pos (Nat.mul_le_mul_left annualPrice hle)

/-- A split term costs no less. -/
theorem rentOf_add_le (first second : ℕ) :
    rentOf annualPrice discountBps (first + second) ≤
      rentOf annualPrice discountBps first + rentOf annualPrice discountBps second := by
  have hbase := ceilDiv_add_le year_pos (annualPrice * first) (annualPrice * second)
  rw [← Nat.mul_add] at hbase
  calc rentOf annualPrice discountBps (first + second)
      ≤ ((annualPrice * first ⌈/⌉ YEAR) + (annualPrice * second ⌈/⌉ YEAR)) *
          (MAX_BPS - discountBps) ⌈/⌉ MAX_BPS :=
        ceilDiv_mono max_bps_pos (Nat.mul_le_mul_right _ hbase)
    _ ≤ rentOf annualPrice discountBps first + rentOf annualPrice discountBps second := by
        rw [Nat.add_mul]
        exact ceilDiv_add_le max_bps_pos _ _

theorem rentOf_annual_mono {first second : ℕ} (hle : first ≤ second) (duration : ℕ) :
    rentOf first discountBps duration ≤ rentOf second discountBps duration := by
  apply ceilDiv_mono max_bps_pos
  apply Nat.mul_le_mul_right
  exact ceilDiv_mono year_pos (Nat.mul_le_mul_right duration hle)

/-- No discount costs more than the full price. -/
theorem rentOf_le_undiscounted (duration : ℕ) :
    rentOf annualPrice discountBps duration ≤ rentOf annualPrice 0 duration := by
  apply ceilDiv_mono max_bps_pos
  exact Nat.mul_le_mul_left _ (Nat.sub_le_sub_left (Nat.zero_le discountBps) MAX_BPS)

theorem rentOf_eq_zero {duration : ℕ} (hduration : duration ≠ 0) (hdiscount : discountBps ≤ MAX_BPS)
    (hzero : rentOf annualPrice discountBps duration = 0) :
    annualPrice = 0 ∨ discountBps = MAX_BPS := by
  rw [rentOf, ceilDiv_eq_zero_iff max_bps_pos, Nat.mul_eq_zero, ceilDiv_eq_zero_iff year_pos,
    Nat.mul_eq_zero] at hzero
  omega

end Price

/-! ## The quoted price -/

variable {Node Label : Type} {world : World Node Label}

theorem mulDiv_ok {first second divisor value : ℕ} {next : World Node Label}
    (hrun : (mulDiv first second divisor).run world = .ok (value, next)) :
    value = first * second / divisor ∧ next = world := by
  obtain ⟨-, hreturn⟩ := Call.bind_revertIf_ok.mp hrun
  obtain ⟨rfl, rfl⟩ := Prod.mk.inj (Call.pure_ok.mp hreturn)
  exact ⟨rfl, rfl⟩

theorem mulDivCeil_ok {first second divisor value : ℕ} {next : World Node Label}
    (hpos : 0 < divisor)
    (hrun : (mulDivCeil first second divisor).run world = .ok (value, next)) :
    value = first * second ⌈/⌉ divisor ∧ next = world := by
  obtain ⟨quotient, middle, hquotient, hsum⟩ := Call.bind_ok.mp hrun
  obtain ⟨rfl, rfl⟩ := mulDiv_ok hquotient
  obtain ⟨-, hsame⟩ := Call.bind_revertIf_ok.mp hsum
  obtain ⟨rfl, rfl⟩ := Prod.mk.inj (Call.pure_ok.mp hsame)
  exact ⟨div_add_one_eq_ceilDiv hpos _, rfl⟩

/-- At a moment the root registry quotes this price for a term. -/
def Quotes [DecidableEq Label] (world : World Node Label) (now : ℕ) (hash : Label)
    (labelLength duration price : ℕ) : Prop :=
  (Root.rentPrice now hash labelLength duration).run world = .ok (price, world)

section Quotes

variable [DecidableEq Label] {now labelLength duration price : ℕ} {hash : Label}

/-- A quote reads the price and leaves the world alone. -/
theorem quotes_iff : Quotes world now hash labelLength duration price ↔
    ((Root.rentPrice now hash labelLength duration).run world).toOption.map Prod.fst =
      some price := by
  unfold Quotes
  cases hrun : (Root.rentPrice now hash labelLength duration).run world with
  | error error => simp [Except.toOption]
  | ok result =>
      obtain ⟨value, next⟩ := result
      obtain rfl := Root.rentPrice_state now hash labelLength duration world value next hrun
      simp [Except.toOption]

/-- What a quote says: there is such a namespace, and the price is the rent at its price and
its promo. -/
theorem Quotes.eq_rentOf (hdiscount : (world.rootRegistry.promoConfigs hash).discountBps ≤ MAX_BPS)
    (h : Quotes world now hash labelLength duration price) :
    world.rootRegistry.Exists hash ∧ duration ≠ 0 ∧
      price = rentOf
        ((world.rootRegistry.pricingConfigs hash).annualPriceForLength labelLength)
        ((world.rootRegistry.promoConfigs hash).discountAt now) duration := by
  have hrun := Call.bind_get_ok.mp h
  obtain ⟨hexists, hrun⟩ := Call.bind_revertIf_ok.mp hrun
  obtain ⟨hduration, hrun⟩ := Call.bind_revertIf_ok.mp hrun
  obtain ⟨basePrice, middle, hbase, hrun⟩ := Call.bind_ok.mp hrun
  obtain ⟨rfl, rfl⟩ := mulDivCeil_ok year_pos hbase
  refine ⟨hexists, hduration, ?_⟩
  dsimp only at hrun
  rw [rentOf, PromoConfig.discountAt]
  split at hrun
  next hnone =>
    -- no discount: the whole of the base price, rounded up over itself
    obtain ⟨rfl, -⟩ := Prod.mk.inj (Call.pure_ok.mp hrun)
    have hzero : (if (middle.rootRegistry.promoConfigs hash).IsActive now then
        (middle.rootRegistry.promoConfigs hash).discountBps else 0) = 0 := by
      split
      next hactive => exact hnone.resolve_left (not_not.mpr hactive)
      next => rfl
    rw [hzero, ← sub_share_eq_ceilDiv max_bps_pos (Nat.zero_le _), Nat.mul_zero, Nat.zero_div,
      Nat.sub_zero]
  next hsome =>
    obtain ⟨discount, last, hdiscounted, hrun⟩ := Call.bind_ok.mp hrun
    obtain ⟨rfl, rfl⟩ := mulDiv_ok hdiscounted
    obtain ⟨-, hreturn⟩ := Call.bind_revertIf_ok.mp hrun
    obtain ⟨rfl, -⟩ := Prod.mk.inj (Call.pure_ok.mp hreturn)
    rw [not_or, not_not] at hsome
    rw [if_pos hsome.1, sub_share_eq_ceilDiv max_bps_pos hdiscount]

/-- Longer labels are no dearer, from three characters on. -/
theorem PricingConfig.Ordered.annualPrice_anti {pricing : PricingConfig} (h : pricing.Ordered)
    {short long : ℕ} (hshort : 3 ≤ short) (hle : short ≤ long) :
    pricing.annualPriceForLength long ≤ pricing.annualPriceForLength short := by
  obtain ⟨hthree, hfour⟩ := h
  unfold annualPriceForLength
  split_ifs <;> omega

/-- The same world with no promo for the namespace. -/
def World.withoutPromo (world : World Node Label) (hash : Label) : World Node Label :=
  { world with rootRegistry := world.rootRegistry.setPromo hash ⟨false, 0, 0, 0⟩ }

/-- The prices a world quotes at one moment fit together. -/
structure CoherentPrices (world : World Node Label) (now : ℕ) (hash : Label) : Prop where
  duration : ∀ labelLength first second price larger, first ≤ second →
    Quotes world now hash labelLength first price →
    Quotes world now hash labelLength second larger → price ≤ larger
  split : ∀ labelLength first second price other whole,
    Quotes world now hash labelLength first price →
    Quotes world now hash labelLength second other →
    Quotes world now hash labelLength (first + second) whole → whole ≤ price + other
  labelLength : ∀ short long duration price smaller, 3 ≤ short → short ≤ long →
    Quotes world now hash short duration price →
    Quotes world now hash long duration smaller → smaller ≤ price
  discount : ∀ labelLength duration price full,
    Quotes world now hash labelLength duration price →
    Quotes (world.withoutPromo hash) now hash labelLength duration full → price ≤ full
  zero : ∀ labelLength duration, Quotes world now hash labelLength duration 0 →
    (world.rootRegistry.pricingConfigs hash).annualPriceForLength labelLength = 0 ∨
      (world.rootRegistry.promoConfigs hash).IsActive now ∧
        (world.rootRegistry.promoConfigs hash).discountBps = MAX_BPS

variable {d : Deployment Node Label}

theorem coherentPrices_of_governed (hgoverned : Governed d world.rootRegistry) (now : ℕ)
    (hash : Label) : CoherentPrices world now hash := by
  by_cases hexists : world.rootRegistry.Exists hash
  · have hordered := (hgoverned.namespaces hash).ordered hexists
    have hdiscount := ((hgoverned.namespaces hash).valid hexists).discount_le
    have hrent {labelLength duration price : ℕ}
        (h : Quotes world now hash labelLength duration price) := (h.eq_rentOf hdiscount).2.2
    refine {
      duration := fun labelLength first second price larger hle hprice hlarger => ?_
      split := fun labelLength first second price other whole hprice hother hwhole => ?_
      labelLength := fun short long duration price smaller hshort hle hprice hsmaller => ?_
      discount := fun labelLength duration price full hprice hfull => ?_
      zero := fun labelLength duration hzero => ?_ }
    · rw [hrent hprice, hrent hlarger]
      exact rentOf_mono _ _ hle
    · rw [hrent hprice, hrent hother, hrent hwhole]
      exact rentOf_add_le _ _ _ _
    · rw [hrent hprice, hrent hsmaller]
      exact rentOf_annual_mono _ (hordered.annualPrice_anti hshort hle) duration
    · -- the full price is quoted at the same prices and no discount
      have hnone : ((world.withoutPromo hash).rootRegistry.promoConfigs hash) =
          ⟨false, 0, 0, 0⟩ := RootRegistry.setPromo_self _ _
      have hfull := (hfull.eq_rentOf (by rw [hnone]; exact Nat.zero_le _)).2.2
      have hnothing : PromoConfig.discountAt ⟨false, 0, 0, 0⟩ now = 0 := by
        rw [PromoConfig.discountAt, if_neg fun hactive => Bool.noConfusion hactive.1]
      rw [hnone, hnothing] at hfull
      rw [hrent hprice, hfull]
      exact rentOf_le_undiscounted _ _ duration
    · obtain ⟨-, hduration, hprice⟩ := hzero.eq_rentOf hdiscount
      have hshare : (world.rootRegistry.promoConfigs hash).discountAt now ≤ MAX_BPS := by
        unfold PromoConfig.discountAt
        split
        next => exact hdiscount
        next => exact Nat.zero_le _
      refine (rentOf_eq_zero _ _ hduration hshare hprice.symm).imp_right fun hwhole => ?_
      unfold PromoConfig.discountAt at hwhole
      split at hwhole
      next hactive => exact ⟨hactive, hwhole⟩
      next => exact absurd hwhole (by decide)
  · -- without the namespace nothing is quoted
    have hnone {labelLength duration price : ℕ}
        (h : Quotes world now hash labelLength duration price) : False :=
      hexists (Call.bind_revertIf_ok.mp (Call.bind_get_ok.mp h)).1
    exact ⟨fun _ _ _ _ _ _ h => (hnone h).elim, fun _ _ _ _ _ _ h => (hnone h).elim,
      fun _ _ _ _ _ _ _ h => (hnone h).elim, fun _ _ _ _ h => (hnone h).elim,
      fun _ _ h => (hnone h).elim⟩

/-- After every history of a root registry, at every moment and for every namespace, what the
root registry quotes is coherent. -/
theorem rentPrice_coherent [DecidableEq Node] {platformVault defaultResolver initialOwner : Address}
    {before : World Node Label} {value : PUnit}
    (hconstruct : (Root.construct platformVault defaultResolver initialOwner).run before =
      .ok (value, world)) (frames : List (Frame Node Label)) (now : ℕ) (hash : Label) :
    CoherentPrices (Sequence.run (step d) frames world) now hash :=
  coherentPrices_of_governed (run_governed frames (construct_governed hconstruct)) now hash

end Quotes

/-- In the namespace "usdc", open at 20% off, a five-letter name costs 8 USDC for a year and
16 for two. -/
theorem rentPrice_coherent_usdc :
    let world := step Deployment.lowAddresses exampleWorld exampleCreation
    Quotes world 1700000000 [0x75, 0x73, 0x64, 0x63] 5 YEAR 8000000 ∧
      Quotes world 1700000000 [0x75, 0x73, 0x64, 0x63] 5 (2 * YEAR) 16000000 ∧
      CoherentPrices world 1700000000 [0x75, 0x73, 0x64, 0x63] := by
  have hconstruct : (Root.construct 10 3 1000).run
      (World.launched Deployment.lowAddresses 1000 10 exampleLedgers) =
        .ok (PUnit.unit, exampleWorld) := rfl
  have hcoherent := @rentPrice_coherent _ _ _ _ Deployment.lowAddresses _ _ _ _ _ _ hconstruct
    [exampleCreation] 1700000000 [0x75, 0x73, 0x64, 0x63]
  exact ⟨quotes_iff.mpr (by decide +kernel), quotes_iff.mpr (by decide +kernel), hcoherent⟩

end WizPay.Ans
