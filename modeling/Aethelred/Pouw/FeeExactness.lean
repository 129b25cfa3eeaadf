import Aethelred.Pouw.FeeLedger

/- When a distribution moves exactly the fee, and that the entry point over the staking module's
validators never does. -/
namespace Pouw

open Go Attempt Bytes Int

variable {β : Type}

section Payouts

variable (sdk : Sdk β)

/-- What `DistributeJobFee` does after its checks. -/
def payouts (validators : List String) (result : FeeDistributionResult) :
    FeeCall β FeeDistributionResult := do
  whenPositive result.perValidatorReward (wrapping "failed to distribute validator rewards"
    (distributeVerificationRewards sdk validators result.perValidatorReward))
  payTreasury sdk result.treasuryAmount
  whenPositive result.burnedAmount
    (wrapping "failed to burn tokens" (burnTokens sdk result.burnedAmount))
  payInsurance sdk result.insuranceFund
  pure result

/-- The coins of a breakdown in the chain's denomination, none negative. -/
structure NativeResult (result : FeeDistributionResult) : Prop where
  perValidator : result.perValidatorReward.denom = defaultDenom ∧
    0 ≤ result.perValidatorReward.amount
  treasury : result.treasuryAmount.denom = defaultDenom ∧ 0 ≤ result.treasuryAmount.amount
  burned : result.burnedAmount.denom = defaultDenom ∧ 0 ≤ result.burnedAmount.amount
  insurance : result.insuranceFund.denom = defaultDenom ∧ 0 ≤ result.insuranceFund.amount

def FeeDistributionResult.delta (result : FeeDistributionResult) (out : Int) : Delta where
  out
  treasury := result.treasuryAmount.amount
  insurance := result.insuranceFund.amount
  treasuryMark := result.treasuryAmount.amount
  insuranceMark := result.insuranceFund.amount

/-- The earmark can be raised by the amount. -/
def Recordable (state : FeeState β) (key : List UInt8) (amount : Int) : Prop :=
  0 < amount → state.storeService = true ∧ (earmarked state key + amount).natAbs < 2 ^ 256

variable {sdk} {blocked : List UInt8 → Prop} {state : FeeState β}
  {result : FeeDistributionResult} {validators : List String} {total : Int}

/-- The payouts go through when the account covers them all, every validator who gets something
can be paid and the earmarks can be recorded. -/
theorem pays_payouts (law : sdk.Lawful blocked) (native : NativeResult result)
    (several : validators ≠ [])
    (sum : result.perValidatorReward.amount * validators.length + result.treasuryAmount.amount +
      result.burnedAmount.amount + result.insuranceFund.amount = total) (paid : 0 < total) :
    Pays sdk (payouts sdk validators result) state
      ((0 < result.perValidatorReward.amount →
          ∀ validator ∈ validators, Payable sdk blocked validator) ∧
        total ≤ held sdk state moduleName ∧
        Recordable state treasuryEarmarkKeyPrefix result.treasuryAmount.amount ∧
        Recordable state insuranceEarmarkKeyPrefix result.insuranceFund.amount)
      (result.delta total) := by
  -- each stage asks what the stages before it have left of the account
  have insuranceStage (between : FeeState β) {delta : Delta}
      (moved : Moved sdk state between delta) (unmarked : delta.insuranceMark = 0) :
      Pays sdk (payInsurance sdk result.insuranceFund >>= fun _ => pure result) between
        (Fundable state insuranceEarmarkKeyPrefix result.insuranceFund.amount
          (held sdk state moduleName - delta.out) ∧ True)
        { out := result.insuranceFund.amount, insurance := result.insuranceFund.amount,
          insuranceMark := result.insuranceFund.amount } := by
    have mark : earmarked between insuranceEarmarkKeyPrefix =
        earmarked state insuranceEarmarkKeyPrefix := by
      rw [moved.insuranceMark, unmarked, add_zero]
    rw [Fundable, ← moved.out, ← moved.service, ← mark]
    have paidOut := (pays_payInsurance law native.insurance.2 native.insurance.1).bind
      fun _ (last : FeeState β) _ (_ : Moved sdk between last _) => pays_pure sdk last result
    simpa only [Fundable, Delta.add, add_zero] using paidOut
  have burnStage (between : FeeState β) {delta : Delta}
      (moved : Moved sdk state between delta) (unmarked : delta.insuranceMark = 0) :
      Pays sdk (whenPositive result.burnedAmount
          (wrapping "failed to burn tokens" (burnTokens sdk result.burnedAmount)) >>= fun _ =>
          payInsurance sdk result.insuranceFund >>= fun _ => pure result) between
        ((0 < result.burnedAmount.amount →
          result.burnedAmount.amount ≤ held sdk state moduleName - delta.out) ∧
        Fundable state insuranceEarmarkKeyPrefix result.insuranceFund.amount
          (held sdk state moduleName - (delta.out + result.burnedAmount.amount)) ∧ True)
        { out := result.burnedAmount.amount + result.insuranceFund.amount,
          insurance := result.insuranceFund.amount,
          insuranceMark := result.insuranceFund.amount } := by
    rw [← moved.out]
    have burnt := (pays_burnTokens law native.burned.2 native.burned.1
      "failed to burn tokens").bind fun _ (last : FeeState β) _ (step : Moved sdk between last _) =>
        insuranceStage last (moved.trans step) (by rw [Delta.add, unmarked]; rfl)
    simpa only [Delta.add, zero_add] using burnt
  have treasuryStage (between : FeeState β) {out : Int}
      (moved : Moved sdk state between { out }) :
      Pays sdk (payTreasury sdk result.treasuryAmount >>= fun _ =>
          whenPositive result.burnedAmount
            (wrapping "failed to burn tokens" (burnTokens sdk result.burnedAmount)) >>= fun _ =>
          payInsurance sdk result.insuranceFund >>= fun _ => pure result) between
        (Fundable state treasuryEarmarkKeyPrefix result.treasuryAmount.amount
          (held sdk state moduleName - out) ∧
        (0 < result.burnedAmount.amount → result.burnedAmount.amount ≤
          held sdk state moduleName - (out + result.treasuryAmount.amount)) ∧
        Fundable state insuranceEarmarkKeyPrefix result.insuranceFund.amount (held sdk state moduleName -
          (out + result.treasuryAmount.amount + result.burnedAmount.amount)) ∧ True)
        (result.delta (result.treasuryAmount.amount + (result.burnedAmount.amount +
          result.insuranceFund.amount))) := by
    have mark : earmarked between treasuryEarmarkKeyPrefix =
        earmarked state treasuryEarmarkKeyPrefix := by
      rw [moved.treasuryMark, add_zero]
    have paidOut := (pays_payTreasury law native.treasury.2 native.treasury.1).bind
      fun _ (last : FeeState β) _ (step : Moved sdk between last _) =>
        burnStage last (moved.trans step) rfl
    rw [Fundable, moved.out, moved.service, mark] at paidOut
    simpa only [Fundable, Delta.add, add_zero, zero_add, FeeDistributionResult.delta]
      using paidOut
  have stages := (pays_rewards law native.perValidator.2 native.perValidator.1
    "failed to distribute validator rewards" several).bind
      fun _ (last : FeeState β) _ (step : Moved sdk state last _) => treasuryStage last step
  have whole : result.delta total = ({ out := result.perValidatorReward.amount *
      validators.length } : Delta).add (result.delta (result.treasuryAmount.amount +
        (result.burnedAmount.amount + result.insuranceFund.amount))) := by
    simp only [Delta.add, FeeDistributionResult.delta, zero_add, ← sum, add_assoc]
  rw [whole]
  refine stages.congr ?_
  have noRewards : ¬0 < result.perValidatorReward.amount →
      result.perValidatorReward.amount * (validators.length : Int) = 0 := by
    intro none
    have zero : result.perValidatorReward.amount = 0 := by
      have nonneg := native.perValidator.2
      omega
    rw [zero, zero_mul]
  have treasuryNonneg := native.treasury.2
  have burnedNonneg := native.burned.2
  have insuranceNonneg := native.insurance.2
  constructor
  · rintro ⟨rewards, treasury, burned, insurance, _⟩
    refine ⟨fun positive => (rewards positive).1, ?_, fun positive => (treasury positive).2,
      fun positive => (insurance positive).2⟩
    -- the last stage that pays anything covers all before it
    by_cases insured : 0 < result.insuranceFund.amount
    · have enough := (insurance insured).1
      omega
    by_cases burning : 0 < result.burnedAmount.amount
    · have enough := burned burning
      omega
    by_cases saving : 0 < result.treasuryAmount.amount
    · have enough := (treasury saving).1
      omega
    by_cases rewarding : 0 < result.perValidatorReward.amount
    · have enough := (rewards rewarding).2
      omega
    · have none := noRewards rewarding
      omega
  · rintro ⟨payable, covered, treasuryMark, insuranceMark⟩
    refine ⟨fun positive => ⟨payable positive, by omega⟩,
      fun positive => ⟨by omega, treasuryMark positive⟩, fun _ => by omega,
      fun positive => ⟨by omega, insuranceMark positive⟩, trivial⟩

theorem distributeJobFee_of_checked {config : FeeDistributionConfig} {fee : Coin}
    (checked : checkDistribution sdk config fee validators = .ok ())
    (calculated : calculateFeeBreakdown fee config validators.length = .ok result) :
    distributeJobFee sdk config fee validators state = payouts sdk validators result state := by
  rw [distributeJobFee, ofExcept_bind, checked]
  dsimp only
  rw [ofExcept_bind, calculated]
  rfl

end Payouts

section Exactness

variable (sdk : Sdk β) (blocked : List UInt8 → Prop) (config : FeeDistributionConfig) (fee : Coin)
  (validators : List String) (state : FeeState β)

/-- The distribution goes through, takes exactly the fee out of the pouw account, and the earmarks
grow by exactly what the treasury and the insurance account receive. -/
def DistributionExact : Prop :=
  ∃ result after, distributeJobFee sdk config fee validators state = (.ok result, after) ∧
    Moved sdk state after (result.delta fee.amount)

/-- The fee is in the chain's denomination and in the module account, every address is an account
address and, where a reward is due, not blocked, the shares are sound and the earmarks can be
recorded. -/
structure Distributable : Prop where
  native : fee.denom = defaultDenom
  covered : fee.amount ≤ held sdk state moduleName
  addresses : ∀ validator ∈ validators, ∃ address,
    sdk.accAddressFromBech32 validator = .ok address
  payable : 0 < (amountsOf config fee.amount validators.length).perValidator →
    ∀ validator ∈ validators, Payable sdk blocked validator
  sound : config.Sound fee
  treasury : Recordable state treasuryEarmarkKeyPrefix
    ((amountsOf config fee.amount validators.length).result fee
      validators.length).treasuryAmount.amount
  insurance : Recordable state insuranceEarmarkKeyPrefix
    (amountsOf config fee.amount validators.length).insurance

variable {sdk blocked config fee validators state}

section Native

variable (law : sdk.Lawful blocked) (accepted : validateFeeDistribution config = .ok ())
  (paid : 0 < fee.amount) (several : validators ≠ []) (bounded : validators.length ≤ 300)
  (native : fee.denom = defaultDenom) (sound : config.Sound fee)

include accepted paid several bounded native sound in
theorem nativeResult : NativeResult
    ((amountsOf config fee.amount validators.length).result fee validators.length) := by
  have count : 0 < (validators.length : Int) := natCast_pos.mpr (List.length_pos_iff.mpr several)
  have nonneg := (validateFeeDistribution_eq_ok.mp accepted).1
  obtain ⟨each, _, treasury, burned, insurance⟩ := amountsOf_nonneg nonneg paid count
  have covered := (allocated_le_iff count accepted paid (by omega)).mpr sound.1
  exact ⟨⟨native, each⟩, ⟨native, add_nonneg treasury (sub_nonneg.mpr covered)⟩,
    ⟨native, burned⟩, ⟨native, insurance⟩⟩

include law accepted paid several bounded native sound in
theorem pays_result :
    Pays sdk (payouts sdk validators
        ((amountsOf config fee.amount validators.length).result fee validators.length)) state
      ((0 < (amountsOf config fee.amount validators.length).perValidator →
          ∀ validator ∈ validators, Payable sdk blocked validator) ∧
        fee.amount ≤ held sdk state moduleName ∧
        Recordable state treasuryEarmarkKeyPrefix
          ((amountsOf config fee.amount validators.length).result fee
            validators.length).treasuryAmount.amount ∧
        Recordable state insuranceEarmarkKeyPrefix
          (amountsOf config fee.amount validators.length).insurance)
      (((amountsOf config fee.amount validators.length).result fee
        validators.length).delta fee.amount) :=
  pays_payouts law (nativeResult accepted paid several bounded native sound) several
    (by
      simp only [Amounts.result, Amounts.allocated, amountsOf]
      ring) paid

end Native

variable {after : FeeState β}

theorem ofExcept_eq_ok {α : Type} {outcome : Except Fault α} {value : α}
    (done : (ofExcept outcome : FeeCall β α) state = (.ok value, after)) : outcome = .ok value := by
  cases outcome with
  | error reason => exact nomatch (Prod.mk.inj done).1
  | ok given => exact (Prod.mk.inj done).1

theorem checked_of_done {result : FeeDistributionResult}
    (done : distributeJobFee sdk config fee validators state = (.ok result, after)) :
    checkDistribution sdk config fee validators = .ok () ∧
      ∃ breakdown, calculateFeeBreakdown fee config validators.length = .ok breakdown := by
  obtain ⟨_, _, passed, rest⟩ := of_bind_ok done
  obtain ⟨breakdown, _, computed, _⟩ := of_bind_ok rest
  exact ⟨ofExcept_eq_ok passed, breakdown, ofExcept_eq_ok computed⟩

theorem payouts_value {result value : FeeDistributionResult}
    (done : payouts sdk validators result state = (.ok value, after)) : value = result := by
  obtain ⟨_, _, _, rest⟩ := of_bind_ok done
  obtain ⟨_, _, _, rest⟩ := of_bind_ok rest
  obtain ⟨_, _, _, rest⟩ := of_bind_ok rest
  obtain ⟨_, _, _, last⟩ := of_bind_ok rest
  exact (Except.ok.inj (Prod.mk.inj last).1).symm

/-- A distribution is exact exactly if everyone can be paid. -/
theorem distributionExact_iff (law : sdk.Lawful blocked)
    (accepted : validateFeeDistribution config = .ok ()) (paid : 0 < fee.amount)
    (representable : fee.amount < 2 ^ 256) (several : validators ≠ [])
    (bounded : validators.length ≤ 300) (distinct : validators.Nodup) :
    DistributionExact sdk config fee validators state ↔
      Distributable sdk blocked config fee validators state := by
  have count : 0 < (validators.length : Int) := natCast_pos.mpr (List.length_pos_iff.mpr several)
  have calculated (native : fee.denom = defaultDenom) (breakdown : FeeDistributionResult) :
      calculateFeeBreakdown fee config validators.length = .ok breakdown ↔ config.Sound fee ∧
        (amountsOf config fee.amount validators.length).result fee validators.length =
          breakdown :=
    calculateFeeBreakdown_of_accepted count accepted paid (by omega) representable
      (by rw [native]; decide)
  constructor
  · rintro ⟨result, after, done, _⟩
    obtain ⟨checked, breakdown, known⟩ := checked_of_done done
    obtain ⟨_, _, _, addresses, _, _, native⟩ := checkDistribution_eq_ok.mp checked
    obtain ⟨sound, rfl⟩ := (calculated native breakdown).mp known
    rw [distributeJobFee_of_checked checked known] at done
    obtain ⟨payable, covered, treasury, insurance⟩ :=
      (pays_result law accepted paid several bounded native sound).succeeds.mp ⟨_, _, done⟩
    exact ⟨native, covered, addresses, payable, sound, treasury, insurance⟩
  · rintro ⟨native, covered, addresses, payable, sound, treasury, insurance⟩
    have checked : checkDistribution sdk config fee validators = .ok () :=
      checkDistribution_eq_ok.mpr ⟨paid, several, bounded, addresses, distinct, accepted, native⟩
    have known := (calculated native _).mpr ⟨sound, rfl⟩
    obtain ⟨result, after, done⟩ :=
      (pays_result law accepted paid several bounded native sound).succeeds.mpr
        ⟨payable, covered, treasury, insurance⟩
    obtain rfl := payouts_value done
    refine ⟨_, after, (distributeJobFee_of_checked checked known).trans done, ?_⟩
    exact (pays_result law accepted paid several bounded native sound).moved _ after done

theorem distributeJobFeeFromValidatorSet_fails (law : sdk.Lawful blocked)
    {stakingValidators : List StakingValidator}
    (operators : ∀ validator ∈ stakingValidators, ∃ operator,
      sdk.valAddressFromBech32 validator.operatorAddress = .ok operator)
    (result : FeeDistributionResult) (after : FeeState β) :
    distributeJobFeeFromValidatorSet sdk config (.ok stakingValidators) fee state ≠
      (.ok result, after) := by
  intro done
  rw [distributeJobFeeFromValidatorSet] at done
  split at done
  · exact nomatch (Prod.mk.inj done).1
  case isFalse some =>
    obtain ⟨_, _, _, addresses, _⟩ := checkDistribution_eq_ok.mp (checked_of_done done).1
    obtain ⟨first, member⟩ := List.exists_mem_of_ne_nil _ some
    obtain ⟨address, account⟩ := addresses first member
    obtain ⟨validator, listed, rfl⟩ := List.mem_map.mp member
    obtain ⟨operator, named⟩ := operators validator (List.mem_filter.mp listed).1
    obtain ⟨reason, refused⟩ := law.prefixes named
    rw [refused] at account
    contradiction

/-- Where the shares do not wrap and no product overflows the breakdown is exact, a distribution
to account addresses that the module account covers moves exactly the fee, and the entry point
over the staking module's validators refuses every set of them. -/
theorem fee_distribution_exact (law : sdk.Lawful blocked)
    (accepted : validateFeeDistribution config = .ok ()) (paid : 0 < fee.amount)
    (representable : fee.amount < 2 ^ 256) :
    (∀ count : Int, 1 ≤ count → count ≤ 300 → Coin.validDenom fee.denom →
      (BreakdownExact fee config count ↔ config.Sound fee)) ∧
    (∀ (validators : List String) (state : FeeState β), validators ≠ [] →
      validators.length ≤ 300 → validators.Nodup →
      (DistributionExact sdk config fee validators state ↔
        Distributable sdk blocked config fee validators state)) ∧
    ∀ (stakingValidators : List StakingValidator) (state : FeeState β),
      (∀ validator ∈ stakingValidators, ∃ operator,
        sdk.valAddressFromBech32 validator.operatorAddress = .ok operator) →
      ∀ result after, distributeJobFeeFromValidatorSet sdk config (.ok stakingValidators) fee
        state ≠ (.ok result, after) := by
  refine ⟨?_, ?_, ?_⟩
  · intro count several bounded named
    exact breakdownExact_iff several accepted paid bounded representable named
  · intro validators state several bounded distinct
    exact distributionExact_iff law accepted paid representable several bounded distinct
  · intro stakingValidators state operators
    exact distributeJobFeeFromValidatorSet_fails law operators

end Exactness

def accountText : String := "aethel1qypqxpq9qcrsszg2pvxq6rs0zqg3yyc5kfm7ce"

def operatorText : String := "aethelvaloper1qypqxpq9qcrsszg2pvxq6rs0zqg3yyc58cmyhv"

def sampleAddress : List UInt8 := bigEndian 20 0x0102030405060708090a0b0c0d0e0f1011121314

/-- The first 20 bytes of the SHA-256 of the three names. -/
def sampleModuleAddress (name : String) : List UInt8 :=
  if name = moduleName then bigEndian 20 0x2bd409220d9b5a6428c57b8c2033840af97c452c
  else if name = treasuryModuleName then
    bigEndian 20 0xf90ee339d477e90ff668f487f19782e6bf055f5d
  else bigEndian 20 0x67d36f049bfc203adb36b8d51818a86b72ec9494

/-- The module accounts take no payments. -/
def sampleBlocked (address : List UInt8) : Prop :=
  address ∈ [moduleName, treasuryModuleName, insuranceModuleName].map sampleModuleAddress

instance (address : List UInt8) : Decidable (sampleBlocked address) :=
  inferInstanceAs (Decidable (address ∈ _))

def spending (sender : String) (coin : Coin)
    (change : (List UInt8 → String → Int) → List UInt8 → String → Int) :
    Attempt (List UInt8 → String → Int) Fault Unit := fun balance =>
  if coin.amount ≤ balance (sampleModuleAddress sender) coin.denom then
    (.ok (), change balance)
  else
    (.error (.err "insufficient funds"), balance)

def sampleBank : BankKeeper (List UInt8 → String → Int) where
  balance := id
  sendCoinsFromModuleToAccount := fun sender recipient coin =>
    if sampleBlocked recipient then
      fail (.err "is not allowed to receive funds: unauthorized")
    else
      spending sender coin fun balance =>
        transferred balance (sampleModuleAddress sender) recipient coin
  sendCoinsFromModuleToModule := fun sender recipient coin =>
    spending sender coin fun balance =>
      transferred balance (sampleModuleAddress sender) (sampleModuleAddress recipient) coin
  burnCoins := fun sender coin =>
    spending sender coin fun balance => destroyed balance (sampleModuleAddress sender) coin

def sampleSdk : Sdk (List UInt8 → String → Int) where
  bank := sampleBank
  newModuleAddress := sampleModuleAddress
  accAddressFromBech32 := fun text =>
    if text = accountText then .ok sampleAddress
    else .error "invalid Bech32 prefix; expected aethel, got aethelvaloper"
  valAddressFromBech32 := fun text =>
    if text = operatorText then .ok sampleAddress
    else .error "invalid Bech32 prefix; expected aethelvaloper, got aethel"
  quote := fun text => "\"" ++ text ++ "\""

theorem spending_succeeds {sender : String} {coin : Coin}
    {change : (List UInt8 → String → Int) → List UInt8 → String → Int}
    {balance : List UInt8 → String → Int} :
    (∃ after, spending sender coin change balance = (.ok (), after)) ↔
      coin.amount ≤ balance (sampleModuleAddress sender) coin.denom := by
  rw [spending]
  by_cases enough : coin.amount ≤ balance (sampleModuleAddress sender) coin.denom
  · simp [enough]
  · simp [enough]

theorem spending_balance {sender : String} {coin : Coin}
    {change : (List UInt8 → String → Int) → List UInt8 → String → Int}
    {balance after : List UInt8 → String → Int}
    (done : spending sender coin change balance = (.ok (), after)) : after = change balance := by
  rw [spending] at done
  split at done
  · exact (Prod.mk.inj done).2.symm
  · exact nomatch (Prod.mk.inj done).1

/-- The sample keepers move what they are asked to. -/
theorem sampleSdk_lawful : sampleSdk.Lawful sampleBlocked where
  toAccount := by
    intro recipient coin bank positive
    change (∃ after, (if sampleBlocked recipient then _ else _ : Attempt _ Fault Unit) bank = _) ↔ _
    by_cases refused : sampleBlocked recipient
    · simp [refused, fail]
    · rw [if_neg refused]
      exact spending_succeeds.trans (by simp [refused]; rfl)
  toAccount_balance := by
    intro recipient coin bank after positive done
    change (if sampleBlocked recipient then _ else _ : Attempt _ Fault Unit) bank = _ at done
    by_cases refused : sampleBlocked recipient
    · rw [if_pos refused] at done
      exact nomatch (Prod.mk.inj done).1
    · rw [if_neg refused] at done
      exact spending_balance done
  toModule := by
    intro recipient coin bank member positive
    simp only [sampleSdk, sampleBank, id_eq]
    exact spending_succeeds
  toModule_balance := by
    intro recipient coin bank after member positive done
    simp only [sampleSdk, sampleBank, id_eq] at done ⊢
    exact spending_balance done
  burn := by
    intro coin bank positive
    simp only [sampleSdk, sampleBank, id_eq]
    exact spending_succeeds
  burn_balance := by
    intro coin bank after positive done
    simp only [sampleSdk, sampleBank, id_eq] at done ⊢
    exact spending_balance done
  modules := by decide +kernel
  blockedModules := by decide +kernel
  prefixes := by
    intro text operator named
    change (if text = operatorText then _ else _) = _ at named
    split at named
    case isTrue same =>
      subst same
      refine ⟨"invalid Bech32 prefix; expected aethel, got aethelvaloper", ?_⟩
      simp [sampleSdk, operatorText, accountText]
    case isFalse => contradiction

def sampleFee : Coin where
  denom := defaultDenom
  amount := 1000

def sampleState : FeeState (List UInt8 → String → Int) where
  bank := fun account denom =>
    if account = sampleModuleAddress moduleName ∧ denom = defaultDenom then 1000 else 0
  storeService := true
  earmarks := ∅

def sampleOperator : StakingValidator where
  operatorAddress := operatorText
  status := .bonded
  jailed := false

theorem fee_distribution_exact_sample :
    BreakdownExact sampleFee defaultFeeDistributionConfig 1 ∧
      DistributionExact sampleSdk defaultFeeDistributionConfig sampleFee [accountText]
        sampleState := by
  have exact_iff := fee_distribution_exact sampleSdk_lawful
    (show validateFeeDistribution defaultFeeDistributionConfig = .ok () by decide)
    (show 0 < sampleFee.amount by decide) (by decide)
  have sound : defaultFeeDistributionConfig.Sound sampleFee := by
    refine ⟨by decide, ?_⟩
    decide
  refine ⟨(exact_iff.1 1 (by decide) (by decide) (by decide)).mpr sound, ?_⟩
  refine (exact_iff.2.1 [accountText] sampleState (by decide) (by decide) (by decide)).mpr ?_
  have account : sampleSdk.accAddressFromBech32 accountText = .ok sampleAddress := by
    simp [sampleSdk]
  constructor
  case native => rfl
  case covered => decide +kernel
  case sound => exact sound
  case addresses =>
    intro validator member
    obtain rfl := List.mem_singleton.mp member
    exact ⟨_, account⟩
  case payable =>
    intro _ validator member
    obtain rfl := List.mem_singleton.mp member
    exact ⟨_, account, by decide +kernel⟩
  case treasury =>
    intro _
    exact ⟨rfl, by decide +kernel⟩
  case insurance =>
    intro _
    exact ⟨rfl, by decide +kernel⟩

/-- The fee is there and one validator is bonded, yet the entry point refuses. -/
theorem operator_refused_for_fee :
    held sampleSdk sampleState moduleName = sampleFee.amount ∧
      (bondedAddrs [sampleOperator]).length = 1 ∧
      (distributeJobFeeFromValidatorSet sampleSdk defaultFeeDistributionConfig
        (.ok [sampleOperator]) sampleFee sampleState).1 = .error (.err
          ("invalid validator address at index 0: \"" ++ operatorText ++
            "\": invalid Bech32 prefix; expected aethel, got aethelvaloper (FD-04)")) := by
  refine ⟨?_, ?_, ?_⟩
  · decide +kernel
  · decide
  · decide +kernel

end Pouw
