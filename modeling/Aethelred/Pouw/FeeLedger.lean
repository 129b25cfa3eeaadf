import Aethelred.Pouw.FeeDistribution

/- What a distribution moves between the module accounts and records as earmarks, and when it goes
through. -/
namespace Pouw

open Go Attempt List Except Prod Int

variable {β : Type}

def transferred (balance : List UInt8 → String → Int) (sender recipient : List UInt8)
    (coin : Coin) (account : List UInt8) (denom : String) : Int :=
  if denom = coin.denom then
    balance account denom - (if account = sender then coin.amount else 0) +
      (if account = recipient then coin.amount else 0)
  else
    balance account denom

def destroyed (balance : List UInt8 → String → Int) (owner : List UInt8) (coin : Coin)
    (account : List UInt8) (denom : String) : Int :=
  if denom = coin.denom ∧ account = owner then balance account denom - coin.amount
  else balance account denom

/-- The documented behaviour of the SDK: what the bank moves and when it refuses, that module
accounts differ and cannot be paid as accounts, and that the addresses of accounts and of
validators have different prefixes. -/
structure Sdk.Lawful (sdk : Sdk β) (blocked : List UInt8 → Prop) : Prop where
  toAccount : ∀ {recipient : List UInt8} {coin : Coin} {bank : β}, 0 < coin.amount →
    ((∃ after, sdk.bank.sendCoinsFromModuleToAccount moduleName recipient coin bank =
      (.ok (), after)) ↔ ¬blocked recipient ∧
        coin.amount ≤ sdk.bank.balance bank (sdk.newModuleAddress moduleName) coin.denom)
  toAccount_balance : ∀ {recipient : List UInt8} {coin : Coin} {bank after : β},
    0 < coin.amount →
    sdk.bank.sendCoinsFromModuleToAccount moduleName recipient coin bank = (.ok (), after) →
    sdk.bank.balance after =
      transferred (sdk.bank.balance bank) (sdk.newModuleAddress moduleName) recipient coin
  toModule : ∀ {recipient : String} {coin : Coin} {bank : β},
    recipient ∈ [treasuryModuleName, insuranceModuleName] → 0 < coin.amount →
    ((∃ after, sdk.bank.sendCoinsFromModuleToModule moduleName recipient coin bank =
      (.ok (), after)) ↔
        coin.amount ≤ sdk.bank.balance bank (sdk.newModuleAddress moduleName) coin.denom)
  toModule_balance : ∀ {recipient : String} {coin : Coin} {bank after : β},
    recipient ∈ [treasuryModuleName, insuranceModuleName] → 0 < coin.amount →
    sdk.bank.sendCoinsFromModuleToModule moduleName recipient coin bank = (.ok (), after) →
    sdk.bank.balance after = transferred (sdk.bank.balance bank)
      (sdk.newModuleAddress moduleName) (sdk.newModuleAddress recipient) coin
  burn : ∀ {coin : Coin} {bank : β}, 0 < coin.amount →
    ((∃ after, sdk.bank.burnCoins moduleName coin bank = (.ok (), after)) ↔
      coin.amount ≤ sdk.bank.balance bank (sdk.newModuleAddress moduleName) coin.denom)
  burn_balance : ∀ {coin : Coin} {bank after : β}, 0 < coin.amount →
    sdk.bank.burnCoins moduleName coin bank = (.ok (), after) →
    sdk.bank.balance after =
      destroyed (sdk.bank.balance bank) (sdk.newModuleAddress moduleName) coin
  modules : [sdk.newModuleAddress moduleName, sdk.newModuleAddress treasuryModuleName,
    sdk.newModuleAddress insuranceModuleName].Nodup
  blockedModules : ∀ name ∈ [moduleName, treasuryModuleName, insuranceModuleName],
    blocked (sdk.newModuleAddress name)
  prefixes : ∀ {text : String} {operator : List UInt8},
    sdk.valAddressFromBech32 text = .ok operator →
    ∃ reason, sdk.accAddressFromBech32 text = .error reason

section Accounts

variable (sdk : Sdk β) (state : FeeState β)

def held (name : String) : Int :=
  sdk.bank.balance state.bank (sdk.newModuleAddress name) defaultDenom

def earmarked (key : List UInt8) : Int :=
  (state.earmarks.lookup (earmarkKey key defaultDenom)).getD 0

end Accounts

/-- How far the balances and earmarks move: out of the pouw account, into the treasury's and the
insurance's, and on their records. -/
@[ext] structure Delta where
  out : Int := 0
  treasury : Int := 0
  insurance : Int := 0
  treasuryMark : Int := 0
  insuranceMark : Int := 0

def Delta.add (first second : Delta) : Delta where
  out := first.out + second.out
  treasury := first.treasury + second.treasury
  insurance := first.insurance + second.insurance
  treasuryMark := first.treasuryMark + second.treasuryMark
  insuranceMark := first.insuranceMark + second.insuranceMark

/-- What a step has moved between modules and earmarks. -/
structure Moved (sdk : Sdk β) (before after : FeeState β) (delta : Delta) : Prop where
  out : held sdk after moduleName = held sdk before moduleName - delta.out
  treasury :
    held sdk after treasuryModuleName = held sdk before treasuryModuleName + delta.treasury
  insurance :
    held sdk after insuranceModuleName = held sdk before insuranceModuleName + delta.insurance
  treasuryMark : earmarked after treasuryEarmarkKeyPrefix =
    earmarked before treasuryEarmarkKeyPrefix + delta.treasuryMark
  insuranceMark : earmarked after insuranceEarmarkKeyPrefix =
    earmarked before insuranceEarmarkKeyPrefix + delta.insuranceMark
  service : after.storeService = before.storeService

section Composition

variable {sdk : Sdk β} {before between after : FeeState β} {delta delta' : Delta}

theorem Moved.refl (sdk : Sdk β) (state : FeeState β) : Moved sdk state state {} := by
  constructor <;> simp

theorem Moved.trans (first : Moved sdk before between delta)
    (second : Moved sdk between after delta') : Moved sdk before after (delta.add delta') where
  out := by rw [second.out, first.out, sub_sub]; rfl
  treasury := by rw [second.treasury, first.treasury, add_assoc]; rfl
  insurance := by rw [second.insurance, first.insurance, add_assoc]; rfl
  treasuryMark := by rw [second.treasuryMark, first.treasuryMark, add_assoc]; rfl
  insuranceMark := by rw [second.insuranceMark, first.insuranceMark, add_assoc]; rfl
  service := second.service.trans first.service

end Composition

/-- The call goes through exactly under the condition, and then moves the amounts. -/
structure Pays (sdk : Sdk β) {α : Type} (call : FeeCall β α) (state : FeeState β)
    (condition : Prop) (delta : Delta) : Prop where
  succeeds : (∃ value after, call state = (.ok value, after)) ↔ condition
  moved : ∀ value after, call state = (.ok value, after) → Moved sdk state after delta

section Rules

variable {sdk : Sdk β} {α γ : Type} {state : FeeState β} {condition condition' : Prop}
  {delta delta' : Delta}

theorem Pays.congr {call : FeeCall β α} (pays : Pays sdk call state condition delta)
    (same : condition ↔ condition') : Pays sdk call state condition' delta :=
  ⟨pays.succeeds.trans same, pays.moved⟩

theorem Pays.bind {first : FeeCall β α} {next : α → FeeCall β γ}
    (pays : Pays sdk first state condition delta)
    (later : ∀ value between, first state = (.ok value, between) → Moved sdk state between delta →
      Pays sdk (next value) between condition' delta') :
    Pays sdk (first >>= next) state (condition ∧ condition') (delta.add delta') := by
  constructor
  · constructor
    · rintro ⟨value, after, done⟩
      obtain ⟨result, between, begun, ended⟩ := of_bind_ok done
      have rest := later result between begun (pays.moved result between begun)
      exact ⟨pays.succeeds.mp ⟨result, between, begun⟩, rest.succeeds.mp ⟨value, after, ended⟩⟩
    · rintro ⟨holds, holds'⟩
      obtain ⟨result, between, begun⟩ := pays.succeeds.mpr holds
      have rest := later result between begun (pays.moved result between begun)
      obtain ⟨value, after, ended⟩ := rest.succeeds.mpr holds'
      exact ⟨value, after, by rw [bind_of_ok begun, ended]⟩
  · intro value after done
    obtain ⟨result, between, begun, ended⟩ := of_bind_ok done
    have moved := pays.moved result between begun
    exact moved.trans ((later result between begun moved).moved value after ended)

theorem pays_pure (sdk : Sdk β) (state : FeeState β) (value : α) :
    Pays sdk (pure value) state True {} := by
  constructor
  · exact ⟨fun _ => trivial, fun _ => ⟨value, state, rfl⟩⟩
  · intro result after done
    obtain ⟨_, rfl⟩ := mk.inj done
    exact Moved.refl sdk state

theorem Pays.wrapping {call : FeeCall β Unit} (pays : Pays sdk call state condition delta)
    (context : String) : Pays sdk (wrapping context call) state condition delta := by
  have same (value : Unit) (after : FeeState β) :
      Pouw.wrapping context call state = (.ok value, after) ↔ call state = (.ok value, after) := by
    rw [Pouw.wrapping]
    cases called : call state with
    | mk outcome ends => rw [mk.injEq, mapError_eq_ok_iff, mk.injEq]
  constructor
  · simp only [same]
    exact pays.succeeds
  · intro value after done
    exact pays.moved value after ((same value after).mp done)

theorem pays_whenPositive {coin : Coin} {call : FeeCall β Unit} (nonneg : 0 ≤ coin.amount)
    (pays : 0 < coin.amount → Pays sdk call state condition delta)
    (nothing : coin.amount = 0 → delta = {}) :
    Pays sdk (whenPositive coin call) state (0 < coin.amount → condition) delta := by
  rw [whenPositive]
  by_cases positive : 0 < coin.amount
  · rw [if_pos positive]
    exact (pays positive).congr (by simp [positive])
  · rw [if_neg positive, nothing (by omega)]
    exact (pays_pure sdk state ()).congr (by simp [positive])

/-- A bank call that moves an amount pays it. -/
theorem pays_onBank {call : Attempt β Fault Unit}
    (succeeds : (∃ bank, call state.bank = (.ok (), bank)) ↔ condition)
    (moved : ∀ bank, call state.bank = (.ok (), bank) →
      Moved sdk state { state with bank } delta) :
    Pays sdk (onBank call) state condition delta := by
  have same (value : Unit) (after : FeeState β) :
      onBank call state = (.ok value, after) ↔
        ∃ bank, call state.bank = (.ok (), bank) ∧ { state with bank } = after := by
    rw [onBank, within]
    cases called : call state.bank with
    | mk outcome ends =>
      simp only [mk.injEq]
      constructor
      · rintro ⟨done, rfl⟩
        exact ⟨ends, ⟨done, rfl⟩, rfl⟩
      · rintro ⟨bank, ⟨done, rfl⟩, rfl⟩
        exact ⟨done, rfl⟩
  constructor
  · rw [← succeeds]
    constructor
    · rintro ⟨value, after, done⟩
      obtain ⟨bank, sent, _⟩ := (same value after).mp done
      exact ⟨bank, sent⟩
    · rintro ⟨bank, sent⟩
      exact ⟨(), _, (same () _).mpr ⟨bank, sent, rfl⟩⟩
  · intro value after done
    obtain ⟨bank, sent, rfl⟩ := (same value after).mp done
    exact moved bank sent

end Rules

section Stages

variable {sdk : Sdk β} {blocked : List UInt8 → Prop} {state after : FeeState β} {coin : Coin}

section

variable (law : sdk.Lawful blocked)
include law

theorem Sdk.Lawful.module_ne :
    sdk.newModuleAddress moduleName ≠ sdk.newModuleAddress treasuryModuleName ∧
      sdk.newModuleAddress moduleName ≠ sdk.newModuleAddress insuranceModuleName ∧
      sdk.newModuleAddress treasuryModuleName ≠ sdk.newModuleAddress insuranceModuleName := by
  have distinct := law.modules
  simp only [nodup_cons, mem_cons, not_mem_nil, or_false, not_or] at distinct
  exact ⟨distinct.1.1, distinct.1.2, distinct.2.1⟩

section

variable (positive : 0 < coin.amount) (native : coin.denom = defaultDenom)
include positive native

theorem pays_sendToAccount (recipient : List UInt8) :
    Pays sdk (onBank (sdk.bank.sendCoinsFromModuleToAccount moduleName recipient coin)) state
      (¬blocked recipient ∧ coin.amount ≤ held sdk state moduleName) { out := coin.amount } := by
  refine pays_onBank (by rw [held, ← native]; exact law.toAccount positive) fun bank sent => ?_
  have free := ((law.toAccount positive).mp ⟨bank, sent⟩).1
  have balances := law.toAccount_balance positive sent
  obtain ⟨first, second, third⟩ := law.module_ne
  -- a blocked address is never paid, so the recipient is none of the three modules
  have other (name : String) (member : name ∈ [moduleName, treasuryModuleName,
      insuranceModuleName]) : sdk.newModuleAddress name ≠ recipient :=
    fun same => free (same ▸ law.blockedModules name member)
  constructor
  case service => rfl
  all_goals simp [held, earmarked, balances, transferred, native, other, first.symm, second.symm]

theorem pays_sendToTreasury :
    Pays sdk (onBank (sdk.bank.sendCoinsFromModuleToModule moduleName treasuryModuleName coin))
      state (coin.amount ≤ held sdk state moduleName)
      { out := coin.amount, treasury := coin.amount } := by
  refine pays_onBank (by rw [held, ← native]; exact law.toModule (by simp) positive)
    fun bank sent => ?_
  have balances := law.toModule_balance (by simp) positive sent
  obtain ⟨first, second, third⟩ := law.module_ne
  constructor
  case service => rfl
  all_goals simp [held, earmarked, balances, transferred, native, first, first.symm,
    second.symm, third.symm]

theorem pays_sendToInsurance :
    Pays sdk (onBank (sdk.bank.sendCoinsFromModuleToModule moduleName insuranceModuleName coin))
      state (coin.amount ≤ held sdk state moduleName)
      { out := coin.amount, insurance := coin.amount } := by
  refine pays_onBank (by rw [held, ← native]; exact law.toModule (by simp) positive)
    fun bank sent => ?_
  have balances := law.toModule_balance (by simp) positive sent
  obtain ⟨first, second, third⟩ := law.module_ne
  constructor
  case service => rfl
  all_goals simp [held, earmarked, balances, transferred, native, second, third, first.symm,
    second.symm]

theorem pays_burn :
    Pays sdk (onBank (sdk.bank.burnCoins moduleName coin)) state
      (coin.amount ≤ held sdk state moduleName) { out := coin.amount } := by
  refine pays_onBank (by rw [held, ← native]; exact law.burn positive) fun bank sent => ?_
  have balances := law.burn_balance positive sent
  obtain ⟨first, second, third⟩ := law.module_ne
  constructor
  case service => rfl
  all_goals simp [held, earmarked, balances, destroyed, native, first.symm, second.symm]

end

end

def raised (state : FeeState β) (key : List UInt8) (amount : Int) : FeeState β :=
  { state with earmarks := state.earmarks.insert (earmarkKey key defaultDenom) amount }

/-- When an earmark is raised. -/
theorem addEarmarkAmount_eq_ok {key : List UInt8} (positive : 0 < coin.amount)
    (native : coin.denom = defaultDenom) :
    addEarmarkAmount key coin state = (.ok (), after) ↔
      state.storeService = true ∧ (earmarked state key + coin.amount).natAbs < 2 ^ 256 ∧
        raised state key (earmarked state key + coin.amount) = after := by
  have named : coin.denom ≠ "" := by rw [native]; decide
  rw [addEarmarkAmount, whenPositive, if_pos positive, read_bind, ensure_bind]
  by_cases configured : state.storeService = true
  · have current : (getEarmarkAmount key coin.denom : FeeCall β Int) state =
        (.ok (earmarked state key), state) := by
      rw [getEarmarkAmount, read_bind, ensure_bind, if_pos configured, ensure_bind, if_pos named,
        native]
      rfl
    rw [if_pos configured, ensure_bind, if_pos named, bind_of_ok current, ofExcept_bind,
      SdkInt.add]
    cases added : SdkInt.checked "Int overflow" (earmarked state key + coin.amount) with
    | error reason =>
      have large : ¬(earmarked state key + coin.amount).natAbs < 2 ^ 256 := by
        intro small
        rw [checked_eq_ok_iff.mpr ⟨small, rfl⟩] at added
        contradiction
      constructor
      · intro failed
        cases (mk.inj failed).1
      · rintro ⟨_, small, _⟩
        exact absurd small large
    | ok next =>
      obtain ⟨small, rfl⟩ := checked_eq_ok_iff.mp added
      rw [native]
      constructor
      · intro done
        exact ⟨configured, small, (mk.inj done).2⟩
      · rintro ⟨_, _, rfl⟩
        rfl
  · simp [configured]

theorem earmarked_raised (state : FeeState β) (key : List UInt8) (amount : Int) :
    earmarked (raised state key amount) key = amount := by
  simp [earmarked, raised]

theorem earmarked_raised_ne {key other : List UInt8} (state : FeeState β) (amount : Int)
    (differ : earmarkKey other defaultDenom ≠ earmarkKey key defaultDenom) :
    earmarked (raised state key amount) other = earmarked state other := by
  simp [earmarked, raised, AList.lookup_insert_ne differ]

section

variable (positive : 0 < coin.amount) (native : coin.denom = defaultDenom)
include positive native

theorem pays_recordTreasuryEarmark :
    Pays sdk (recordTreasuryEarmark coin) state
      (state.storeService = true ∧
        (earmarked state treasuryEarmarkKeyPrefix + coin.amount).natAbs < 2 ^ 256)
      { treasuryMark := coin.amount } := by
  constructor
  · constructor
    · rintro ⟨_, after, done⟩
      obtain ⟨configured, small, _⟩ := (addEarmarkAmount_eq_ok positive native).mp done
      exact ⟨configured, small⟩
    · rintro ⟨configured, small⟩
      exact ⟨(), _, (addEarmarkAmount_eq_ok positive native).mpr ⟨configured, small, rfl⟩⟩
  · intro _ after done
    obtain ⟨_, _, rfl⟩ := (addEarmarkAmount_eq_ok positive native).mp done
    constructor
    case treasuryMark => exact earmarked_raised ..
    case insuranceMark =>
      rw [earmarked_raised_ne state _ (by decide)]
      exact (add_zero _).symm
    all_goals simp [held, raised]

theorem pays_recordInsuranceFundEarmark :
    Pays sdk (recordInsuranceFundEarmark coin) state
      (state.storeService = true ∧
        (earmarked state insuranceEarmarkKeyPrefix + coin.amount).natAbs < 2 ^ 256)
      { insuranceMark := coin.amount } := by
  constructor
  · constructor
    · rintro ⟨_, after, done⟩
      obtain ⟨configured, small, _⟩ := (addEarmarkAmount_eq_ok positive native).mp done
      exact ⟨configured, small⟩
    · rintro ⟨configured, small⟩
      exact ⟨(), _, (addEarmarkAmount_eq_ok positive native).mpr ⟨configured, small, rfl⟩⟩
  · intro _ after done
    obtain ⟨_, _, rfl⟩ := (addEarmarkAmount_eq_ok positive native).mp done
    constructor
    case insuranceMark => exact earmarked_raised ..
    case treasuryMark =>
      rw [earmarked_raised_ne state _ (by decide)]
      exact (add_zero _).symm
    all_goals simp [held, raised]

end

/-- The amount is left in the account, and can be recorded. -/
def Fundable (state : FeeState β) (key : List UInt8) (amount left : Int) : Prop :=
  0 < amount → amount ≤ left ∧ state.storeService = true ∧
    (earmarked state key + amount).natAbs < 2 ^ 256

/-- The validator's address decodes and may be paid. -/
def Payable (sdk : Sdk β) (blocked : List UInt8 → Prop) (validator : String) : Prop :=
  ∃ address, sdk.accAddressFromBech32 validator = .ok address ∧ ¬blocked address

section

variable (law : sdk.Lawful blocked)
include law

section

variable (positive : 0 < coin.amount) (native : coin.denom = defaultDenom)
include positive native

theorem pays_sendReward (validator : String) :
    Pays sdk (sendReward sdk coin validator) state
      (Payable sdk blocked validator ∧ coin.amount ≤ held sdk state moduleName)
      { out := coin.amount } := by
  rw [sendReward, Payable]
  cases sdk.accAddressFromBech32 validator with
  | error reason =>
    constructor
    · constructor
      · rintro ⟨_, after, done⟩
        exact nomatch (mk.inj done).1
      · rintro ⟨⟨address, given, _⟩, _⟩
        contradiction
    · intro _ after done
      exact nomatch (mk.inj done).1
  | ok address =>
    refine Pays.congr ((pays_sendToAccount law positive native address).wrapping _) ?_
    simp

/-- The rewards go through when every validator can be paid and the account covers them all. -/
theorem pays_sendRewards (validators : List String) :
    Pays sdk (sendRewards sdk coin validators) state
      ((∀ validator ∈ validators, Payable sdk blocked validator) ∧
        (validators = [] ∨ coin.amount * validators.length ≤ held sdk state moduleName))
      { out := coin.amount * validators.length } := by
  induction validators generalizing state with
  | nil =>
    rw [length_nil, Int.natCast_zero, Int.mul_zero]
    exact (pays_pure sdk state ()).congr (by simp)
  | cons validator rest ih =>
    have later (between : FeeState β) (moved : Moved sdk state between { out := coin.amount }) :
        Pays sdk (sendRewards sdk coin rest) between
          ((∀ validator ∈ rest, Payable sdk blocked validator) ∧
            (rest = [] ∨ coin.amount * rest.length ≤ held sdk state moduleName - coin.amount))
          { out := coin.amount * rest.length } :=
      ih.congr (by rw [moved.out])
    have total : coin.amount * ((validator :: rest).length : Int) =
        coin.amount + coin.amount * rest.length := by
      rw [length_cons, natCast_add, mul_add]
      omega
    have both := (pays_sendReward law positive native validator).bind
      fun _ between _ moved => later between moved
    rw [total]
    refine both.congr ?_
    rw [forall_mem_cons]
    have few : rest = [] → coin.amount * (rest.length : Int) = 0 := by
      rintro rfl
      simp
    have nonneg : 0 ≤ coin.amount * (rest.length : Int) :=
      mul_nonneg (le_of_lt positive) (natCast_nonneg _)
    constructor
    · rintro ⟨⟨payable, covered⟩, others, enough⟩
      refine ⟨⟨payable, others⟩, .inr ?_⟩
      rcases enough with none | enough
      · rw [few none]
        omega
      · omega
    · rintro ⟨⟨payable, others⟩, enough⟩
      rcases enough with none | enough
      · contradiction
      · exact ⟨⟨payable, by omega⟩, others, .inr (by omega)⟩

end

section

variable (nonneg : 0 ≤ coin.amount) (native : coin.denom = defaultDenom)
include nonneg native

theorem pays_payTreasury :
    Pays sdk (payTreasury sdk coin) state
      (Fundable state treasuryEarmarkKeyPrefix coin.amount (held sdk state moduleName))
      { out := coin.amount, treasury := coin.amount, treasuryMark := coin.amount } := by
  refine pays_whenPositive nonneg (fun positive => ?_) (fun zero => by rw [zero])
  have recorded (between : FeeState β)
      (moved : Moved sdk state between { out := coin.amount, treasury := coin.amount }) :
      Pays sdk (wrapping "failed to record treasury earmark" (recordTreasuryEarmark coin)) between
        (state.storeService = true ∧
          (earmarked state treasuryEarmarkKeyPrefix + coin.amount).natAbs < 2 ^ 256)
        { treasuryMark := coin.amount } :=
    ((pays_recordTreasuryEarmark positive native).wrapping _).congr
      (by rw [moved.service, moved.treasuryMark, add_zero])
  have both := ((pays_sendToTreasury law positive native).wrapping
    "failed to transfer treasury allocation").bind fun _ between _ moved => recorded between moved
  simpa only [Delta.add, add_zero, zero_add] using both

theorem pays_payInsurance :
    Pays sdk (payInsurance sdk coin) state
      (Fundable state insuranceEarmarkKeyPrefix coin.amount (held sdk state moduleName))
      { out := coin.amount, insurance := coin.amount, insuranceMark := coin.amount } := by
  refine pays_whenPositive nonneg (fun positive => ?_) (fun zero => by rw [zero])
  have recorded (between : FeeState β)
      (moved : Moved sdk state between { out := coin.amount, insurance := coin.amount }) :
      Pays sdk (wrapping "failed to record insurance earmark" (recordInsuranceFundEarmark coin)) between
        (state.storeService = true ∧
          (earmarked state insuranceEarmarkKeyPrefix + coin.amount).natAbs < 2 ^ 256)
        { insuranceMark := coin.amount } :=
    ((pays_recordInsuranceFundEarmark positive native).wrapping _).congr
      (by rw [moved.service, moved.insuranceMark, add_zero])
  have both := ((pays_sendToInsurance law positive native).wrapping
    "failed to transfer insurance allocation").bind fun _ between _ moved => recorded between moved
  simpa only [Delta.add, add_zero, zero_add] using both

theorem pays_burnTokens (context : String) :
    Pays sdk (whenPositive coin (wrapping context (burnTokens sdk coin))) state
      (0 < coin.amount → coin.amount ≤ held sdk state moduleName) { out := coin.amount } := by
  refine pays_whenPositive nonneg (fun positive => ?_) (fun zero => by rw [zero])
  rw [burnTokens, whenPositive, if_pos positive]
  exact ((pays_burn law positive native).wrapping _).wrapping _

theorem pays_rewards (context : String) {validators : List String} (several : validators ≠ []) :
    Pays sdk (whenPositive coin
        (wrapping context (distributeVerificationRewards sdk validators coin))) state
      (0 < coin.amount → (∀ validator ∈ validators, Payable sdk blocked validator) ∧
        coin.amount * validators.length ≤ held sdk state moduleName)
      { out := coin.amount * validators.length } := by
  refine pays_whenPositive nonneg (fun positive => ?_) (fun zero => by rw [zero, zero_mul])
  rw [distributeVerificationRewards, whenPositive, if_pos positive]
  exact ((pays_sendRewards law positive native validators).wrapping _).congr (by simp [several])

end

end

end Stages

section Checks

variable {sdk : Sdk β}

theorem checkAddresses_eq_ok {validators : List String} {index : Nat} :
    checkAddresses sdk index validators = .ok () ↔
      ∀ validator ∈ validators, ∃ address, sdk.accAddressFromBech32 validator = .ok address := by
  induction validators generalizing index with
  | nil => simp [checkAddresses]
  | cons validator rest ih =>
    rw [checkAddresses, forall_mem_cons]
    cases sdk.accAddressFromBech32 validator with
    | error reason => simp
    | ok address =>
      dsimp only
      rw [ih]
      simp

theorem checkDuplicates_eq_ok {validators seen : List String} :
    checkDuplicates sdk seen validators = .ok () ↔
      (∀ validator ∈ validators, validator ∉ seen) ∧ validators.Nodup := by
  induction validators generalizing seen with
  | nil => simp [checkDuplicates]
  | cons validator rest ih =>
    rw [checkDuplicates, ite_error_eq_ok, ih, forall_mem_cons, nodup_cons]
    constructor
    · rintro ⟨fresh, others, distinct⟩
      refine ⟨⟨fresh, fun other member again => ?_⟩, fun again => ?_, distinct⟩
      · exact others other member (mem_cons_of_mem _ again)
      · exact others validator again mem_cons_self
    · rintro ⟨⟨fresh, others⟩, absent, distinct⟩
      refine ⟨fresh, fun other member again => ?_, distinct⟩
      rcases mem_cons.mp again with rfl | before
      · exact absent member
      · exact others other member before

theorem checkDistribution_eq_ok {config : FeeDistributionConfig} {fee : Coin}
    {validators : List String} :
    checkDistribution sdk config fee validators = .ok () ↔
      0 < fee.amount ∧ validators ≠ [] ∧ validators.length ≤ 300 ∧
      (∀ validator ∈ validators, ∃ address, sdk.accAddressFromBech32 validator = .ok address) ∧
      validators.Nodup ∧ validateFeeDistribution config = .ok () ∧ fee.denom = defaultDenom := by
  rw [checkDistribution, ite_error_eq_ok, ite_error_eq_ok, ite_error_eq_ok,
    bind_unit_eq_ok, bind_unit_eq_ok, bind_unit_eq_ok, checkAddresses_eq_ok,
    checkDuplicates_eq_ok, checkConfig, mapError_eq_ok_iff, checkDenom,
    ite_error_eq_ok, not_not, not_not, length_eq_zero_iff, Nat.not_lt]
  simp only [not_mem_nil, not_false_iff, implies_true, true_and, and_true, ne_eq,
    maxValidatorsPerDistribution]

end Checks

end Pouw
