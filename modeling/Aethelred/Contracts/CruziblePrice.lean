import Aethelred.Contracts.CruzibleMoves

/- The price of a share: the vault and its share token are a pool, and each step of the vault
changes the pool as a deposit, a redemption or a donation does. -/
namespace Cruzible

open Evm Except

/-- The pool the shares are shares of. -/
def Chain.pool (chain : Chain) : Pool where
  assets := chain.vault.totalPooledAethel
  shares := chain.stAethel.totalShares

def View.pool (view : View) : Pool where
  assets := view.pooled
  shares := view.stAethel.totalShares

def Chain.worth (chain : Chain) (account : Address) : Nat :=
  chain.pool.worth (chain.stAethel.shares account)

/-- The share token keeps its books, with the vault's total in them. -/
structure View.Kept (keccak256 : List Nat → Bytes32) (view : View) : Prop where
  registered : StAethel.Registered keccak256 view.stAethel
  synced : view.stAethel.totalPooledAethel = view.pooled

/-- The view stays kept and its pool changes at a fair price. -/
structure View.Priced (keccak256 : List Nat → Bytes32) (before after : View) : Prop where
  kept : after.Kept keccak256
  change : Pool.Change before.pool after.pool

section Token

variable {keccak256 : List Nat → Bytes32} {token next : StAethel.Storage} {sender : Address}
  {amount : Nat}

theorem totals_mintShares {recipient : Address}
    (done : token.mintShares keccak256 sender recipient amount = .ok next) :
    next.totalShares = token.totalShares + amount := by
  simp only [StAethel.Storage.mintShares, StAethel.Storage.onlyRole,
    StAethel.Storage.notBlacklisted, revertIf_bind_eq_ok, checkedAdd_bind_eq_ok] at done
  obtain ⟨-, -, -, -, -, -, -, done⟩ := done
  obtain ⟨-, -, done⟩ := bind_eq_ok.mp done
  obtain rfl := ok.inj done
  rfl

theorem totals_burnShares {owner : Address}
    (done : token.burnShares keccak256 sender owner amount = .ok next) :
    amount ≤ token.totalShares ∧ next.totalShares = token.totalShares - amount := by
  simp only [StAethel.Storage.burnShares, StAethel.Storage.onlyRole, revertIf_bind_eq_ok] at done
  obtain ⟨-, -, -, -, done⟩ := done
  obtain ⟨-, -, done⟩ := bind_eq_ok.mp done
  obtain ⟨enough, done⟩ := checkedSub_bind_eq_ok.mp done
  obtain rfl := ok.inj done
  exact ⟨enough, rfl⟩

theorem totals_moveShares {owner recipient : Address}
    (done : token.moveShares keccak256 owner recipient amount = .ok next) :
    next.totalShares = token.totalShares ∧
      next.totalPooledAethel = token.totalPooledAethel := by
  obtain ⟨-, rfl⟩ | ⟨moved, -, -, rfl⟩ := StAethel.moveShares_eq_ok done
  · exact ⟨rfl, rfl⟩
  · exact ⟨rfl, rfl⟩

def StAethelCall.full : StAethelCall → StAethel.Call
  | .transfer recipient amount => .transfer recipient amount
  | .transferFrom owner recipient amount => .transferFrom owner recipient amount
  | .approve spender amount => .approve spender amount
  | .setBlacklisted account status => .setBlacklisted account status
  | .pause => .pause
  | .unpause => .unpause

theorem StAethelCall.execute_eq (env : Environment) (sender : Address) (token : StAethel.Storage)
    (call : StAethelCall) :
    call.execute env sender token = call.full.execute env.keccak256 sender token := by
  cases call <;> rfl

/-- The token's own functions leave its totals. -/
theorem totals_stAethelCall {env : Environment} {call : StAethelCall}
    (done : call.execute env sender token = .ok next) :
    next.totalShares = token.totalShares ∧
      next.totalPooledAethel = token.totalPooledAethel := by
  cases call with
  | transfer recipient amount =>
    simp only [StAethelCall.execute, StAethel.Storage.transfer, StAethel.Storage.notBlacklisted,
      StAethel.Storage.whenNotPaused, revertIf_bind_eq_ok] at done
    exact totals_moveShares done.2.2.2
  | transferFrom owner recipient amount =>
    simp only [StAethelCall.execute, StAethel.Storage.transferFrom,
      StAethel.Storage.notBlacklisted, StAethel.Storage.whenNotPaused,
      revertIf_bind_eq_ok] at done
    obtain ⟨spent, allowed, done⟩ := bind_eq_ok.mp done.2.2.2.2
    obtain ⟨allowance, rfl⟩ := StAethel.spendAllowance_eq_ok allowed
    exact (totals_moveShares done : _)
  | approve spender amount =>
    obtain ⟨-, done⟩ := revertIf_bind_eq_ok.mp done
    obtain rfl := ok.inj done
    exact ⟨rfl, rfl⟩
  | setBlacklisted account status =>
    obtain ⟨-, done⟩ := revertIf_bind_eq_ok.mp done
    obtain rfl := ok.inj done
    exact ⟨rfl, rfl⟩
  | pause =>
    obtain ⟨-, done⟩ := revertIf_bind_eq_ok.mp done
    obtain ⟨-, done⟩ := revertIf_bind_eq_ok.mp done
    obtain rfl := ok.inj done
    exact ⟨rfl, rfl⟩
  | unpause =>
    obtain ⟨-, done⟩ := revertIf_bind_eq_ok.mp done
    obtain ⟨-, done⟩ := revertIf_bind_eq_ok.mp done
    obtain rfl := ok.inj done
    exact ⟨rfl, rfl⟩

end Token

theorem pooled_initialized {env : Environment} {chain : Chain}
    (initialized : Initialized env chain) : chain.vault.totalPooledAethel = 0 := by
  obtain ⟨block, aethel, stAethel, access, treasury, -, rfl⟩ := initialized_eq initialized
  rfl

section Steps

variable {env : Environment} {chain next : Chain} {sender : Address} {amount shares : Nat}

section

variable (kept : chain.view.Kept env.keccak256)
include kept

theorem priced_stake (done : stake env sender amount chain = .ok (next, shares)) :
    chain.view.Priced env.keccak256 next.view := by
  obtain ⟨some, valued, minted, minting, same⟩ := (stake_eq_ok done).1
  have registered := kept.registered.mintShares minting
  rw [same]
  refine ⟨⟨registered.of_same rfl rfl rfl rfl, rfl⟩, ?_⟩
  have after : minted.totalShares = chain.stAethel.totalShares + chain.pool.minted amount :=
    (totals_mintShares minting).trans (congrArg _ valued)
  have worth : shares = chain.pool.minted amount := valued
  have deposit : Pool.Change chain.pool ⟨chain.vault.totalPooledAethel + amount,
      chain.stAethel.totalShares + chain.pool.minted amount⟩ := .deposit (worth ▸ some)
  rw [← after] at deposit
  exact deposit

theorem worth_eq (valued : chain.stAethel.getAethelByShares shares = .ok amount) :
    amount = chain.pool.worth shares := by
  have synced : chain.stAethel.totalPooledAethel = chain.vault.totalPooledAethel := kept.synced
  unfold StAethel.Storage.getAethelByShares at valued
  split at valued
  next none =>
    rw [Pool.worth, Chain.pool, none, Nat.div_zero]
    exact (ok.inj valued).symm
  next =>
    obtain ⟨-, valued⟩ := checkedMul_bind_eq_ok.mp valued
    rw [← ok.inj valued, synced]
    rfl

theorem priced_unstake {id : Key}
    (done : unstake env sender shares chain = .ok (next, id, amount)) :
    chain.view.Priced env.keccak256 next.view := by
  obtain ⟨valued, -, burned, burning, same⟩ := (unstake_eq_ok done).1
  have registered := kept.registered.burnShares burning
  obtain ⟨held, after⟩ := totals_burnShares burning
  rw [same]
  refine ⟨⟨registered.of_same rfl rfl rfl rfl, rfl⟩, ?_⟩
  have redeem : Pool.Change chain.pool ⟨chain.vault.totalPooledAethel - chain.pool.worth shares,
      chain.stAethel.totalShares - shares⟩ := .redeem held
  rw [← after, ← worth_eq kept valued] at redeem
  exact redeem

theorem priced_execute {function : Function} (done : function.execute env sender chain = .ok next) :
    chain.view.Priced env.keccak256 next.view := by
  cases function with
  | stake amount =>
    obtain ⟨⟨after, shares⟩, succeeded, rfl⟩ := map_eq_ok.mp done
    exact priced_stake kept succeeded
  | unstake shares =>
    obtain ⟨⟨after, id, amount⟩, succeeded, rfl⟩ := map_eq_ok.mp done
    exact priced_unstake kept succeeded
  | submitMEVRevenue attestation epoch amount =>
    rw [(submitMEVRevenue_eq_ok done).1]
    exact ⟨⟨kept.registered.of_same rfl rfl rfl rfl, rfl⟩, .donate⟩
  | _ =>
    obtain ⟨after, -, same⟩ := (effect_execute done (by simp) (by simp) (by simp)).view
    rw [same]
    exact ⟨⟨kept.registered, kept.synced⟩, .none⟩

theorem View.Kept.refl :
    chain.view.Priced env.keccak256 chain.view := ⟨kept, .none⟩

/-- Every step changes the pool at a fair price. -/
theorem priced_step (action : Action) :
    chain.view.Priced env.keccak256 (step env chain action).view := by
  cases action with
  | advance blocks seconds => exact ⟨⟨kept.registered, kept.synced⟩, .none⟩
  | call sender function =>
    simp only [step]
    cases done : function.execute env sender chain with
    | ok after => exact priced_execute kept done
    | error reason => exact kept.refl
  | aethel sender call =>
    simp only [step]
    split
    · exact kept.refl
    · exact ⟨⟨kept.registered, kept.synced⟩, .none⟩
  | stAethel sender call =>
    simp only [step]
    split
    · exact kept.refl
    · cases done : call.execute env sender chain.stAethel with
      | error reason => exact kept.refl
      | ok token =>
        obtain ⟨shares, pooled⟩ := totals_stAethelCall done
        have registered : StAethel.Registered env.keccak256 token := by
          rw [StAethelCall.execute_eq] at done
          exact kept.registered.execute done
        refine ⟨⟨registered, pooled.trans kept.synced⟩, ?_⟩
        have unchanged : Pool.Change chain.pool
            ⟨chain.vault.totalPooledAethel, token.totalShares⟩ := by
          rw [shares]
          exact .none
        exact unchanged

end

theorem kept_launched (launched : Launched env chain) : chain.view.Kept env.keccak256 := by
  obtain ⟨admin, upgrader, vault, done⟩ := launched.fresh
  refine ⟨StAethel.registered_initially done, ?_⟩
  simp only [StAethel.initializeStAethel, revertIf_bind_eq_ok] at done
  obtain ⟨-, -, -, done⟩ := done
  have empty : chain.vault.totalPooledAethel = 0 :=
    pooled_initialized launched.initialized
  simp only [Chain.view]
  rw [← ok.inj done, empty]
  rfl

theorem kept_run (launched : Launched env chain) (actions : List Action) :
    (run env chain actions).view.Kept env.keccak256 :=
  Run.invariant_of_step (fun chain : Chain => chain.view.Kept env.keccak256)
    (fun _ action kept => (priced_step kept action).kept) actions (kept_launched launched)

theorem worth_step (kept : chain.view.Kept env.keccak256) (action : Action) {account : Address}
    (unchanged : (step env chain action).stAethel.shares account =
      chain.stAethel.shares account) :
    chain.worth account ≤ (step env chain action).worth account := by
  have priced := priced_step kept action
  have remains := priced.kept.registered.shares_le account
  simp only [Chain.worth]
  rw [← unchanged]
  exact priced.change.worth_le remains

end Steps

/- The share price over whole runs of the vault, and the revenue that comes before any staker. -/

section Owned

variable {env : Environment} {chain : Chain}

/-- Revenue that counts for the stakers arrives while nobody holds shares. -/
def Action.unownedRevenue (env : Environment) (chain : Chain) : Action → Bool
  | .call sender (.submitMEVRevenue attestation epoch amount) =>
    decide (chain.stAethel.totalShares = 0 ∧ 2 ≤ amount) &&
      (submitMEVRevenue env sender attestation epoch amount chain).toOption.isSome
  | _ => false

/-- A pool with owners keeps them, unless revenue comes to none. -/
theorem owned_execute {function : Function} {sender : Address} {next : Chain}
    (kept : chain.view.Kept env.keccak256) (owned : chain.pool.Owned)
    (allowed : (Action.call sender function).unownedRevenue env chain = false)
    (done : function.execute env sender chain = .ok next) : next.pool.Owned := by
  cases function with
  | stake amount =>
    obtain ⟨⟨after, shares⟩, succeeded, rfl⟩ := map_eq_ok.mp done
    obtain ⟨some, valued, minted, minting, same⟩ := (stake_eq_ok succeeded).1
    have worth : shares = chain.pool.minted amount := valued
    have totals := totals_mintShares minting
    have deposit : Pool.Owned ⟨chain.pool.assets + amount,
        chain.pool.shares + chain.pool.minted amount⟩ := .deposit (worth ▸ some)
    rw [← worth] at deposit
    have pool : after.pool = ⟨chain.pool.assets + amount, chain.pool.shares + shares⟩ :=
      (congrArg View.pool same).trans (congrArg (Pool.mk _) totals)
    exact pool ▸ deposit
  | unstake shares =>
    obtain ⟨⟨after, id, amount⟩, succeeded, rfl⟩ := map_eq_ok.mp done
    obtain ⟨valued, -, burned, burning, same⟩ := (unstake_eq_ok succeeded).1
    obtain ⟨held, totals⟩ := totals_burnShares burning
    have redeem := Pool.Owned.redeem owned held
    rw [← worth_eq kept valued] at redeem
    have pool : after.pool = ⟨chain.pool.assets - amount, chain.pool.shares - shares⟩ :=
      (congrArg View.pool same).trans (congrArg (Pool.mk _) totals)
    exact pool ▸ redeem
  | submitMEVRevenue attestation epoch amount =>
    have pool : next.pool = ⟨chain.pool.assets + amount * MEV_STAKER_SHARE_BPS / BPS_DENOMINATOR,
        chain.pool.shares⟩ := congrArg View.pool (submitMEVRevenue_eq_ok done).1
    have through : (submitMEVRevenue env sender attestation epoch amount chain).toOption.isSome =
        true := by
      have succeeded : submitMEVRevenue env sender attestation epoch amount chain = .ok next := done
      rw [succeeded]
      rfl
    have small : chain.pool.shares = 0 → amount < 2 := by
      intro none
      by_contra large
      have unowned : (Action.call sender (.submitMEVRevenue attestation epoch amount)).unownedRevenue
          env chain = true := by
        simp only [Action.unownedRevenue, Bool.and_eq_true, decide_eq_true_eq]
        exact ⟨⟨none, Nat.not_lt.mp large⟩, through⟩
      rw [unowned] at allowed
      contradiction
    rw [pool]
    simp only [Pool.Owned, MEV_STAKER_SHARE_BPS, BPS_DENOMINATOR] at owned ⊢
    omega
  | _ =>
    obtain ⟨after, -, same⟩ := (effect_execute done (by simp) (by simp) (by simp)).view
    have pool : next.pool = chain.pool := congrArg View.pool same
    exact pool ▸ owned

/-- The same for a step. -/
theorem owned_step (kept : chain.view.Kept env.keccak256) (owned : chain.pool.Owned)
    {action : Action} (allowed : action.unownedRevenue env chain = false) :
    (step env chain action).pool.Owned := by
  cases action with
  | advance blocks seconds => exact owned
  | call sender function =>
    simp only [step]
    cases done : function.execute env sender chain with
    | ok after => exact owned_execute kept owned allowed done
    | error reason => exact owned
  | aethel sender call =>
    simp only [step]
    split <;> exact owned
  | stAethel sender call =>
    simp only [step]
    split
    · exact owned
    · cases done : call.execute env sender chain.stAethel with
      | error reason => exact owned
      | ok token =>
        have totals := (totals_stAethelCall done).1
        have same : Pool.mk chain.vault.totalPooledAethel token.totalShares = chain.pool := by
          rw [totals]
          rfl
        have still : Pool.Owned ⟨chain.vault.totalPooledAethel, token.totalShares⟩ :=
          same ▸ owned
        exact still

theorem owned_launched (launched : Launched env chain) : chain.pool.Owned := by
  obtain ⟨admin, upgrader, vault, done⟩ := launched.fresh
  simp only [StAethel.initializeStAethel, revertIf_bind_eq_ok] at done
  obtain ⟨-, -, -, done⟩ := done
  simp only [Pool.Owned, Chain.pool]
  rw [pooled_initialized launched.initialized, ← ok.inj done]
  exact ⟨fun _ => rfl, fun _ => rfl⟩

theorem owned_run (launched : Launched env chain) {actions : List Action}
    (along : Run.Along (step env)
      (fun chain action => action.unownedRevenue env chain = false) chain actions) :
    (run env chain actions).pool.Owned := by
  have both := Run.invariant
    (fun chain : Chain => chain.view.Kept env.keccak256 ∧ chain.pool.Owned)
    (fun _ action allowed before =>
      ⟨(priced_step before.1 action).kept, owned_step before.1 before.2 allowed⟩)
    ⟨kept_launched launched, owned_launched launched⟩ along
  exact both.2

end Owned

section FirstStake

variable {env : Environment} {chain : Chain} {user : Address} {amount : Nat}

theorem pull_ne_zeroAmount : pull env chain user amount ≠ .error .ZeroAmount := by
  intro failed
  unfold pull at failed
  cases moved : chain.aethel.transferFrom env.address user env.address amount with
  | ok token =>
    rw [moved] at failed
    exact nomatch failed
  | error reason =>
    rw [moved] at failed
    exact nomatch failed

theorem syncPool_ne_zeroAmount : syncPool env chain ≠ .error .ZeroAmount := by
  intro failed
  unfold syncPool at failed
  cases synced : chain.stAethel.setTotalPooledAethel env.address chain.vault.totalPooledAethel with
  | ok token =>
    rw [synced] at failed
    exact nomatch failed
  | error reason =>
    rw [synced] at failed
    exact nomatch failed

/-- The first stake is never too small for a share. -/
theorem stake_ne_zeroAmount (empty : chain.vault.totalPooledAethel = 0) (some : 0 < amount) :
    stake env user amount chain ≠ .error .ZeroAmount := by
  intro failed
  simp only [stake, whenNotPaused, revertIf_bind_eq_error, checkedAdd_bind_eq_error,
    reduceCtorEq, and_false, false_or, some.ne', false_and] at failed
  obtain ⟨-, -, -, -, -, -, failed⟩ := failed
  obtain failed | ⟨pulled, received, failed⟩ := bind_eq_error.mp failed
  · exact pull_ne_zeroAmount failed
  obtain ⟨token, -, rfl⟩ := pull_eq_ok received
  have valued : sharesFor { chain with
      aethel := token
      vault.stakePerEpoch := Function.update chain.vault.stakePerEpoch chain.vault.currentEpoch
        (chain.vault.stakePerEpoch chain.vault.currentEpoch + amount) } amount = .ok amount :=
    if_pos empty
  obtain failed | ⟨worth, exact, failed⟩ := bind_eq_error.mp failed
  · cases valued.symm.trans failed
  obtain rfl := ok.inj (valued.symm.trans exact)
  simp only [revertIf_bind_eq_error, checkedAdd_bind_eq_error, reduceCtorEq, and_false, false_or,
    some.ne', false_and] at failed
  obtain ⟨-, -, failed⟩ := failed
  obtain failed | ⟨minted, -, failed⟩ := bind_eq_error.mp failed
  · cases minting : chain.stAethel.mintShares env.keccak256 env.address user amount with
    | ok minted =>
      rw [minting] at failed
      cases failed
    | error reason =>
      rw [minting] at failed
      cases failed
  obtain failed | ⟨synced, -, failed⟩ := bind_eq_error.mp failed
  · exact syncPool_ne_zeroAmount failed
  · cases failed

end FirstStake

/-- What the price of shares promises in a state of the vault. -/
structure FairlyPriced (env : Environment) (chain : Chain) : Prop where
  owned : chain.vault.totalPooledAethel = 0 ↔ total id chain.stAethel.shares = 0
  synced : chain.stAethel.totalPooledAethel = chain.vault.totalPooledAethel
  kept : ∀ action account,
    (step env chain action).stAethel.shares account = chain.stAethel.shares account →
      chain.stAethel.shares account * chain.vault.totalPooledAethel /
          chain.stAethel.totalShares ≤
        (step env chain action).stAethel.shares account *
            (step env chain action).vault.totalPooledAethel /
          (step env chain action).stAethel.totalShares
  first : total id chain.stAethel.shares = 0 → ∀ user amount, 0 < amount →
    stake env user amount chain ≠ .error .ZeroAmount

section Runs

variable {env : Environment} {chain : Chain}

/-- Without revenue for nobody, the price of shares keeps its promises in every run. -/
theorem run_fairlyPriced (launched : Launched env chain) (actions : List Action)
    (along : Run.Along (step env)
      (fun chain action => action.unownedRevenue env chain = false) chain actions) :
    FairlyPriced env (run env chain actions) := by
  have kept := kept_run launched actions
  have owned : (run env chain actions).vault.totalPooledAethel = 0 ↔
      total id (run env chain actions).stAethel.shares = 0 := by
    have sum : (run env chain actions).stAethel.totalShares =
        total id (run env chain actions).stAethel.shares := kept.registered.sum
    rw [← sum]
    exact owned_run launched along
  exact {
    owned
    synced := kept.synced
    kept := fun action account unchanged => worth_step kept action unchanged
    first := fun none user amount some => stake_ne_zeroAmount (owned.mpr none) some }

/-- Revenue after the first stake is no trouble. -/
theorem run_fairlyPriced_local :
    (run localnet localVault [.call 0xa (.grantRole ORACLE_ROLE 7), .call 7 (.stake MIN_STAKE),
        .call 7 (.submitMEVRevenue ⟨true, [1, 10], 0⟩ 1 10)]).vault.totalPooledAethel =
        MIN_STAKE + 9 ∧
      FairlyPriced localnet (run localnet localVault [.call 0xa (.grantRole ORACLE_ROLE 7),
        .call 7 (.stake MIN_STAKE), .call 7 (.submitMEVRevenue ⟨true, [1, 10], 0⟩ 1 10)]) :=
  ⟨by decide +kernel, run_fairlyPriced localVault_launched _ (by decide +kernel)⟩

/-- Address 7 becomes the oracle of the local vault and submits ten wei before anybody stakes. -/
def earlyRevenue : List Action :=
  [.call 0xa (.grantRole ORACLE_ROLE 7), .call 7 (.submitMEVRevenue ⟨true, [1, 10], 0⟩ 1 10)]

/-- Ten wei of revenue before the first stake shut every staker out. -/
theorem earlyRevenue_not_fairlyPriced :
    Launched localnet localVault ∧ ¬FairlyPriced localnet (run localnet localVault earlyRevenue) ∧
      stake localnet 8 MIN_STAKE (run localnet localVault earlyRevenue) = .error .ZeroAmount := by
  refine ⟨localVault_launched, fun priced => ?_, by decide +kernel⟩
  have kept := kept_run localVault_launched earlyRevenue
  have shares : (run localnet localVault earlyRevenue).stAethel.totalShares = 0 := by
    decide +kernel
  have pooled : (run localnet localVault earlyRevenue).vault.totalPooledAethel = 9 := by
    decide +kernel
  have empty := priced.owned.mpr (kept.registered.sum.symm.trans shares)
  rw [pooled] at empty
  contradiction

end Runs

end Cruzible
