import Aethelred.Vm.Staking

/- Runs of the staking manager with its bank. As long as no slash cuts into what is unbonding, the
stakes add up to the total, every stake is locked, and a withdrawal takes off what it pays. -/
namespace Vm.Economy

open Go Attempt StakingManager Nat Bank

variable {economy after : Economy} {staker other : Address} {info : StakeInfo} {amount : Nat}
  {ctx : BlockContext}

/-- What happens to stakes. -/
inductive StakingCall
  | stake (staker : Address) (amount : Nat) (role : StakeRole)
  | unstake (staker : Address) (amount : Nat) (ctx : BlockContext)
  | withdraw (staker : Address) (ctx : BlockContext)
  | slashFor (offense : Offense) (staker : Address)
  | endBlock (ctx : BlockContext)

def step (economy : Economy) : StakingCall → Economy
  | .stake staker amount role => (stake staker amount role economy).2
  | .unstake staker amount ctx => (onStaking (unstake staker amount ctx) economy).2
  | .withdraw staker ctx => (withdraw staker ctx economy).2
  | .slashFor offense staker => (slashFor offense staker economy).2
  | .endBlock ctx => { economy with staking := economy.staking.endBlock ctx }

def penalty (economy : Economy) (offense : Offense) (info : StakeInfo) (staker : Address) : Nat :=
  min (mulU128 info.staked (offense.rateBps economy.staking.config.slashing) / 10000)
    (economy.bank.getLockedBalance staker)

/-- A slash leaves the staker what is unbonding. -/
def Spares (economy : Economy) : StakingCall → Prop
  | .slashFor offense staker => ∀ info ∈ economy.staking.stakers.lookup staker,
      info.unbonding + economy.penalty offense info staker ≤ info.staked
  | _ => True

instance (economy : Economy) (call : StakingCall) : Decidable (economy.Spares call) := by
  cases call <;> unfold Spares <;> infer_instance

/-- The totals match, and every stake is locked in the bank. -/
structure Consistent (economy : Economy) : Prop where
  total : economy.staking.totalStaked = economy.staking.stakers.sum (·.staked)
  bonded : ∀ staker info, economy.staking.stakers.lookup staker = some info →
    info.unbonding ≤ info.staked
  locked : ∀ staker info, economy.staking.stakers.lookup staker = some info →
    info.staked ≤ economy.bank.getLockedBalance staker

/-- A withdrawal takes what it pays off the stake, the total and the lock, or changes nothing. -/
def WithdrawsExactly (economy : Economy) : Prop :=
  ∀ staker ctx, match withdraw staker ctx economy with
    | (.ok amount, after) =>
      Map.share (·.staked) (after.staking.stakers.lookup staker) + amount =
          Map.share (·.staked) (economy.staking.stakers.lookup staker) ∧
        after.staking.totalStaked + amount = economy.staking.totalStaked ∧
        after.bank.getLockedBalance staker + amount = economy.bank.getLockedBalance staker
    | (.error _, after) => after = economy

theorem Consistent.locked_insert {bank : Bank} (consistent : economy.Consistent)
    (locked : info.staked ≤ bank.getLockedBalance staker) (elsewhere : ∀ other, other ≠ staker →
      bank.getLockedBalance other = economy.bank.getLockedBalance other) (other : Address)
    (found : StakeInfo)
    (present : (economy.staking.stakers.insert staker info).lookup other = some found) :
    found.staked ≤ bank.getLockedBalance other := by
  rw [Map.lookup_insert_eq] at present
  split at present
  · rename_i same
    cases present
    rw [same]
    exact locked
  · rename_i differ
    rw [elsewhere other differ]
    exact consistent.locked other found present

theorem Consistent.insert (consistent : economy.Consistent)
    (total : after.staking.totalStaked + Map.share (·.staked) (economy.staking.stakers.lookup staker) =
      economy.staking.totalStaked + info.staked)
    (stakers : after.staking.stakers = economy.staking.stakers.insert staker info)
    (bonded : info.unbonding ≤ info.staked)
    (locked : info.staked ≤ after.bank.getLockedBalance staker)
    (elsewhere : ∀ other, other ≠ staker →
      after.bank.getLockedBalance other = economy.bank.getLockedBalance other) :
    after.Consistent := by
  refine ⟨?_, fun other found present => ?_, ?_⟩
  · have sum := Map.sum_insert economy.staking.stakers staker info (·.staked)
    have before := consistent.total
    rw [stakers]
    omega
  · rw [stakers] at present
    exact Map.forall_insert (P := fun _ held => held.unbonding ≤ held.staked) bonded
      consistent.bonded other found present
  · rw [stakers]
    exact consistent.locked_insert locked elsewhere

theorem sum_staked_le {bank : Bank} (sound : bank.Sound) {stakers : Map Address StakeInfo}
    (locked : ∀ staker info, stakers.lookup staker = some info →
      info.staked ≤ bank.getLockedBalance staker) : stakers.sum (·.staked) ≤ MAX_U128 := by
  refine le_trans ?_ (le_trans sound.issued sound.supply)
  refine Map.sum_le_sum fun key => ?_
  rw [share_lookup]
  cases present : stakers.lookup key with
  | none => exact zero_le _
  | some info => exact le_trans (locked key info present) (sound.covered key)

section

variable (consistent : economy.Consistent)
include consistent

theorem Consistent.share_le (staker : Address) :
    Map.share (·.staked) (economy.staking.stakers.lookup staker) ≤
      economy.bank.getLockedBalance staker := by
  cases present : economy.staking.stakers.lookup staker with
  | none => exact zero_le _
  | some info => exact consistent.locked staker info present

/-- New stake is locked. -/
theorem Consistent.addStake {bank : Bank} (sound : bank.Sound)
    (relocked : Relocked economy.bank bank staker)
    (more : bank.getLockedBalance staker = economy.bank.getLockedBalance staker + amount)
    (role : StakeRole) : Consistent ⟨economy.staking.addStake staker amount role, bank⟩ := by
  have held := consistent.share_le staker
  have covered := sound.backed.covered staker
  have fits := sound.backed.fits staker
  unfold StakingManager.addStake
  generalize opened : (economy.staking.stakers.lookup staker).getD
    (.new staker role 0 economy.staking.currentBlock) = info
  have staked : info.staked = Map.share (·.staked) (economy.staking.stakers.lookup staker) := by
    rw [← opened]
    cases economy.staking.stakers.lookup staker <;> rfl
  have bonded : info.unbonding ≤ info.staked := by
    rw [← opened]
    cases present : economy.staking.stakers.lookup staker with
    | none => exact zero_le _
    | some info => exact consistent.bonded staker info present
  have plain : saturatingAdd info.staked amount = info.staked + amount :=
    saturatingAdd_eq (by omega)
  simp only [plain]
  have backed : info.staked + amount ≤ bank.getLockedBalance staker := by omega
  -- The new total still fits, being at most the tokens in circulation.
  have sum := Map.sum_insert economy.staking.stakers staker
    { info with staked := info.staked + amount } (·.staked)
  have total := consistent.total
  have bound : Map.sum (economy.staking.stakers.insert staker
      { info with staked := info.staked + amount }) (·.staked) ≤ MAX_U128 :=
    sum_staked_le sound (consistent.locked_insert backed relocked.elsewhere)
  simp only at sum bound
  have exactly : saturatingAdd economy.staking.totalStaked amount =
      economy.staking.totalStaked + amount := saturatingAdd_eq (by omega)
  simp only [exactly]
  refine consistent.insert ?_ rfl ?_ backed relocked.elsewhere
  · simp only
    omega
  · simp only
    omega

theorem Consistent.stake (sound : economy.bank.Sound)
    (staker : Address) (amount : Nat) (role : StakeRole) :
    (stake staker amount role economy).2.Consistent ∧
      (stake staker amount role economy).2.bank.Sound := by
  obtain ⟨reason, bank, failed, same | refused⟩ | ⟨bank, -, locked, done⟩ :=
    stake_cases staker amount role economy
  · rw [failed, same]
    exact ⟨consistent, sound⟩
  · rw [failed, eq_of_lock_error refused]
    exact ⟨consistent, sound⟩
  · have effect := effect_lock sound staker amount
    rw [locked] at effect
    have sound' : bank.Sound := effect.sound sound sound.supply
    obtain ⟨reason, failed⟩ | ⟨other, again, backed, relocked, more⟩ :=
      lock_spec sound.backed staker amount
    · rw [locked] at failed
      cases congrArg Prod.fst failed
    · rw [locked] at again
      cases again
      rw [done]
      exact ⟨consistent.addStake sound' relocked more role, sound'⟩

theorem Consistent.unstake (staker : Address) (amount : Nat) (ctx : BlockContext) :
    (onStaking (unstake staker amount ctx) economy).2.Consistent := by
  rw [onStaking_apply]
  obtain ⟨reason, failed⟩ | ⟨info, present, -, enough, done⟩ :=
    unstake_cases staker amount ctx economy.staking
  · rw [failed]
    exact consistent
  · rw [done]
    have bonded := consistent.bonded staker info present
    have locked := consistent.locked staker info present
    have held : Map.share (·.staked) (economy.staking.stakers.lookup staker) = info.staked :=
      stakeOf_eq present
    simp only [saturatingSub] at enough
    refine consistent.insert ?_ rfl ?_ locked fun _ _ => rfl
    · rw [held]
    · refine le_trans (saturatingAdd_le _ _) ?_
      change info.unbonding + amount ≤ info.staked
      omega

section

variable (sound : economy.bank.Sound)
include sound

theorem Consistent.withdraw_cases (staker : Address) (ctx : BlockContext) :
    (∃ reason, withdraw staker ctx economy = (.error reason, economy)) ∨
    ∃ info bank, economy.staking.stakers.lookup staker = some info ∧
      Relocked economy.bank bank staker ∧ bank.Sound ∧
      bank.getLockedBalance staker + info.unbonding = economy.bank.getLockedBalance staker ∧
      withdraw staker ctx economy =
        (.ok info.unbonding, ⟨withdrawn economy.staking staker info, bank⟩) := by
  obtain failed | ⟨info, present, positive, done⟩ := Economy.withdraw_cases staker ctx economy
  · exact .inl failed
  · have bonded := consistent.bonded staker info present
    have locked := consistent.locked staker info present
    have effect := effect_unlock sound staker info.unbonding
    obtain ⟨bank, paid, backed, relocked, less⟩ :=
      unlock_of_le sound.backed positive (le_trans bonded locked)
    rw [paid] at effect done
    exact .inr ⟨info, bank, present, relocked, effect.sound sound sound.supply, less, done⟩

theorem Consistent.withdraw (staker : Address) (ctx : BlockContext) :
    (withdraw staker ctx economy).2.Consistent ∧ (withdraw staker ctx economy).2.bank.Sound := by
  obtain ⟨reason, failed⟩ | ⟨info, bank, present, relocked, sound', less, done⟩ :=
    consistent.withdraw_cases sound staker ctx
  · rw [failed]
    exact ⟨consistent, sound⟩
  · rw [done]
    refine ⟨?_, sound'⟩
    have bonded := consistent.bonded staker info present
    have locked := consistent.locked staker info present
    have total := consistent.total
    have part := Map.share_le_sum economy.staking.stakers staker (·.staked)
    have held : Map.share (·.staked) (economy.staking.stakers.lookup staker) = info.staked :=
      stakeOf_eq present
    refine consistent.insert ?_ rfl (zero_le _) ?_ relocked.elsewhere
    · simp only [withdrawn, saturatingSub]
      omega
    · simp only [saturatingSub]
      omega

theorem Consistent.withdrawsExactly : economy.WithdrawsExactly := by
  intro staker ctx
  obtain ⟨reason, failed⟩ | ⟨info, bank, present, _, _, less, done⟩ :=
    consistent.withdraw_cases sound staker ctx
  · rw [failed]
  · rw [done]
    have bonded := consistent.bonded staker info present
    have total := consistent.total
    have part := Map.share_le_sum economy.staking.stakers staker (·.staked)
    simp only [withdrawn, AList.lookup_insert, present, Map.share_some, saturatingSub] at part ⊢
    refine ⟨?_, ?_, less⟩
    · omega
    · omega

/-- A slash that spares the unbonding stake keeps both books consistent. -/
theorem Consistent.slashFor
    {offense : Offense} {staker : Address} (spares : economy.Spares (.slashFor offense staker)) :
    (slashFor offense staker economy).2.Consistent ∧
      (slashFor offense staker economy).2.bank.Sound := by
  obtain ⟨reason, failed⟩ | ⟨info, bank, taken, rateBps, present, rate, slashed, done⟩ :=
    slashFor_cases offense staker economy
  · rw [failed]
    exact ⟨consistent, sound⟩
  · rw [done]
    have left := spares info present
    have total := consistent.total
    have locked := consistent.locked staker info present
    have part := Map.share_le_sum economy.staking.stakers staker (·.staked)
    have held : Map.share (·.staked) (economy.staking.stakers.lookup staker) = info.staked :=
      stakeOf_eq present
    have effect := effect_slash sound staker (mulU128 info.staked rateBps / 10000)
    rw [penalty, ← rate] at left
    rw [slashed] at effect
    obtain ⟨reason, failed⟩ | ⟨other, again, elsewhere, less⟩ :=
      slash_spec staker (mulU128 info.staked rateBps / 10000)
    · rw [slashed] at failed
      cases congrArg Prod.fst failed
    · rw [slashed] at again
      cases again
      refine ⟨?_, effect.sound sound sound.supply⟩
      refine consistent.insert ?_ rfl ?_ ?_ elsewhere
      · change saturatingSub economy.staking.totalStaked _ + _ = _
        simp only [punished, saturatingSub]
        omega
      · simp only [punished, saturatingSub]
        omega
      · change _ ≤ bank.getLockedBalance staker
        simp only [punished, saturatingSub]
        omega

end

end

theorem staked_unjail (ctx : BlockContext) (info : StakeInfo) :
    (unjail ctx info).staked = info.staked ∧ (unjail ctx info).unbonding = info.unbonding := by
  unfold unjail
  split <;> exact ⟨rfl, rfl⟩

theorem Consistent.endBlock (consistent : economy.Consistent) (ctx : BlockContext) :
    Consistent { economy with staking := economy.staking.endBlock ctx } where
  total := by
    refine consistent.total.trans (Eq.symm ?_)
    exact Map.sum_mapValues economy.staking.stakers fun info => (staked_unjail ctx info).1
  bonded staker info present := by
    rw [StakingManager.endBlock, Map.lookup_mapValues, Option.map_eq_some_iff] at present
    obtain ⟨before, found, rfl⟩ := present
    rw [(staked_unjail ctx before).1, (staked_unjail ctx before).2]
    exact consistent.bonded staker before found
  locked staker info present := by
    rw [StakingManager.endBlock, Map.lookup_mapValues, Option.map_eq_some_iff] at present
    obtain ⟨before, found, rfl⟩ := present
    rw [(staked_unjail ctx before).1]
    exact consistent.locked staker before found

theorem consistent_step (call : StakingCall) (spares : economy.Spares call)
    (kept : economy.Consistent ∧ economy.bank.Sound) :
    (economy.step call).Consistent ∧ (economy.step call).bank.Sound := by
  obtain ⟨consistent, sound⟩ := kept
  cases call with
  | stake staker amount role => exact consistent.stake sound staker amount role
  | unstake staker amount ctx => exact ⟨consistent.unstake staker amount ctx, sound⟩
  | withdraw staker ctx => exact consistent.withdraw sound staker ctx
  | slashFor offense staker => exact consistent.slashFor sound spares
  | endBlock ctx => exact ⟨consistent.endBlock ctx, sound⟩

theorem consistent_new (config : StakingConfig) (bank : Bank) : Consistent ⟨.new config, bank⟩ where
  total := rfl
  bonded _ _ present := by cases present
  locked _ _ present := by cases present

/-- In every run from a new manager and a sound bank whose slashes all leave what is unbonding. -/
theorem run_consistent (config : StakingConfig) (bank : Bank) (calls : List StakingCall)
    (sound : bank.Sound) (spares : Run.Along step Spares ⟨.new config, bank⟩ calls) :
    (Run.exec step ⟨.new config, bank⟩ calls).Consistent ∧
      (Run.exec step ⟨.new config, bank⟩ calls).WithdrawsExactly := by
  have kept := Run.invariant (fun economy => economy.Consistent ∧ economy.bank.Sound)
    (fun _ call spares kept => consistent_step call spares kept)
    ⟨consistent_new config bank, sound⟩ spares
  exact ⟨kept.1, kept.1.withdrawsExactly kept.2⟩

def fundedBank : Bank := (new {}).step (.mint 1 1000000000000000000000000)

theorem fundedBank_sound : fundedBank.Sound := by
  have sound : (new {}).Sound := sound_new (by decide)
  have fits : MintFits (new {}) (.mint 1 1000000000000000000000000) := by decide +kernel
  exact (effect_execute sound fits).sound sound fits

def unbondedPart : List StakingCall :=
  [.stake 1 2000000000000000000 .Validator, .unstake 1 1000000000000000000 { timestamp := 1000 },
    .slashFor .slaViolation 1, .endBlock { height := 2, timestamp := 2000 },
    .withdraw 1 { timestamp := 2000 }]

theorem run_consistent_part :
    fundedBank.Sound ∧
      Run.Along step Spares ⟨.new .devnet, fundedBank⟩ unbondedPart ∧
      (Run.exec step ⟨.new .devnet, fundedBank⟩ unbondedPart).Consistent ∧
      (Run.exec step ⟨.new .devnet, fundedBank⟩ unbondedPart).WithdrawsExactly := by
  have spares : Run.Along step Spares ⟨.new .devnet, fundedBank⟩ unbondedPart := by decide +kernel
  exact ⟨fundedBank_sound, spares, run_consistent _ _ _ fundedBank_sound spares⟩

def unbondedWhole : List StakingCall :=
  [.stake 1 2000000000000000000 .Validator, .unstake 1 2000000000000000000 { timestamp := 1000 },
    .slashFor .slaViolation 1]

/-- The slash leaves less staked than is unbonding. -/
theorem unbondedWhole_not_consistent :
    fundedBank.Sound ∧
      ¬((Run.exec step ⟨.new .devnet, fundedBank⟩ unbondedWhole).Consistent ∧
        (Run.exec step ⟨.new .devnet, fundedBank⟩ unbondedWhole).WithdrawsExactly) := by
  refine ⟨fundedBank_sound, fun kept => ?_⟩
  have slashed : ∃ info, (Run.exec step ⟨.new .devnet, fundedBank⟩
      unbondedWhole).staking.stakers.lookup 1 = some info ∧ info.staked < info.unbonding := by
    decide +kernel
  obtain ⟨info, present, short⟩ := slashed
  exact Nat.not_le_of_lt short (kept.1.bonded 1 info present)

end Vm.Economy
