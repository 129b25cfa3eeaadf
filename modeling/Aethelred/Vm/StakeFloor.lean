import Aethelred.Vm.Kernel
import Aethelred.Vm.StakingRun

/- What a withdrawal leaves staked, against the minimum of the role. -/
namespace Vm.SystemKernel

open Go Attempt Economy StakingManager

variable {kernel : SystemKernel} {staker : Address} {info : StakeInfo} {call : KernelCall}

/-- A staker has nothing staked, or at least the minimum of its role. -/
def Floored (staker : Address) (kernel : SystemKernel) : Prop :=
  ∀ info ∈ kernel.record staker, info.staked = 0 ∨ kernel.config.minStake info.role ≤ info.staked

instance : DecidablePred (Floored staker) := fun kernel =>
  inferInstanceAs (Decidable (∀ info ∈ kernel.record staker, _))

/-- A withdrawal leaves the minimum stake or nothing. -/
def WithdrawsFloored (staker : Address) (kernel : SystemKernel) : Prop :=
  ∀ amount after, kernel.execute (.WithdrawStake staker) = (.ok (.Withdrawn staker amount), after) →
    after.Floored staker

/-- Together with what is unbonding already, an unstake leaves nothing or at least the minimum; so
does a stake on top of what is all unbonding, whichever role it names. The staker is not slashed. -/
def Cautious (staker : Address) (kernel : SystemKernel) : KernelCall → Prop
  | .execute (.Stake other amount role) => other = staker →
      kernel.config.minStake role ≤ amount →
      amount ≤ (kernel.economy.bank.account staker).available →
        (kernel.opened staker role).staked + amount ≤ MAX_U128 ∧
          ((kernel.opened staker role).staked = (kernel.opened staker role).unbonding →
            kernel.config.minStake (kernel.opened staker role).role ≤ amount)
  | .execute (.Unstake other amount) => other = staker → ∀ info ∈ kernel.record staker,
      info.unbonding + amount ≤ info.staked → info.staked = info.unbonding + amount ∨
        kernel.config.minStake info.role ≤ info.staked - info.unbonding - amount
  | .slashFor _ other => other ≠ staker
  | _ => True

instance : DecidablePred (Cautious staker kernel)
  | .execute (.Stake ..) => inferInstanceAs (Decidable (_ → _ → _ → _ ∧ _))
  | .execute (.Unstake ..) => inferInstanceAs (Decidable (_ → ∀ info ∈ _, _))
  | .slashFor _ other => inferInstanceAs (Decidable (¬other = staker))
  | .beginBlock _ | .endBlock _ | .execute (.WithdrawStake _) | .elsewhere _ => .isTrue trivial

/-- What is not unbonding is nothing, or at least a minimum. -/
structure Keeps (minimum : Nat) (info : StakeInfo) : Prop where
  fits : info.staked ≤ MAX_U128
  bonded : info.unbonding ≤ info.staked
  floor : info.staked = info.unbonding ∨ minimum ≤ info.staked - info.unbonding

theorem Keeps.unjail {minimum : Nat} (keeps : Keeps minimum info) (ctx : BlockContext) :
    Keeps minimum (unjail ctx info) := by
  obtain ⟨staked, unbonding⟩ := staked_unjail ctx info
  constructor
  · rw [staked]
    exact keeps.fits
  · rw [staked, unbonding]
    exact keeps.bonded
  · rw [staked, unbonding]
    exact keeps.floor

theorem role_unjail (ctx : BlockContext) (info : StakeInfo) :
    (unjail ctx info).role = info.role := by
  unfold StakingManager.unjail
  split <;> rfl

section

variable {minimum amount : Nat} (keeps : Keeps minimum info)
include keeps

theorem Keeps.stake
    (fits : info.staked + amount ≤ MAX_U128)
    (opens : info.staked = info.unbonding → minimum ≤ amount) :
    Keeps minimum { info with staked := saturatingAdd info.staked amount } := by
  have bonded := keeps.bonded
  have plain : saturatingAdd info.staked amount = info.staked + amount := saturatingAdd_eq fits
  rw [plain]
  constructor
  · exact fits
  · show info.unbonding ≤ info.staked + amount
    omega
  · right
    show minimum ≤ info.staked + amount - info.unbonding
    cases keeps.floor with
    | inl nothing =>
      have enough := opens nothing
      omega
    | inr floor => omega

theorem Keeps.unstake (complete : Nat)
    (enough : info.unbonding + amount ≤ info.staked) (left : info.staked = info.unbonding + amount ∨
      minimum ≤ info.staked - info.unbonding - amount) :
    Keeps minimum { info with
      unbonding := saturatingAdd info.unbonding amount
      unbondingCompleteTime := complete } := by
  have plain : saturatingAdd info.unbonding amount = info.unbonding + amount :=
    saturatingAdd_eq (Nat.le_trans enough keeps.fits)
  rw [plain]
  refine ⟨keeps.fits, enough, left.imp_right fun floor => ?_⟩
  show minimum ≤ info.staked - (info.unbonding + amount)
  omega

end

theorem Keeps.withdraw {minimum : Nat} (keeps : Keeps minimum info) :
    Keeps minimum { info with
      staked := saturatingSub info.staked info.unbonding
      unbonding := 0
      unbondingCompleteTime := 0 } := by
  refine ⟨Nat.le_trans (Nat.sub_le _ _) keeps.fits, Nat.zero_le _,
    keeps.floor.imp (fun nothing => ?_) fun floor => floor⟩
  show info.staked - info.unbonding = 0
  omega

/-- What a staker has staked, apart from what is unbonding, is nothing or at least the minimum of
its role. -/
def Kept (staker : Address) (kernel : SystemKernel) : Prop :=
  ∀ info, kernel.record staker = some info → Keeps (kernel.config.minStake info.role) info

section

variable (kept : kernel.Kept staker)
include kept

theorem Kept.opened (role : StakeRole) :
    Keeps (kernel.config.minStake (kernel.opened staker role).role)
      (kernel.opened staker role) := by
  unfold SystemKernel.opened
  cases present : kernel.record staker with
  | none => exact ⟨Nat.zero_le _, Nat.zero_le _, .inl rfl⟩
  | some info => exact kept info present

/-- A cautious call keeps the floor. -/
theorem Kept.step (cautious : kernel.Cautious staker call) :
    (kernel.step call).Kept staker := by
  intro info present
  have writes := records_step kernel staker call
  rw [config_step]
  rw [present] at writes
  generalize recorded : some info = record at writes
  cases writes with
  | kept => exact kept info recorded.symm
  | staked enough funded =>
    cases recorded
    obtain ⟨fits, opens⟩ := cautious rfl enough funded
    exact (kept.opened _).stake fits opens
  | unstaked found enough complete =>
    cases recorded
    have keeps := kept _ found
    have bonded := keeps.bonded
    have room : _ ≤ _ - _ := enough
    have covered := Nat.add_le_of_le_sub' bonded room
    exact keeps.unstake complete covered (cautious rfl _ found covered)
  | withdrawn found =>
    cases recorded
    exact (kept _ found).withdraw
  | slashed found done => exact absurd rfl cautious
  | unjailed =>
    obtain ⟨before, found, rfl⟩ := Option.map_eq_some_iff.mp recorded.symm
    rw [role_unjail]
    exact (kept before found).unjail _

theorem Kept.withdrawsFloored : kernel.WithdrawsFloored staker := by
  intro amount after done info present
  rw [execute_withdrawStake] at done
  obtain ⟨reason, failed⟩ | ⟨before, found, -, took⟩ :=
    withdraw_cases staker kernel.context kernel.economy
  · rw [failed] at done
    cases congrArg Prod.fst done
  · rw [took] at done
    obtain rfl := congrArg Prod.snd done
    obtain rfl := Option.some.inj ((AList.lookup_insert _).symm.trans present)
    exact ((kept before found).withdraw).floor.imp (fun nothing => nothing) fun floor => floor

end

/-- In every run in which a staker is cautious, a withdrawal leaves it nothing or the minimum. -/
theorem run_withdrawsFloored (config : StakingConfig) (bank : Bank) (staker : Address)
    (calls : List KernelCall)
    (cautious : Run.Along step (Cautious staker) (fromGenesis config bank) calls) :
    (Run.exec step (fromGenesis config bank) calls).WithdrawsFloored staker := by
  have kept : (Run.exec step (fromGenesis config bank) calls).Kept staker :=
    Run.invariant (Kept staker) (fun _ _ cautious kept => kept.step cautious)
      (fun _ present => nomatch present) cautious
  exact kept.withdrawsFloored

def unstakedTwice (first second : Nat) : List KernelCall :=
  [.beginBlock { height := 1, timestamp := 1000 },
    .execute (.Stake 1 3000000000000000000 .Validator), .execute (.Unstake 1 first),
    .execute (.Unstake 1 second), .endBlock 0, .beginBlock { height := 2, timestamp := 2000 }]

theorem run_withdrawsFloored_devnet :
    Run.Along step (Cautious 1) (fromGenesis .devnet fundedBank)
        (unstakedTwice 1500000000000000000 500000000000000000) ∧
      (Run.exec step (fromGenesis .devnet fundedBank)
        (unstakedTwice 1500000000000000000 500000000000000000)).WithdrawsFloored 1 := by
  have cautious : Run.Along step (Cautious 1) (fromGenesis .devnet fundedBank)
      (unstakedTwice 1500000000000000000 500000000000000000) := by decide +kernel
  exact ⟨cautious, run_withdrawsFloored .devnet fundedBank 1 _ cautious⟩

/-- Half of the minimum is left. -/
theorem unstakedTwice_not_floored :
    ¬(Run.exec step (fromGenesis .devnet fundedBank)
      (unstakedTwice 1500000000000000000 1000000000000000000)).WithdrawsFloored 1 := by
  intro floored
  have done : ((Run.exec step (fromGenesis .devnet fundedBank)
      (unstakedTwice 1500000000000000000 1000000000000000000)).execute (.WithdrawStake 1)).1 =
        .ok (.Withdrawn 1 2500000000000000000) :=
    Except.toOption_eq_some.mp (by decide +kernel)
  have short : ¬((Run.exec step (fromGenesis .devnet fundedBank)
      (unstakedTwice 1500000000000000000 1000000000000000000)).execute
        (.WithdrawStake 1)).2.Floored 1 := by decide +kernel
  exact short (floored _ _ (Prod.ext done rfl))

end Vm.SystemKernel
