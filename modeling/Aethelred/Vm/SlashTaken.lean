import Aethelred.Vm.Settlement
import Aethelred.Vm.SlashingRun

/- What a slash takes. Its amount is a share of the locked stake, but reward and burn are paid out
of what the offender has free: the stake stays locked whatever the outcome. -/
namespace Vm

open Go Attempt

namespace Bank

variable {bank : Bank} {sender receiver other : Address} {amount : Nat}

/-- A transfer or a burn of the amount succeeds. -/
def Payable (bank : Bank) (sender : Address) (amount : Nat) : Prop :=
  amount ≠ 0 ∧ amount ≤ (bank.account sender).available ∧
    ¬(bank.account sender).isLocked bank.currentBlock

instance : Decidable (bank.Payable sender amount) := inferInstanceAs (Decidable (_ ∧ _))

theorem debit_put : (bank.put sender (bank.account sender)).debit sender amount =
    bank.debit sender amount := by
  simp only [debit, put, AList.insert_insert]
  congr 2
  exact congrArg (fun account : AccountState => { account with
    balance := saturatingSub account.balance amount }) account_put_self

theorem paid_put : paid (bank.put sender (bank.account sender)) sender receiver amount =
    paid bank sender receiver amount := by
  unfold paid
  rw [debit_put]

theorem transfer_outcome (bank : Bank) (sender receiver : Address) (amount : Nat) :
    (¬bank.Payable sender amount ∧ ∃ reason after,
      transfer sender receiver amount bank = (.error reason, after) ∧ Unchanged bank after) ∨
    (bank.Payable sender amount ∧
      transfer sender receiver amount bank = (.ok (), paid bank sender receiver amount)) := by
  by_cases payable : bank.Payable sender amount
  · apply Or.inr
    refine ⟨payable, ?_⟩
    obtain ⟨positive, funded, free⟩ := payable
    rw [← paid_put]
    simp only [transfer, ensure_bind, modify_bind, read_bind, account_put_self]
    rw [if_pos positive, if_pos funded]
    exact if_pos free
  · apply Or.inl
    refine ⟨payable, ?_⟩
    obtain failed | ⟨positive, funded, free, -⟩ := transfer_cases sender receiver amount bank
    · exact failed
    · exact absurd ⟨positive, funded, free⟩ payable

theorem getLockedBalance_paid :
    (paid bank sender receiver amount).getLockedBalance other = bank.getLockedBalance other := by
  unfold paid
  split
  · exact getLockedBalance_debit
  · rw [getLockedBalance_credit, getLockedBalance_debit]

end Bank

namespace SlashingManager

variable (manager : SlashingManager) (condition : SlashingCondition)

/-- The offender has stake and is not tombstoned. -/
def Slashable : Prop :=
  manager.config.enabled = true ∧ condition.offender ∉ manager.tombstones ∧
    manager.getStake condition.offender ≠ 0

def slashPercent : UInt8 :=
  manager.config.slashPercentForSeverity condition.offenseType.severity

def slashAmount : Nat :=
  percentOf (manager.getStake condition.offender) (manager.slashPercent condition)

def challengerReward : Nat :=
  percentOf (manager.slashAmount condition) manager.config.challengerRewardPercent

def reporterReward : Nat :=
  match condition.reporter with
  | some _ => manager.challengerReward condition
  | none => 0

def burnAmount : Nat :=
  subU128 (manager.slashAmount condition) (manager.reporterReward condition)

/-- The reporter, if there is one, can be paid. -/
def CanReward : Prop :=
  condition.reporter.isSome →
    manager.bank.Payable condition.offender (manager.challengerReward condition)

def rewarded : Bank :=
  match condition.reporter with
  | some reporter =>
    manager.bank.paid condition.offender reporter (manager.challengerReward condition)
  | none => manager.bank

/-- What is left of the offender's balance covers the burn. -/
def CanBurn : Prop :=
  (manager.rewarded condition).Payable condition.offender (manager.burnAmount condition)

instance :
    Decidable (manager.Slashable condition) := inferInstanceAs (Decidable (_ ∧ _))

instance :
    Decidable (manager.CanReward condition) := inferInstanceAs (Decidable (_ → _))

instance :
    Decidable (manager.CanBurn condition) := inferInstanceAs (Decidable (Bank.Payable _ _ _))

def burnt : Bank :=
  (manager.rewarded condition).paid condition.offender BURN_ADDRESS (manager.burnAmount condition)

section Outcome

variable (manager : SlashingManager) (condition : SlashingCondition)

theorem payReporter_outcome :
    (¬manager.CanReward condition ∧ ∃ reason bank,
      payReporter condition (manager.challengerReward condition) manager =
        (.error reason, { manager with bank }) ∧ Bank.Unchanged manager.bank bank) ∨
    (manager.CanReward condition ∧
      payReporter condition (manager.challengerReward condition) manager =
        (.ok (manager.reporterReward condition),
          { manager with bank := manager.rewarded condition })) := by
  unfold payReporter CanReward reporterReward rewarded
  cases condition.reporter with
  | none => exact .inr ⟨nofun, rfl⟩
  | some reporter =>
    simp only [Option.isSome_some, true_imp_iff]
    obtain ⟨short, reason, bank, failed, same⟩ | ⟨payable, done⟩ := Bank.transfer_outcome
      manager.bank condition.offender reporter (manager.challengerReward condition)
    · exact .inl ⟨short, reason, bank, onBank_bind_of_error manager failed, same⟩
    · exact .inr ⟨payable, onBank_bind_of_ok manager done⟩

theorem executeSlash_of_not_slashable (not : ¬manager.Slashable condition) :
    ∃ reason, executeSlash condition manager = (.error reason, manager) := by
  simp only [executeSlash, read_bind, ensure_bind]
  split
  · rename_i enabled
    split
    · rename_i standing
      split
      · rename_i staked
        exact absurd ⟨enabled, standing, staked⟩ not
      · exact ⟨_, rfl⟩
    · exact ⟨_, rfl⟩
  · exact ⟨_, rfl⟩

theorem executeSlash_of_slashable (slashable : manager.Slashable condition) :
    executeSlash condition manager =
      (payReporter condition (manager.challengerReward condition) >>= fun reward => do
        let burnAmount := subU128 (manager.slashAmount condition) reward
        onBank (Bank.burn condition.offender burnAmount)
        modify fun manager' =>
          manager'.recordSlash condition (manager.slashAmount condition) burnAmount
        return {
          slashedAddress := condition.offender
          burnAmount
          reporterReward := reward
          banUntil := banUntil condition.offenseType.severity condition.timestamp
          tombstoned := condition.offenseType.severity.isTombstone }) manager := by
  obtain ⟨enabled, standing, staked⟩ := slashable
  simp only [executeSlash, read_bind, ensure_bind]
  rw [if_pos enabled, if_pos standing, if_pos staked]
  rfl

def slashResult : SlashingResult where
  slashedAddress := condition.offender
  burnAmount := manager.burnAmount condition
  reporterReward := manager.reporterReward condition
  banUntil := banUntil condition.offenseType.severity condition.timestamp
  tombstoned := condition.offenseType.severity.isTombstone

def slashed : SlashingManager :=
  { manager with bank := manager.burnt condition }.recordSlash condition
    (manager.slashAmount condition) (manager.burnAmount condition)

/-- The outcomes of a slash: nothing has happened, the reporter is paid but nothing else, or it has
gone through. -/
theorem executeSlash_cases :
    (¬(manager.Slashable condition ∧ manager.CanReward condition) ∧ ∃ reason bank,
      executeSlash condition manager = (.error reason, { manager with bank }) ∧
        Bank.Unchanged manager.bank bank) ∨
    ((manager.Slashable condition ∧ manager.CanReward condition) ∧
      ¬manager.CanBurn condition ∧ ∃ reason bank,
      executeSlash condition manager = (.error reason, { manager with bank }) ∧
        Bank.Unchanged (manager.rewarded condition) bank) ∨
    ((manager.Slashable condition ∧ manager.CanReward condition) ∧ manager.CanBurn condition ∧
      executeSlash condition manager =
        (.ok (manager.slashResult condition), manager.slashed condition)) := by
  by_cases slashable : manager.Slashable condition
  · rw [executeSlash_of_slashable manager condition slashable]
    obtain ⟨short, reason, bank, failed, same⟩ | ⟨payable, done⟩ :=
      payReporter_outcome manager condition
    · exact .inl ⟨fun both => short both.2, reason, bank, bind_of_error failed, same⟩
    · rw [bind_of_ok done]
      obtain ⟨short, reason, bank, failed, same⟩ | ⟨burns, done⟩ := Bank.transfer_outcome
        (manager.rewarded condition) condition.offender BURN_ADDRESS (manager.burnAmount condition)
      · exact .inr (.inl ⟨⟨slashable, payable⟩, short, reason, bank,
          onBank_bind_of_error { manager with bank := manager.rewarded condition } failed, same⟩)
      · exact .inr (.inr ⟨⟨slashable, payable⟩, burns,
          onBank_bind_of_ok { manager with bank := manager.rewarded condition } done⟩)
  · obtain ⟨reason, failed⟩ := executeSlash_of_not_slashable manager condition slashable
    exact .inl ⟨fun both => slashable both.1, reason, manager.bank, failed, .refl _⟩

end Outcome

section Taken

variable {manager after : SlashingManager} {condition : SlashingCondition}
  {result : SlashingResult}

/-- The slash has come out of the offender's stake: locked stake and balance are down by the share,
the reporter has the reward and the rest has left the supply. -/
structure Taken (manager : SlashingManager) (condition : SlashingCondition)
    (result : SlashingResult) (after : SlashingManager) : Prop where
  split : result.reporterReward + result.burnAmount =
    manager.getStake condition.offender * (manager.slashPercent condition).toNat / 100
  stake : after.getStake condition.offender + (result.reporterReward + result.burnAmount) =
    manager.getStake condition.offender
  balance : after.bank.balanceOf condition.offender +
    (result.reporterReward + result.burnAmount) = manager.bank.balanceOf condition.offender
  reporter : ∀ reporter ∈ condition.reporter, reporter ≠ condition.offender →
    after.bank.balanceOf reporter = manager.bank.balanceOf reporter + result.reporterReward
  supply : after.bank.totalSupply + result.burnAmount = manager.bank.totalSupply

def TakesStake (manager : SlashingManager) (condition : SlashingCondition) :
    Except SystemContractError SlashingResult × SlashingManager → Prop
  | (.ok result, after) => Taken manager condition result after
  | (.error _, _) => False

def KeepsOnError (manager : SlashingManager) :
    Except SystemContractError SlashingResult × SlashingManager → Prop
  | (.ok _, _) => True
  | (.error _, after) =>
    ∀ address, after.bank.balanceOf address = manager.bank.balanceOf address

theorem not_canBurn_of_share (none : manager.getStake condition.offender *
      (manager.slashPercent condition).toNat / 100 = 0) : ¬manager.CanBurn condition := by
  have small : manager.getStake condition.offender * (manager.slashPercent condition).toNat <
      2 ^ 128 := by omega
  have amount : manager.slashAmount condition = 0 := by
    rw [slashAmount, percentOf, mulU128_eq small, none]
  have reward : manager.reporterReward condition = 0 := by
    unfold reporterReward challengerReward
    rw [amount]
    cases condition.reporter with
    | none => rfl
    | some reporter => simp [percentOf, mulU128]
  intro burns
  apply burns.1
  rw [burnAmount, amount, reward]
  rfl

theorem getStake_slashed :
    (manager.slashed condition).getStake = manager.getStake := by
  funext address
  show (manager.burnt condition).getLockedBalance address = manager.bank.getLockedBalance address
  unfold burnt rewarded
  rw [Bank.getLockedBalance_paid]
  cases condition.reporter with
  | none => rfl
  | some reporter => exact Bank.getLockedBalance_paid

/-- Whatever the state and the offence, the slash does not come out of the stake. -/
theorem executeSlash_not_takesStake (manager : SlashingManager) (condition : SlashingCondition) :
    ¬TakesStake manager condition (executeSlash condition manager) := by
  obtain ⟨_, reason, bank, failed, _⟩ | ⟨_, _, reason, bank, failed, _⟩ | ⟨_, burns, done⟩ :=
    executeSlash_cases manager condition
  · rw [failed]
    exact fun impossible => impossible
  · rw [failed]
    exact fun impossible => impossible
  · rw [done]
    intro taken
    have stake := taken.stake
    rw [getStake_slashed] at stake
    apply not_canBurn_of_share _ burns
    rw [← taken.split]
    omega

end Taken

/-- Account 1 with a stake of 100. -/
def staked (balance : Nat) : SlashingManager :=
  new {} {
    config := {}
    totalSupply := balance
    accounts := (∅ : Map Address AccountState).insert 1 { balance, locked := 100 } }

/-- A double sign of account 1, which costs half of the stake. -/
def doubleSign (reporter : Option Address) : SlashingCondition where
  offender := 1
  offenseType := .DoubleSign
  blockHeight := 7
  timestamp := 0
  reporter
  jobId := none

/-- With enough free tokens these are burnt and the stake stays locked; with the stake alone nothing
can be slashed; with a free balance between the reward and the slash the reporter is paid by a call
that fails. -/
theorem doubleSign_not_taken :
    (¬∀ balance reporter, (staked balance).Slashable (doubleSign reporter) →
      TakesStake (staked balance) (doubleSign reporter)
          (executeSlash (doubleSign reporter) (staked balance)) ∧
        KeepsOnError (staked balance) (executeSlash (doubleSign reporter) (staked balance))) ∧
    ((executeSlash (doubleSign none) (staked 1000)).1.toBool = true ∧
      (executeSlash (doubleSign none) (staked 1000)).2.getStake 1 = 100) ∧
    (executeSlash (doubleSign none) (staked 100)).1.toBool = false ∧
    ((executeSlash (doubleSign (some 2)) (staked 130)).1.toBool = false ∧
      (executeSlash (doubleSign (some 2)) (staked 130)).2.bank.balanceOf 2 = 25) := by
  refine ⟨fun claim => ?_, by decide +kernel, by decide +kernel, by decide +kernel⟩
  have slashable : (staked 1000).Slashable (doubleSign none) := by decide +kernel
  have stays : (executeSlash (doubleSign none) (staked 1000)).2.getStake 1 = 100 := by
    decide +kernel
  have returned : (executeSlash (doubleSign none) (staked 1000)).1.toBool = true := by
    decide +kernel
  have taken := (claim 1000 none slashable).1
  cases outcome : executeSlash (doubleSign none) (staked 1000) with
  | mk result after =>
    rw [outcome] at stays returned taken
    cases result with
    | error reason => cases returned
    | ok result =>
      have share : (staked 1000).getStake (doubleSign none).offender *
          ((staked 1000).slashPercent (doubleSign none)).toNat / 100 = 50 := by
        decide +kernel
      have before : (staked 1000).getStake 1 = 100 := by decide +kernel
      have amount := taken.split.trans share
      have stays : after.getStake 1 = 100 := stays
      have stake : after.getStake 1 + (result.reporterReward + result.burnAmount) =
          (staked 1000).getStake 1 := taken.stake
      omega

end SlashingManager

end Vm
