import Aethelred.Lib.Run
import Aethelred.Vm.Bank

/- Runs of calls to the bank. Every lock is covered by its balance, the balances and the supply move
together, and only minting and burning move the supply. -/
namespace Vm

open Go Attempt

/-- The bank's operations. -/
inductive BankCall
  | transfer (sender receiver : Address) (amount : Nat)
  | mint (receiver : Address) (amount : Nat)
  | burn (sender : Address) (amount : Nat)
  | lock (address : Address) (amount : Nat)
  | unlock (address : Address) (amount : Nat)
  | createEscrow (id : Hash) (sender receiver : Address) (amount : Nat) (expiresAt : Nat)
      (conditions : List UInt8)
  | releaseEscrow (id : Hash) (receiver : Address)
  | refundEscrow (id : Hash)
  | slash (address : Address) (amount : Nat)
  deriving DecidableEq

namespace Bank

variable {bank before after last : Bank} {address sender receiver : Address}
  {account : AccountState} {amount made more lost further : Nat}

def execute : BankCall → Call (Option Nat)
  | .transfer sender receiver amount => (fun _ => none) <$> transfer sender receiver amount
  | .mint receiver amount => (fun _ => none) <$> mint receiver amount
  | .burn sender amount => (fun _ => none) <$> burn sender amount
  | .lock address amount => (fun _ => none) <$> lock address amount
  | .unlock address amount => (fun _ => none) <$> unlock address amount
  | .createEscrow id sender receiver amount expiresAt conditions =>
    (fun _ => none) <$> createEscrow id sender receiver amount expiresAt conditions
  | .releaseEscrow id receiver => some <$> releaseEscrow id receiver
  | .refundEscrow id => some <$> refundEscrow id
  | .slash address amount => some <$> slash address amount

def step (bank : Bank) (call : BankCall) : Bank := (execute call bank).2

def mintedBy (bank : Bank) (call : BankCall) : Nat :=
  match call, (execute call bank).1 with
  | .mint _ amount, .ok _ => amount
  | _, _ => 0

def destroyedBy (bank : Bank) (call : BankCall) : Nat :=
  match call, (execute call bank).1 with
  | .transfer _ receiver amount, .ok _ => if receiver = BURN_ADDRESS then amount else 0
  | .burn _ amount, .ok _ => amount
  | .slash _ _, .ok (some taken) => taken
  | _, _ => 0

/-- No successful mint takes the supply over the largest `u128`. -/
def MintFits (bank : Bank) (call : BankCall) : Prop :=
  bank.totalSupply + mintedBy bank call ≤ MAX_U128

instance (bank : Bank) (call : BankCall) : Decidable (MintFits bank call) :=
  inferInstanceAs (Decidable (_ ≤ _))

/-- Locks are covered by balances, and balances by the supply. -/
structure Sound (bank : Bank) : Prop where
  covered : ∀ address, bank.getLockedBalance address ≤ bank.balanceOf address
  issued : bank.circulating ≤ bank.totalSupply
  supply : bank.totalSupply ≤ MAX_U128
  burned : bank.totalBurned ≤ MAX_U128

/-- What a number of calls did that minted and destroyed these amounts. -/
structure Effect (before after : Bank) (made lost : Nat) : Prop where
  covered : ∀ address, after.getLockedBalance address ≤ after.balanceOf address
  drift : after.circulating + before.totalSupply = before.circulating + after.totalSupply
  supply : after.totalSupply + lost = before.totalSupply + made
  burned : after.totalBurned = min (before.totalBurned + lost) MAX_U128

theorem Effect.trans (first : Effect before after made lost)
    (second : Effect after last more further) :
    Effect before last (made + more) (lost + further) where
  covered := second.covered
  drift := by have := first.drift; have := second.drift; omega
  supply := by have := first.supply; have := second.supply; omega
  burned := by rw [second.burned, first.burned]; omega

theorem Sound.of_unchanged (sound : before.Sound) (same : Unchanged before after) : after.Sound where
  covered address := by
    unfold getLockedBalance balanceOf
    rw [same.account]
    exact sound.covered address
  issued := by rw [same.circulating, same.totalSupply]; exact sound.issued
  supply := by rw [same.totalSupply]; exact sound.supply
  burned := by rw [same.totalBurned]; exact sound.burned

theorem Effect.of_unchanged (sound : before.Sound) (same : Unchanged before after) :
    Effect before after 0 0 where
  covered := (sound.of_unchanged same).covered
  drift := by rw [same.circulating, same.totalSupply]
  supply := by rw [same.totalSupply]
  burned := by rw [same.totalBurned]; exact (Nat.min_eq_left sound.burned).symm

theorem Effect.refl (sound : bank.Sound) : Effect bank bank 0 0 :=
  .of_unchanged sound (.refl bank)

theorem Effect.sound (effect : Effect before after made lost) (sound : before.Sound)
    (fits : before.totalSupply + made ≤ MAX_U128) : after.Sound where
  covered := effect.covered
  issued := by have := effect.drift; have := sound.issued; omega
  supply := by have := effect.supply; omega
  burned := by rw [effect.burned]; exact Nat.min_le_right _ _

theorem getLockedBalance_le (sound : bank.Sound) (address : Address) :
    (bank.account address).locked ≤ (bank.account address).balance := sound.covered address

theorem covered_put (covered : ∀ other, bank.getLockedBalance other ≤ bank.balanceOf other)
    (backed : account.locked ≤ account.balance) (other : Address) :
    (bank.put address account).getLockedBalance other ≤ (bank.put address account).balanceOf other := by
  unfold getLockedBalance balanceOf
  rw [account_put]
  split
  · exact backed
  · exact covered other

theorem Effect.of_lock (sound : bank.Sound) (same : account.balance = bank.balanceOf address)
    (backed : account.locked ≤ account.balance) : Effect bank (bank.put address account) 0 0 where
  covered := covered_put sound.covered backed
  drift := by
    have moved := circulating_put bank address account
    change (bank.put address account).circulating + bank.totalSupply = _ + bank.totalSupply
    omega
  supply := rfl
  burned := (Nat.min_eq_left sound.burned).symm

theorem covered_debit (sound : bank.Sound)
    (funded : amount ≤ (bank.account address).available) (other : Address) :
    (bank.debit address amount).getLockedBalance other ≤
      (bank.debit address amount).balanceOf other := by
  refine covered_put sound.covered ?_ other
  have backed := getLockedBalance_le sound address
  simp only [AccountState.available, saturatingSub] at funded ⊢
  omega

theorem circulating_debit (funded : amount ≤ bank.balanceOf address) :
    (bank.debit address amount).circulating + amount = bank.circulating := by
  have moved := circulating_put bank address
    { bank.account address with
      balance := saturatingSub (bank.account address).balance amount }
  unfold debit
  simp only [balanceOf, saturatingSub] at moved funded ⊢
  omega

theorem covered_credit (covered : ∀ other, bank.getLockedBalance other ≤ bank.balanceOf other)
    (fits : bank.balanceOf address + amount ≤ MAX_U128) (other : Address) :
    (bank.credit address amount).getLockedBalance other ≤
      (bank.credit address amount).balanceOf other := by
  refine covered_put covered ?_ other
  change bank.getLockedBalance address ≤ saturatingAdd (bank.balanceOf address) amount
  rw [saturatingAdd_eq fits]
  exact Nat.le_add_right_of_le (covered address)

theorem circulating_credit (fits : bank.balanceOf address + amount ≤ MAX_U128) :
    (bank.credit address amount).circulating = bank.circulating + amount := by
  have moved := circulating_put bank address
    { bank.account address with
      balance := saturatingAdd (bank.account address).balance amount }
  have written : saturatingAdd (bank.account address).balance amount =
      bank.balanceOf address + amount := saturatingAdd_eq fits
  unfold credit
  simp only [written] at moved ⊢
  omega

theorem Effect.of_payment (covered : ∀ other, (bank.debit sender amount).getLockedBalance other ≤
      (bank.debit sender amount).balanceOf other)
    (sound : bank.circulating ≤ bank.totalSupply ∧ bank.totalSupply ≤ MAX_U128 ∧
      bank.totalBurned ≤ MAX_U128) (funded : amount ≤ bank.balanceOf sender) :
    Effect bank ((bank.debit sender amount).credit receiver amount) 0 0 := by
  obtain ⟨issued, supply, burned⟩ := sound
  have left := circulating_debit funded
  have room := balanceOf_le_circulating (bank.debit sender amount) receiver
  have fits : (bank.debit sender amount).balanceOf receiver + amount ≤ MAX_U128 := by omega
  refine ⟨covered_credit covered fits, ?_, rfl, (Nat.min_eq_left burned).symm⟩
  rw [circulating_credit fits, left]
  rfl

section

variable (sound : bank.Sound)
include sound

theorem Effect.of_destruction
    (covered : ∀ other, after.getLockedBalance other ≤ after.balanceOf other)
    (left : after.circulating + amount = bank.circulating)
    (supply : after.totalSupply = bank.totalSupply)
    (burned : after.totalBurned = bank.totalBurned) :
    Effect bank (after.destroy amount) 0 amount := by
  have issued := sound.issued
  refine ⟨covered, ?_, ?_, ?_⟩
  · change after.circulating + bank.totalSupply =
      bank.circulating + saturatingSub after.totalSupply amount
    rw [supply, saturatingSub]
    omega
  · change saturatingSub after.totalSupply amount + amount = _
    rw [supply, saturatingSub]
    omega
  · change saturatingAdd after.totalBurned amount = _
    rw [burned, saturatingAdd]

theorem effect_paid (funded : amount ≤ (bank.account sender).available) (receiver : Address) :
    Effect bank (paid bank sender receiver amount) 0
      (if receiver = BURN_ADDRESS then amount else 0) := by
  have enough : amount ≤ bank.balanceOf sender := Nat.le_trans funded (Nat.sub_le _ _)
  unfold paid
  split
  · exact .of_destruction sound (covered_debit sound funded) (circulating_debit enough) rfl rfl
  · exact .of_payment (covered_debit sound funded) ⟨sound.issued, sound.supply, sound.burned⟩ enough

theorem effect_transfer :
    Effect bank (transfer sender receiver amount bank).2 0
      (destroyedBy bank (.transfer sender receiver amount)) := by
  have outcome := transfer_cases sender receiver amount bank
  simp only [destroyedBy, execute, map_apply]
  obtain ⟨reason, after, failed, same⟩ | ⟨_, funded, _, done⟩ := outcome
  · rw [failed]
    exact .of_unchanged sound same
  · rw [done]
    have opened : Unchanged bank (bank.put sender (bank.account sender)) := unchanged_open
    have first := Effect.of_unchanged sound opened
    rw [← opened.account] at funded
    have second : Effect (bank.put sender (bank.account sender)) _ 0 _ :=
      effect_paid (sound.of_unchanged opened) funded receiver
    simpa only [Nat.zero_add, Except.map] using first.trans second

theorem effect_mint (fits : MintFits bank (.mint receiver amount)) :
    Effect bank (mint receiver amount bank).2 (mintedBy bank (.mint receiver amount)) 0 := by
  have outcome := mint_cases receiver amount bank
  simp only [MintFits, mintedBy, execute, map_apply] at fits ⊢
  obtain ⟨reason, failed⟩ | ⟨rfl, done⟩ | ⟨_, done⟩ := outcome
  · rw [failed]
    exact .refl sound
  · rw [done]
    exact .refl sound
  · rw [done] at fits ⊢
    simp only [Except.map] at fits ⊢
    have share := balanceOf_le_circulating bank receiver
    have issued := sound.issued
    have fitting : bank.balanceOf receiver + amount ≤ MAX_U128 := by omega
    refine ⟨covered_credit sound.covered fitting, ?_, ?_, (Nat.min_eq_left sound.burned).symm⟩
    · change (bank.credit receiver amount).circulating + bank.totalSupply =
        bank.circulating + saturatingAdd bank.totalSupply amount
      rw [circulating_credit fitting, saturatingAdd_eq fits]
      omega
    · exact saturatingAdd_eq fits

variable (address : Address) (amount : Nat)

theorem effect_lock : Effect bank (lock address amount bank).2 0 0 := by
  obtain ⟨reason, failed⟩ | ⟨funded, done⟩ := lock_cases address amount bank
  · rw [failed]
    exact .refl sound
  · rw [done]
    refine .of_lock sound rfl ?_
    have backed := getLockedBalance_le sound address
    refine Nat.le_trans (saturatingAdd_le _ _) ?_
    simp only [AccountState.available, saturatingSub] at funded
    change (bank.account address).locked + amount ≤ (bank.account address).balance
    omega

theorem effect_unlock : Effect bank (unlock address amount bank).2 0 0 := by
  obtain ⟨reason, failed, _⟩ | ⟨enough, done⟩ := unlock_cases address amount bank
  · rw [failed]
    exact .refl sound
  · rw [done]
    exact .of_lock sound rfl (Nat.le_trans (Nat.sub_le _ _) (getLockedBalance_le sound address))

theorem effect_slash :
    Effect bank (slash address amount bank).2 0 (destroyedBy bank (.slash address amount)) := by
  have outcome := slash_cases address amount bank
  simp only [destroyedBy, execute, map_apply]
  obtain ⟨reason, failed, _⟩ | ⟨_, done⟩ | done := outcome
  · rw [failed]
    exact .refl sound
  · rw [done]
    exact .refl sound
  · rw [done]
    simp only [Except.map]
    have backed := getLockedBalance_le sound address
    refine .of_destruction sound (covered_put sound.covered ?_) ?_ rfl rfl
    · simp only [saturatingSub]
      omega
    · have moved := circulating_put bank address
        { bank.account address with
          locked := saturatingSub (bank.account address).locked
            (min amount (bank.account address).locked)
          balance := saturatingSub (bank.account address).balance
            (min amount (bank.account address).locked) }
      simp only [balanceOf, saturatingSub] at moved ⊢
      omega

end

theorem Effect.of_escrows (effect : Effect before after made lost) (escrows : Map Hash Escrow) :
    Effect before { after with escrows } made lost :=
  ⟨effect.covered, effect.drift, effect.supply, effect.burned⟩

theorem Effect.markReleased (effect : Effect before after made lost) (id : Hash) :
    Effect before (after.markReleased id) made lost := by
  unfold Bank.markReleased
  split
  · exact effect.of_escrows _
  · exact effect

section

variable (sound : bank.Sound)
include sound

theorem effect_createEscrow {id : Hash} {expiresAt : Nat} {conditions : List UInt8} :
    Effect bank (createEscrow id sender receiver amount expiresAt conditions bank).2 0 0 := by
  simp only [createEscrow, read_bind, ensure_bind]
  split
  · have effect : Effect bank (lock sender amount bank).2 0 0 := effect_lock sound _ _
    rw [bind_apply]
    revert effect
    cases lock sender amount bank with
    | mk outcome after =>
      intro effect
      cases outcome with
      | error reason => exact effect
      | ok done => exact effect.of_escrows _
  · exact .refl sound

theorem Effect.of_release (enough : amount ≤ (bank.account sender).locked)
    (freed : after = bank.put sender { bank.account sender with
      locked := saturatingSub (bank.account sender).locked amount }) :
    Effect bank ((after.debit sender amount).credit receiver amount) 0 0 := by
  have backed := getLockedBalance_le sound sender
  have first : Effect bank after 0 0 := by
    rw [freed]
    exact .of_lock sound rfl (Nat.le_trans (Nat.sub_le _ _) backed)
  have sound' := first.sound sound (by have := sound.supply; omega)
  have current : after.account sender = { bank.account sender with
      locked := saturatingSub (bank.account sender).locked amount } := by
    rw [freed, account_put_self]
  refine first.trans (.of_payment (covered_put sound'.covered ?_)
    ⟨sound'.issued, sound'.supply, sound'.burned⟩ ?_)
  · simp only [current, saturatingSub]
    omega
  · unfold balanceOf
    rw [current]
    exact Nat.le_trans enough backed

theorem effect_releaseEscrow {id : Hash} : Effect bank (releaseEscrow id receiver bank).2 0 0 := by
  simp only [releaseEscrow, read_bind, okOr_bind]
  cases bank.escrows.lookup id with
  | none => exact .refl sound
  | some escrow =>
    simp only [ensure_bind]
    split
    · obtain ⟨reason, failed, _⟩ | ⟨enough, done⟩ :=
        unlock_cases escrow.sender escrow.amount bank
      · rw [bind_of_error failed]
        exact .refl sound
      · rw [bind_of_ok done, modify_bind]
        exact (Effect.of_release sound enough rfl).markReleased id
    · exact .refl sound

theorem effect_refundEscrow {id : Hash} : Effect bank (refundEscrow id bank).2 0 0 := by
  simp only [refundEscrow, read_bind, okOr_bind]
  cases bank.escrows.lookup id with
  | none => exact .refl sound
  | some escrow =>
    simp only [ensure_bind]
    split
    · have effect : Effect bank (unlock escrow.sender escrow.amount bank).2 0 0 :=
        effect_unlock sound _ _
      rw [bind_apply]
      revert effect
      cases unlock escrow.sender escrow.amount bank with
      | mk outcome after =>
        intro effect
        cases outcome with
        | error reason => exact effect
        | ok done => exact effect.markReleased id
    · exact .refl sound

/-- What a call mints, destroys and leaves alone. -/
theorem effect_execute {call : BankCall} (fits : MintFits bank call) :
    Effect bank (bank.step call) (mintedBy bank call) (destroyedBy bank call) := by
  cases call with
  | transfer sender receiver amount =>
    rw [step, execute, map_apply]
    exact effect_transfer sound
  | mint receiver amount =>
    rw [step, execute, map_apply]
    exact effect_mint sound fits
  | burn sender amount =>
    have same : destroyedBy bank (.burn sender amount) =
        destroyedBy bank (.transfer sender BURN_ADDRESS amount) := by
      simp only [destroyedBy, execute, burn, map_apply]
      cases (transfer sender BURN_ADDRESS amount bank).1 <;> rfl
    rw [same, step, execute, map_apply]
    exact effect_transfer sound
  | lock address amount =>
    rw [step, execute, map_apply]
    exact effect_lock sound _ _
  | unlock address amount =>
    rw [step, execute, map_apply]
    exact effect_unlock sound _ _
  | createEscrow id sender receiver amount expiresAt conditions =>
    rw [step, execute, map_apply]
    exact effect_createEscrow sound
  | releaseEscrow id receiver =>
    rw [step, execute, map_apply]
    exact effect_releaseEscrow sound
  | refundEscrow id =>
    rw [step, execute, map_apply]
    exact effect_refundEscrow sound
  | slash address amount =>
    rw [step, execute, map_apply]
    exact effect_slash sound _ _

theorem effect_run {calls : List BankCall} (fits : Run.Along step MintFits bank calls) :
    Effect bank (Run.exec step bank calls) (Run.total step mintedBy bank calls)
      (Run.total step destroyedBy bank calls) := by
  induction calls generalizing bank with
  | nil => exact .refl sound
  | cons call rest ih =>
    have first := effect_execute sound fits.1
    exact first.trans (ih (first.sound sound fits.1) fits.2)

end

end Bank

end Vm

/- A call to the bank that fails changes nothing, and what a whole run of calls keeps. -/
namespace Vm.Bank

open Go Attempt

variable {bank before after : Bank} {α β : Type} {reason : SystemContractError}

/-- A call whose errors leave the bank as it was. -/
def Atomic (call : Call α) : Prop :=
  ∀ bank reason after, call bank = (.error reason, after) → Unchanged bank after

theorem Atomic.map {call : Call α} (atomic : Atomic call) (f : α → β) : Atomic (f <$> call) := by
  intro bank reason after failed
  rw [map_apply] at failed
  have written : (call bank).2 = after := congrArg Prod.snd failed
  have outcome : (call bank).1.map f = .error reason := congrArg Prod.fst failed
  refine atomic bank reason after (Prod.ext ?_ written)
  cases result : (call bank).1 with
  | ok value => rw [result] at outcome; contradiction
  | error other =>
    rw [result] at outcome
    exact congrArg _ (Except.error.inj outcome)

theorem Atomic.of_same {call : Call α}
    (same : ∀ bank reason after, call bank = (.error reason, after) → after = bank) :
    Atomic call := by
  intro bank reason after failed
  rw [same bank reason after failed]
  exact .refl bank

theorem atomic_transfer (sender receiver : Address) (amount : Nat) :
    Atomic (transfer sender receiver amount) := by
  intro bank reason after failed
  obtain ⟨other, written, outcome, same⟩ | ⟨_, _, _, done⟩ :=
    transfer_cases sender receiver amount bank
  · rw [outcome] at failed
    obtain ⟨_, rfl⟩ := Prod.mk.inj failed
    exact same
  · rw [done] at failed
    cases congrArg Prod.fst failed

theorem atomic_mint (receiver : Address) (amount : Nat) : Atomic (mint receiver amount) := by
  refine .of_same fun bank reason after failed => ?_
  obtain ⟨other, outcome⟩ | ⟨_, done⟩ | ⟨_, done⟩ := mint_cases receiver amount bank
  · rw [outcome] at failed
    exact (congrArg Prod.snd failed).symm
  · rw [done] at failed
    cases congrArg Prod.fst failed
  · rw [done] at failed
    cases congrArg Prod.fst failed

theorem eq_of_lock_error {address : Address} {amount : Nat}
    (failed : lock address amount bank = (.error reason, after)) : after = bank := by
  obtain ⟨other, outcome⟩ | ⟨_, done⟩ := lock_cases address amount bank
  · rw [outcome] at failed
    exact (congrArg Prod.snd failed).symm
  · rw [done] at failed
    cases congrArg Prod.fst failed

theorem eq_of_unlock_error {address : Address} {amount : Nat}
    (failed : unlock address amount bank = (.error reason, after)) : after = bank := by
  obtain ⟨other, outcome, _⟩ | ⟨_, done⟩ := unlock_cases address amount bank
  · rw [outcome] at failed
    exact (congrArg Prod.snd failed).symm
  · rw [done] at failed
    cases congrArg Prod.fst failed

theorem atomic_slash (address : Address) (amount : Nat) : Atomic (slash address amount) := by
  refine .of_same fun bank reason after failed => ?_
  obtain ⟨other, outcome, _⟩ | ⟨_, done⟩ | done := slash_cases address amount bank
  · rw [outcome] at failed
    exact (congrArg Prod.snd failed).symm
  · rw [done] at failed
    cases congrArg Prod.fst failed
  · rw [done] at failed
    cases congrArg Prod.fst failed

theorem eq_of_bind_error {first : Call Unit} {next : Call α}
    (same : ∀ reason after, first bank = (.error reason, after) → after = bank)
    (total : ∀ bank reason after, next bank ≠ (.error reason, after))
    (failed : (first >>= fun _ => next) bank = (.error reason, after)) : after = bank := by
  cases outcome : first bank with
  | mk result middle =>
    cases result with
    | ok done =>
      rw [bind_of_ok outcome] at failed
      exact absurd failed (total middle reason after)
    | error other =>
      rw [bind_of_error outcome] at failed
      obtain ⟨_, rfl⟩ := Prod.mk.inj failed
      exact same other middle outcome

theorem atomic_createEscrow (id : Hash) (sender receiver : Address) (amount expiresAt : Nat)
    (conditions : List UInt8) :
    Atomic (createEscrow id sender receiver amount expiresAt conditions) := by
  refine .of_same fun bank reason after failed => ?_
  simp only [createEscrow, read_bind, ensure_bind] at failed
  split at failed
  · exact eq_of_bind_error (fun _ _ => eq_of_lock_error)
      (fun _ _ _ claimed => by cases congrArg Prod.fst claimed) failed
  · exact (congrArg Prod.snd failed).symm

theorem atomic_releaseEscrow (id : Hash) (receiver : Address) :
    Atomic (releaseEscrow id receiver) := by
  refine .of_same fun bank reason after failed => ?_
  simp only [releaseEscrow, read_bind, okOr_bind] at failed
  split at failed
  · simp only [ensure_bind] at failed
    split at failed
    · exact eq_of_bind_error (fun _ _ => eq_of_unlock_error)
        (fun _ _ _ claimed => by cases congrArg Prod.fst claimed) failed
    · exact (congrArg Prod.snd failed).symm
  · exact (congrArg Prod.snd failed).symm

theorem atomic_refundEscrow (id : Hash) : Atomic (refundEscrow id) := by
  refine .of_same fun bank reason after failed => ?_
  simp only [refundEscrow, read_bind, okOr_bind] at failed
  split at failed
  · simp only [ensure_bind] at failed
    split at failed
    · exact eq_of_bind_error (fun _ _ => eq_of_unlock_error)
        (fun _ _ _ claimed => by cases congrArg Prod.fst claimed) failed
    · exact (congrArg Prod.snd failed).symm
  · exact (congrArg Prod.snd failed).symm

theorem atomic_execute (call : BankCall) : Atomic (execute call) := by
  cases call with
  | transfer sender receiver amount => exact (atomic_transfer sender receiver amount).map _
  | mint receiver amount => exact (atomic_mint receiver amount).map _
  | burn sender amount => exact (atomic_transfer sender BURN_ADDRESS amount).map _
  | lock address amount => exact (Atomic.of_same fun _ _ _ => eq_of_lock_error).map _
  | unlock address amount => exact (Atomic.of_same fun _ _ _ => eq_of_unlock_error).map _
  | createEscrow id sender receiver amount expiresAt conditions =>
    exact (atomic_createEscrow id sender receiver amount expiresAt conditions).map _
  | releaseEscrow id receiver => exact (atomic_releaseEscrow id receiver).map _
  | refundEscrow id => exact (atomic_refundEscrow id).map _
  | slash address amount => exact (atomic_slash address amount).map _

/-- The bank after a run of calls, compared with the bank before it. -/
structure Kept (start : Bank) (calls : List BankCall) (final : Bank) : Prop where
  covered : ∀ address, final.getLockedBalance address ≤ final.balanceOf address
  drift : final.circulating + start.totalSupply = start.circulating + final.totalSupply
  supply : final.totalSupply + Run.total step destroyedBy start calls =
    start.totalSupply + Run.total step mintedBy start calls
  burned : final.totalBurned =
    min (start.totalBurned + Run.total step destroyedBy start calls) MAX_U128
  failed : ∀ call reason after, execute call final = (.error reason, after) →
    Unchanged final after

/-- From every sound bank, every run of calls without a mint over the largest `u128`. -/
theorem run_kept (start : Bank) (calls : List BankCall) (sound : start.Sound)
    (fits : Run.Along step MintFits start calls) : Kept start calls (Run.exec step start calls) := by
  have effect := effect_run sound fits
  exact ⟨effect.covered, effect.drift, effect.supply, effect.burned,
    fun call reason after failed => atomic_execute call _ reason after failed⟩

theorem sound_new {config : BankConfig} (fits : config.initialSupply ≤ MAX_U128) :
    (Bank.new config).Sound where
  covered _ := Nat.zero_le _
  issued := Nat.zero_le _
  supply := fits
  burned := Nat.zero_le _

def overburned : List BankCall :=
  let amount := MAX_U128 - 1000000000000000000000000000
  [.mint 1 amount, .burn 1 amount, .mint 1 amount, .burn 1 amount]

theorem run_kept_overburned :
    (Bank.new {}).Sound ∧ Run.Along step MintFits (Bank.new {}) overburned ∧
      Kept (Bank.new {}) overburned (Run.exec step (Bank.new {}) overburned) := by
  have sound : (Bank.new {}).Sound := sound_new (by decide)
  have fits : Run.Along step MintFits (Bank.new {}) overburned := by decide +kernel
  exact ⟨sound, fits, run_kept _ _ sound fits⟩

/-- The counter of burned tokens stops at the largest `u128`, while the supply goes on falling. -/
theorem overburned_not_conserved :
    (Bank.new {}).Sound ∧ Run.Along step MintFits (Bank.new {}) overburned ∧
      (Run.exec step (Bank.new {}) overburned).totalSupply +
          (Run.exec step (Bank.new {}) overburned).totalBurned ≠
        (Bank.new {}).totalSupply + (Bank.new {}).totalBurned +
          Run.total step mintedBy (Bank.new {}) overburned :=
  ⟨sound_new (by decide), by decide +kernel, by decide +kernel⟩

end Vm.Bank

/- What the calls to the bank do to the locks, in a bank where every lock is covered by its balance
and no balance is over the largest `u128`. -/
namespace Vm.Bank

open Go Attempt

variable {bank before after : Bank} {address other sender receiver : Address} {amount : Nat}

/-- Locks are covered by balances, and balances are `u128` values. -/
structure Backed (bank : Bank) : Prop where
  covered : ∀ address, bank.getLockedBalance address ≤ bank.balanceOf address
  fits : ∀ address, bank.balanceOf address ≤ MAX_U128

theorem Sound.backed (sound : bank.Sound) : bank.Backed where
  covered := sound.covered
  fits _ :=
    Nat.le_trans (balanceOf_le_circulating bank _) (Nat.le_trans sound.issued sound.supply)

variable {account : AccountState}

theorem Backed.put (backed : bank.Backed) (covered : account.locked ≤ account.balance)
    (fits : account.balance ≤ MAX_U128) : (bank.put address account).Backed where
  covered := covered_put backed.covered covered
  fits other := by
    unfold balanceOf
    rw [account_put]
    split
    · exact fits
    · exact backed.fits other

theorem getLockedBalance_put :
    (bank.put address account).getLockedBalance other =
      if other = address then account.locked else bank.getLockedBalance other := by
  unfold getLockedBalance
  rw [account_put]
  split <;> rfl

theorem balanceOf_put :
    (bank.put address account).balanceOf other =
      if other = address then account.balance else bank.balanceOf other := by
  unfold balanceOf
  rw [account_put]
  split <;> rfl

/-- Only what is locked of this account has changed. -/
structure Relocked (before after : Bank) (address : Address) : Prop where
  balance : ∀ other, after.balanceOf other = before.balanceOf other
  elsewhere : ∀ other, other ≠ address →
    after.getLockedBalance other = before.getLockedBalance other
  lockedUntil : ∀ other, (after.account other).lockedUntil = (before.account other).lockedUntil
  currentBlock : after.currentBlock = before.currentBlock

theorem relocked_put (locked : Nat) :
    Relocked bank (bank.put address { bank.account address with locked }) address where
  balance other := by
    rw [balanceOf_put]
    split
    · rename_i same
      rw [same]
      rfl
    · rfl
  elsewhere other differ := by rw [getLockedBalance_put, if_neg differ]
  lockedUntil other := by
    rw [account_put]
    split
    · rename_i same
      rw [same]
    · rfl
  currentBlock := rfl

theorem lock_spec (backed : bank.Backed) (address : Address) (amount : Nat) :
    (∃ reason, lock address amount bank = (.error reason, bank)) ∨
    ∃ after, lock address amount bank = (.ok (), after) ∧ after.Backed ∧
      Relocked bank after address ∧
      after.getLockedBalance address = bank.getLockedBalance address + amount := by
  obtain ⟨reason, failed⟩ | ⟨funded, done⟩ := lock_cases address amount bank
  · exact .inl ⟨reason, failed⟩
  · have covered : (bank.account address).locked ≤ (bank.account address).balance :=
      backed.covered address
    have fits : (bank.account address).balance ≤ MAX_U128 := backed.fits address
    have room : (bank.account address).locked + amount ≤ (bank.account address).balance := by
      simp only [AccountState.available, saturatingSub] at funded
      omega
    have plain := saturatingAdd_eq (Nat.le_trans room fits)
    rw [plain] at done
    refine .inr ⟨_, done, backed.put room fits, relocked_put _, ?_⟩
    rw [getLockedBalance_put, if_pos rfl]
    rfl

theorem unlock_spec (backed : bank.Backed) (address : Address) (amount : Nat) :
    (∃ reason, unlock address amount bank = (.error reason, bank) ∧
      (bank.accounts.lookup address = none ∨ bank.getLockedBalance address < amount)) ∨
    ∃ after, unlock address amount bank = (.ok (), after) ∧ after.Backed ∧
      Relocked bank after address ∧
      after.getLockedBalance address + amount = bank.getLockedBalance address := by
  obtain ⟨reason, failed, short⟩ | ⟨enough, done⟩ := unlock_cases address amount bank
  · exact .inl ⟨reason, failed, short⟩
  · refine .inr ⟨_, done, backed.put ?_ (backed.fits address), relocked_put _, ?_⟩
    · exact Nat.le_trans (Nat.sub_le _ _) (backed.covered address)
    · rw [getLockedBalance_put, if_pos rfl]
      exact Nat.sub_add_cancel enough

theorem getLockedBalance_of_lookup (absent : bank.accounts.lookup address = none) :
    bank.getLockedBalance address = 0 := by
  unfold getLockedBalance Bank.account Map.get
  rw [absent]
  rfl

theorem unlock_of_le (backed : bank.Backed) (positive : amount ≠ 0)
    (enough : amount ≤ bank.getLockedBalance address) :
    ∃ after, unlock address amount bank = (.ok (), after) ∧ after.Backed ∧
      Relocked bank after address ∧
      after.getLockedBalance address + amount = bank.getLockedBalance address := by
  obtain ⟨reason, _, absent | short⟩ | done := unlock_spec backed address amount
  · rw [getLockedBalance_of_lookup absent] at enough
    omega
  · omega
  · exact done

theorem slash_spec (address : Address) (amount : Nat) :
    (∃ reason, slash address amount bank = (.error reason, bank)) ∨
    ∃ after, slash address amount bank =
        (.ok (min amount (bank.getLockedBalance address)), after) ∧
      (∀ other, other ≠ address → after.getLockedBalance other = bank.getLockedBalance other) ∧
      after.getLockedBalance address + min amount (bank.getLockedBalance address) =
        bank.getLockedBalance address := by
  obtain ⟨reason, failed, _⟩ | ⟨nothing, done⟩ | done := slash_cases address amount bank
  · exact .inl ⟨reason, failed⟩
  · have taken : min amount (bank.getLockedBalance address) = 0 := nothing
    rw [taken]
    exact .inr ⟨bank, done, fun _ _ => rfl, rfl⟩
  · refine .inr ⟨_, done, fun other differ => ?_, ?_⟩
    · change (bank.put address _).getLockedBalance other = _
      rw [getLockedBalance_put, if_neg differ]
    · change (bank.put address _).getLockedBalance address + _ = _
      rw [getLockedBalance_put, if_pos rfl]
      exact Nat.sub_add_cancel (Nat.min_le_right _ _)

end Vm.Bank
