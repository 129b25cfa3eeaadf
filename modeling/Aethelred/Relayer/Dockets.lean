import Aethelred.Lib.Docket
import Aethelred.Relayer.Consensus

/- The storage as two dockets: deposits with mint proposals, burns with withdrawal proposals. -/
namespace Relayer

open Go Docket Function Option

def mintVocabulary : Vocabulary Hash EthereumDeposit DepositStatus MintProposal where
  keyOf := (·.depositId)
  nameOf := (·.proposalId)
  subject := (·.deposit)
  done := .Completed
  final proposal := proposal.status.isFinal = true
  carriedOut proposal := proposal.status = .Completed
  final_of_carriedOut _ completed := by rw [completed]; rfl
  strict := True

def withdrawalVocabulary : Vocabulary Hash AethelredBurn WithdrawalStatus WithdrawalProposal where
  keyOf := (·.burnId)
  nameOf := (·.proposalId)
  subject := (·.burn)
  done := .Completed
  final proposal := proposal.status.isFinal = true
  carriedOut _ := False
  final_of_carriedOut _ impossible := impossible.elim
  strict := False

namespace BridgeStorage

variable {state : BridgeStorage}

def mintDocket (state : BridgeStorage) : Docket Hash EthereumDeposit DepositStatus MintProposal :=
  ⟨state.getDeposit, state.getDepositStatus, state.getMintProposal⟩

def withdrawalDocket (state : BridgeStorage) :
    Docket Hash AethelredBurn WithdrawalStatus WithdrawalProposal :=
  ⟨state.getBurn, state.getBurnStatus, state.getWithdrawalProposal⟩

/-- No deposit or burn is both pending and done. -/
structure Apart (state : BridgeStorage) : Prop where
  deposits : ∀ id, state.deposits.lookup id = none ∨ state.pendingDeposits.lookup id = none
  burns : ∀ id, state.burns.lookup id = none ∨ state.pendingBurns.lookup id = none

theorem lookup_insert_update {ν : Type} (m : Map Hash ν) (key : Hash) (value : ν) :
    (m.insert key value).lookup = update m.lookup key (some value) := by
  funext other
  rw [Map.lookup_insert_eq, update_apply]

theorem lookup_orInsert {ν : Type} (m : Map Hash ν) (key : Hash) (value : ν) :
    (orInsert m key value).lookup =
      update m.lookup key (some ((m.lookup key).getD value)) := by
  unfold orInsert
  split
  next present found => rw [found, getD_some, ← found, update_eq_self]
  next absent => rw [absent, getD_none, lookup_insert_update]

theorem hasDeposit_eq (state : BridgeStorage) (id : Hash) :
    state.hasDeposit id = (state.getDeposit id).isSome := by
  rw [hasDeposit, getDeposit, isSome_or]

theorem hasBurn_eq (state : BridgeStorage) (id : Hash) :
    state.hasBurn id = (state.getBurn id).isSome := by
  rw [hasBurn, getBurn, isSome_or]

section Shelves

variable {ν : Type} {stored pending : Map Hash ν} {key : Hash} {value : ν}

theorem or_insert_erase (stored pending : Map Hash ν) (key : Hash) (value : ν) :
    (fun id => ((stored.insert key value).lookup id).or ((pending.erase key).lookup id)) =
      update (fun id => (stored.lookup id).or (pending.lookup id)) key (some value) := by
  funext id
  rw [Map.lookup_insert_eq, Map.lookup_erase_eq, update_apply]
  split <;> rfl

theorem or_insert (fresh : stored.lookup key = none) :
    (fun id => (stored.lookup id).or ((pending.insert key value).lookup id)) =
      update (fun id => (stored.lookup id).or (pending.lookup id)) key (some value) := by
  funext id
  rw [Map.lookup_insert_eq, update_apply]
  split
  next same =>
    rw [same, fresh]
    rfl
  next => rfl

section

variable (apart : ∀ id, stored.lookup id = none ∨ pending.lookup id = none)
include apart

theorem or_move (found : pending.lookup key = some value) :
    (fun id => ((stored.insert key value).lookup id).or ((pending.erase key).lookup id)) =
      fun id => (stored.lookup id).or (pending.lookup id) := by
  rw [or_insert_erase]
  have before : (stored.lookup key).or (pending.lookup key) = some value := by
    rw [(apart key).resolve_right (by rw [found]; exact some_ne_none value), found]
    rfl
  rw [← before, update_eq_self]

theorem apart_insert_erase (id : Hash) :
    (stored.insert key value).lookup id = none ∨ (pending.erase key).lookup id = none := by
  rw [Map.lookup_insert_eq, Map.lookup_erase_eq]
  split
  · exact .inr rfl
  · exact apart id

theorem apart_insert (fresh : stored.lookup key = none) (id : Hash) :
    stored.lookup id = none ∨ (pending.insert key value).lookup id = none := by
  rw [Map.lookup_insert_eq]
  split
  next same => exact .inl (same ▸ fresh)
  next => exact apart id

end

end Shelves

theorem mintDocket_storeDeposit (state : BridgeStorage) (deposit : EthereumDeposit) :
    (state.storeDeposit deposit).mintDocket =
      ⟨update state.getDeposit deposit.depositId (some deposit),
        update state.getDepositStatus deposit.depositId
          (some ((state.getDepositStatus deposit.depositId).getD .Confirmed)),
        state.getMintProposal⟩ := by
  unfold mintDocket
  congr 1
  · exact or_insert_erase state.deposits state.pendingDeposits deposit.depositId deposit
  · exact lookup_orInsert state.depositStatuses deposit.depositId .Confirmed

theorem mintDocket_storePendingDeposit {deposit : EthereumDeposit}
    (fresh : state.getDeposit deposit.depositId = none) :
    (state.storePendingDeposit deposit).mintDocket =
      ⟨update state.getDeposit deposit.depositId (some deposit),
        update state.getDepositStatus deposit.depositId (some .Pending),
        state.getMintProposal⟩ := by
  unfold mintDocket
  congr 1
  · exact or_insert (or_eq_none_iff.mp fresh).1
  · exact lookup_insert_update ..

theorem mintDocket_updateDepositStatus (apart : state.Apart) (id : Hash) (status : DepositStatus) :
    (state.updateDepositStatus id status).mintDocket =
      ⟨state.getDeposit, update state.getDepositStatus id (some status),
        state.getMintProposal⟩ := by
  unfold updateDepositStatus
  split
  next deposit settles found =>
    unfold mintDocket
    congr 1
    · exact or_move apart.deposits found
    · exact lookup_insert_update ..
  next =>
    unfold mintDocket
    congr 1
    exact lookup_insert_update ..

theorem mintDocket_storeMintProposal (state : BridgeStorage) (proposal : MintProposal) :
    (state.storeMintProposal proposal).mintDocket =
      ⟨state.getDeposit, state.getDepositStatus,
        update state.getMintProposal proposal.proposalId (some proposal)⟩ := by
  unfold mintDocket
  congr 1
  exact lookup_insert_update ..

theorem mintDocket_updateMintProposalStatus {id : Hash} {proposal : MintProposal}
    (found : state.getMintProposal id = some proposal) (now : UInt64)
    (status : MintProposalStatus) :
    (state.updateMintProposalStatus now id status).mintDocket =
      ⟨state.getDeposit, state.getDepositStatus, update state.getMintProposal id
        (some { proposal with status, updatedAt := now })⟩ := by
  simp only [getMintProposal] at found
  simp only [updateMintProposalStatus, found, mintDocket]
  congr 1
  exact lookup_insert_update ..

theorem Apart.updateDepositStatus (apart : state.Apart) (id : Hash) (status : DepositStatus) :
    (state.updateDepositStatus id status).Apart := by
  unfold BridgeStorage.updateDepositStatus
  split
  · exact ⟨apart_insert_erase apart.deposits, apart.burns⟩
  · exact ⟨apart.deposits, apart.burns⟩

theorem Apart.updateMintProposalStatus (apart : state.Apart) (now : UInt64) (id : Hash)
    (status : MintProposalStatus) : (state.updateMintProposalStatus now id status).Apart := by
  unfold BridgeStorage.updateMintProposalStatus
  split
  · exact ⟨apart.deposits, apart.burns⟩
  · exact apart

theorem withdrawalDocket_updateDepositStatus (state : BridgeStorage) (id : Hash)
    (status : DepositStatus) :
    (state.updateDepositStatus id status).withdrawalDocket = state.withdrawalDocket := by
  unfold updateDepositStatus
  split <;> rfl

theorem withdrawalDocket_updateMintProposalStatus (state : BridgeStorage) (now : UInt64)
    (id : Hash) (status : MintProposalStatus) :
    (state.updateMintProposalStatus now id status).withdrawalDocket = state.withdrawalDocket := by
  unfold updateMintProposalStatus
  split <;> rfl

theorem updateMintProposalStatus_of_none {id : Hash} (absent : state.getMintProposal id = none)
    (now : UInt64) (status : MintProposalStatus) :
    state.updateMintProposalStatus now id status = state := by
  simp only [getMintProposal] at absent
  simp only [updateMintProposalStatus, absent]

theorem withdrawalDocket_storeBurn (state : BridgeStorage) (burn : AethelredBurn) :
    (state.storeBurn burn).withdrawalDocket =
      ⟨update state.getBurn burn.burnId (some burn),
        update state.getBurnStatus burn.burnId
          (some ((state.getBurnStatus burn.burnId).getD .Confirmed)),
        state.getWithdrawalProposal⟩ := by
  unfold withdrawalDocket
  congr 1
  · exact or_insert_erase state.burns state.pendingBurns burn.burnId burn
  · exact lookup_orInsert state.burnStatuses burn.burnId .Confirmed

theorem withdrawalDocket_storePendingBurn {burn : AethelredBurn}
    (fresh : state.getBurn burn.burnId = none) :
    (state.storePendingBurn burn).withdrawalDocket =
      ⟨update state.getBurn burn.burnId (some burn),
        update state.getBurnStatus burn.burnId (some .Pending),
        state.getWithdrawalProposal⟩ := by
  unfold withdrawalDocket
  congr 1
  · exact or_insert (or_eq_none_iff.mp fresh).1
  · exact lookup_insert_update ..

theorem withdrawalDocket_updateBurnStatus (apart : state.Apart) (id : Hash)
    (status : WithdrawalStatus) :
    (state.updateBurnStatus id status).withdrawalDocket =
      ⟨state.getBurn, update state.getBurnStatus id (some status),
        state.getWithdrawalProposal⟩ := by
  unfold updateBurnStatus
  split
  next burn settles found =>
    unfold withdrawalDocket
    congr 1
    · exact or_move apart.burns found
    · exact lookup_insert_update ..
  next =>
    unfold withdrawalDocket
    congr 1
    exact lookup_insert_update ..

theorem withdrawalDocket_updateWithdrawalStatus (state : BridgeStorage) (id : Hash)
    (status : WithdrawalStatus) :
    (state.updateWithdrawalStatus id status).withdrawalDocket =
      ⟨state.getBurn, update state.getBurnStatus id (some status),
        state.getWithdrawalProposal⟩ := by
  unfold withdrawalDocket
  congr 1
  exact lookup_insert_update ..

theorem withdrawalDocket_storeWithdrawalProposal (state : BridgeStorage)
    (proposal : WithdrawalProposal) :
    (state.storeWithdrawalProposal proposal).withdrawalDocket =
      ⟨state.getBurn, state.getBurnStatus,
        update state.getWithdrawalProposal proposal.proposalId (some proposal)⟩ := by
  unfold withdrawalDocket
  congr 1
  exact lookup_insert_update ..

theorem withdrawalDocket_updateWithdrawalProposalStatus {id : Hash}
    {proposal : WithdrawalProposal} (found : state.getWithdrawalProposal id = some proposal)
    (now : UInt64) (status : WithdrawalProposalStatus) :
    (state.updateWithdrawalProposalStatus now id status).withdrawalDocket =
      ⟨state.getBurn, state.getBurnStatus, update state.getWithdrawalProposal id
        (some { proposal with status, updatedAt := now })⟩ := by
  simp only [getWithdrawalProposal] at found
  simp only [updateWithdrawalProposalStatus, found, withdrawalDocket]
  congr 1
  exact lookup_insert_update ..

theorem Apart.updateBurnStatus (apart : state.Apart) (id : Hash) (status : WithdrawalStatus) :
    (state.updateBurnStatus id status).Apart := by
  unfold BridgeStorage.updateBurnStatus
  split
  · exact ⟨apart.deposits, apart_insert_erase apart.burns⟩
  · exact ⟨apart.deposits, apart.burns⟩

theorem Apart.updateWithdrawalProposalStatus (apart : state.Apart) (now : UInt64) (id : Hash)
    (status : WithdrawalProposalStatus) :
    (state.updateWithdrawalProposalStatus now id status).Apart := by
  unfold BridgeStorage.updateWithdrawalProposalStatus
  split
  · exact ⟨apart.deposits, apart.burns⟩
  · exact apart

theorem mintDocket_updateBurnStatus (state : BridgeStorage) (id : Hash)
    (status : WithdrawalStatus) :
    (state.updateBurnStatus id status).mintDocket = state.mintDocket := by
  unfold updateBurnStatus
  split <;> rfl

end BridgeStorage

end Relayer
