import Aethelred.Contracts.CruzibleDelegation

/- Runs of the vault: calls of its functions by anyone, and whatever else happens to the two
tokens. -/
namespace Cruzible

open Evm Function

/-- The functions of the vault that change its state, with their arguments. -/
inductive Function where
  | stake (amount : Nat)
  | unstake (shares : Nat)
  | withdraw (withdrawalId : Key)
  | batchWithdraw (withdrawalIds : List Key)
  | updateValidatorSet (attestation : Attestation) (data : ValidatorData) (epoch : Key)
  | slashValidator (validator : Address)
  | distributeRewards (attestation : Attestation) (epoch : Key) (totalRewards : Nat)
      (merkleRoot : Bytes32) (protocolFee : Nat)
  | submitMEVRevenue (attestation : Attestation) (epoch : Key) (mevAmount : Nat)
  | claimRewards (epoch : Key) (amount : Nat) (proof : List Bytes32)
  | commitUniverseHash (epoch : Key) (universeHash : Bytes32)
  | commitStakeSnapshot (epoch : Key) (snapshotHash : Bytes32) (totalSharesAtSnapshot : Nat)
  | commitDelegationSnapshot (attestation : Attestation) (epoch : Key)
      (delegationRoot stakerRegistryRoot : Bytes32) (stakerCount : Nat)
  | submitDelegationVote (attestation : Attestation) (epoch : Key)
      (delegationRoot stakerRegistryRoot : Bytes32) (stakerCount : Nat)
  | revokeDelegationSnapshot (epoch : Key)
  | depositKeeperBond (amount : Nat)
  | withdrawKeeperBond (amount : Nat)
  | slashKeeperBond (keeper : Address) (amount : Nat) (recipient : Address)
  | releaseKeeperBondFreeze (keeper : Address)
  | challengeDelegationCommitment (epoch : Key)
  | confirmDelegationFraud (epoch : Key)
  | claimChallengerBond (epoch : Key)
  | setTreasury (newTreasury : Address)
  | setTEEVerifier (newVerifier : Address)
  | setSelectionPolicyHash (policyHash : Bytes32)
  | setDelegationQuorumEnabled (enabled : Bool)
  | pause
  | unpause
  | grantRole (role : Bytes32) (account : Address)
  | revokeRole (role : Bytes32) (account : Address)
  | renounceRole (role : Bytes32) (callerConfirmation : Address)

variable (env : Environment) (sender : Address)

def Function.execute (chain : Chain) :
    Function → Except Error Chain
  | .stake amount => (Cruzible.stake env sender amount chain).map (·.1)
  | .unstake shares => (Cruzible.unstake env sender shares chain).map (·.1)
  | .withdraw id => (Cruzible.withdraw env sender id chain).map (·.1)
  | .batchWithdraw ids => (Cruzible.batchWithdraw env sender ids chain).map (·.1)
  | .updateValidatorSet attestation data epoch =>
    Cruzible.updateValidatorSet env sender attestation data epoch chain
  | .slashValidator validator => Cruzible.slashValidator sender validator chain
  | .distributeRewards attestation epoch totalRewards merkleRoot protocolFee =>
    Cruzible.distributeRewards env sender attestation epoch totalRewards merkleRoot protocolFee
      chain
  | .submitMEVRevenue attestation epoch mevAmount =>
    Cruzible.submitMEVRevenue env sender attestation epoch mevAmount chain
  | .claimRewards epoch amount proof => Cruzible.claimRewards env sender epoch amount proof chain
  | .commitUniverseHash epoch hash => Cruzible.commitUniverseHash sender epoch hash chain
  | .commitStakeSnapshot epoch hash shares =>
    Cruzible.commitStakeSnapshot sender epoch hash shares chain
  | .commitDelegationSnapshot attestation epoch root registry count =>
    Cruzible.commitDelegationSnapshot env sender attestation epoch root registry count chain
  | .submitDelegationVote attestation epoch root registry count =>
    Cruzible.submitDelegationVote env sender attestation epoch root registry count chain
  | .revokeDelegationSnapshot epoch => Cruzible.revokeDelegationSnapshot sender epoch chain
  | .depositKeeperBond amount => Cruzible.depositKeeperBond env sender amount chain
  | .withdrawKeeperBond amount => Cruzible.withdrawKeeperBond env sender amount chain
  | .slashKeeperBond keeper amount recipient =>
    Cruzible.slashKeeperBond env sender keeper amount recipient chain
  | .releaseKeeperBondFreeze keeper => Cruzible.releaseKeeperBondFreeze sender keeper chain
  | .challengeDelegationCommitment epoch =>
    Cruzible.challengeDelegationCommitment env sender epoch chain
  | .confirmDelegationFraud epoch => Cruzible.confirmDelegationFraud sender epoch chain
  | .claimChallengerBond epoch => Cruzible.claimChallengerBond env sender epoch chain
  | .setTreasury treasury => Cruzible.setTreasury sender treasury chain
  | .setTEEVerifier verifier => Cruzible.setTEEVerifier sender verifier chain
  | .setSelectionPolicyHash hash => Cruzible.setSelectionPolicyHash sender hash chain
  | .setDelegationQuorumEnabled enabled => Cruzible.setDelegationQuorumEnabled sender enabled chain
  | .pause => Cruzible.pause sender chain
  | .unpause => Cruzible.unpause sender chain
  | .grantRole role account => Cruzible.grantRole sender role account chain
  | .revokeRole role account => Cruzible.revokeRole sender role account chain
  | .renounceRole role account => Cruzible.renounceRole sender role account chain

inductive AethelCall where
  | transfer (recipient : Address) (amount : Nat)
  | transferFrom (owner recipient : Address) (amount : Nat)
  | approve (spender : Address) (amount : Nat)

def AethelCall.execute (token : Erc20) : AethelCall → Except Erc20.Error Erc20
  | .transfer recipient amount => token.transfer sender recipient amount
  | .transferFrom owner recipient amount => token.transferFrom sender owner recipient amount
  | .approve spender amount => token.approve sender spender amount

/-- Calls of the share token by its holders and its administrators. -/
inductive StAethelCall where
  | transfer (recipient : Address) (amount : Nat)
  | transferFrom (owner recipient : Address) (amount : Nat)
  | approve (spender : Address) (amount : Nat)
  | setBlacklisted (account : Address) (status : Bool)
  | pause
  | unpause

def StAethelCall.execute (token : StAethel.Storage) :
    StAethelCall → Except StAethel.Error StAethel.Storage
  | .transfer recipient amount => token.transfer env.keccak256 sender recipient amount
  | .transferFrom owner recipient amount =>
    token.transferFrom env.keccak256 sender owner recipient amount
  | .approve spender amount => token.approve sender spender amount
  | .setBlacklisted account status => token.setBlacklisted sender account status
  | .pause => token.pause sender
  | .unpause => token.unpause sender

/-- Blocks pass, and anyone calls the vault and its two tokens. -/
inductive Action where
  | advance (blocks seconds : Nat)
  | call (sender : Address) (function : Function)
  | aethel (sender : Address) (call : AethelCall)
  | stAethel (sender : Address) (call : StAethelCall)

/-- A call that reverts changes nothing. The vault calls the tokens in its own functions only, so no
call of a token comes from its address otherwise. -/
def step (chain : Chain) : Action → Chain
  | .advance blocks seconds => { chain with block := chain.block.advance blocks seconds }
  | .call sender function => (function.execute env sender chain).toOption.getD chain
  | .aethel sender call =>
    if sender = env.address then chain
    else { chain with aethel := (call.execute sender chain.aethel).toOption.getD chain.aethel }
  | .stAethel sender call =>
    if sender = env.address then chain
    else { chain with
      stAethel := (call.execute env sender chain.stAethel).toOption.getD chain.stAethel }

def run : Chain → List Action → Chain := Run.exec (step env)

/-- The chains an initializer leaves. Nobody can have been allowed to spend the vault's tokens
before there was a vault. -/
inductive Initialized (env : Environment) : Chain → Prop where
  | legacy {block aethel stAethel admin aethelAddr stAethelAddr verifier treasury chain}
      (unapproved : aethel.Unapproved env.address)
      (done : legacyInitialize env admin aethelAddr stAethelAddr verifier treasury
        (Chain.blank block aethel stAethel) = .ok chain) : Initialized env chain
  | timelock {block aethel stAethel admin upgraderTimelock aethelAddr stAethelAddr verifier treasury
      chain}
      (unapproved : aethel.Unapproved env.address)
      (done : initializeWithTimelock env admin upgraderTimelock aethelAddr stAethelAddr verifier
        treasury (Chain.blank block aethel stAethel) = .ok chain) : Initialized env chain

theorem initializeVault_eq_ok {admin upgrader aethel stAethel verifier treasury : Address}
    {chain next : Chain}
    (done : initializeVault admin upgrader aethel stAethel verifier treasury chain = .ok next) :
    ∃ access, next = { chain with vault := { chain.vault with
      access
      treasury
      currentEpoch := 1
      epochStartTime := chain.block.timestamp
      nextWithdrawalId := 1 } } := by
  simp only [initializeVault, revertIf_bind_eq_ok] at done
  obtain ⟨-, -, -, -, -, -, done⟩ := done
  exact ⟨_, (Except.ok.inj done).symm⟩

theorem initialized_eq {env : Environment} {chain : Chain} (initialized : Initialized env chain) :
    ∃ block aethel stAethel access treasury, aethel.Unapproved env.address ∧
      chain = { Chain.blank block aethel stAethel with vault := { Storage.blank with
        access
        treasury
        currentEpoch := 1
        epochStartTime := block.timestamp
        nextWithdrawalId := 1 } } := by
  cases initialized with
  | legacy unapproved done =>
    obtain ⟨-, done⟩ := revertIf_bind_eq_ok.mp done
    obtain ⟨access, rfl⟩ := initializeVault_eq_ok done
    exact ⟨_, _, _, access, _, unapproved, rfl⟩
  | timelock unapproved done =>
    obtain ⟨-, -, done⟩ := Except.bind_eq_ok.mp done
    obtain ⟨-, -, done⟩ := Except.bind_eq_ok.mp done
    obtain ⟨-, done⟩ := revertIf_bind_eq_ok.mp done
    obtain ⟨access, rfl⟩ := initializeVault_eq_ok done
    exact ⟨_, _, _, access, _, unapproved, rfl⟩

/-- A vault with a share token of its own, which nobody has used yet. -/
structure Launched (env : Environment) (chain : Chain) : Prop where
  initialized : Initialized env chain
  fresh : ∃ admin upgrader vault,
    StAethel.initializeStAethel admin upgrader vault = .ok chain.stAethel

/-- A local chain to run examples on, with the vault at 0xc. -/
def localnet : Environment where
  keccak256 := fun words =>
    if words = [7, MIN_STAKE]
    then 0xfd0aec6e8a35d0743eca59e298eb02f9b2c04270405062b3001ef8af49ee5eae else 0
  sha256 := fun _ => 0
  address := 0xc
  chainId := 31337
  hasCode := fun _ => false
  getMinDelay := fun _ => 0

def purses : Erc20 where
  balanceOf := fun _ => 10 ^ 24
  allowance := fun owner spender => if owner ≠ 0xc ∧ spender = 0xc then 10 ^ 24 else 0

def localShares : StAethel.Storage :=
  ((StAethel.initializeStAethel 0xa 0xa 0xc).toOption).getD StAethel.Storage.blank

/-- The vault of the local chain with its admin at 0xa, as its own treasury. -/
def localVault : Chain :=
  ((legacyInitialize localnet 0xa 1 2 3 0xc
    (Chain.blank ⟨1, 1719000000, Evm.launched⟩ purses localShares)).toOption).getD
    (Chain.blank ⟨1, 1719000000, Evm.launched⟩ purses localShares)

theorem purses_unapproved : purses.Unapproved localnet.address := by
  intro spender
  simp [purses, localnet]

theorem localVault_initialized : Initialized localnet localVault := by
  have done : legacyInitialize localnet 0xa 1 2 3 0xc
      (Chain.blank ⟨1, 1719000000, Evm.launched⟩ purses localShares) = .ok localVault := rfl
  exact .legacy purses_unapproved done

theorem localVault_launched : Launched localnet localVault where
  initialized := localVault_initialized
  fresh := ⟨0xa, 0xa, 0xc, rfl⟩

/- The delegation protocol of the vault on its own: votes, commitments, challenges and bonds,
without the tokens and attestations around them. -/

structure Delegation where
  now : Nat
  epoch : Key
  root : Key → Bytes32
  finalized : Key → Bool
  voteCount : Key → Bytes32 → Nat
  voted : Key → Address → Bool
  attestors : Key → List Address
  committer : Key → Address
  bonds : Address → Nat
  frozen : Address → Bool
  challengeCount : Key → Nat
  challengers : Key → Address → Bool
  succeeded : Key → Bool
  revokedAt : Key → Nat

def Chain.delegation (chain : Chain) : Delegation where
  now := chain.block.timestamp
  epoch := chain.vault.currentEpoch
  root := EpochSnapshot.delegationRegistryRoot ∘ chain.vault.epochSnapshots
  finalized := EpochSnapshot.finalized ∘ chain.vault.epochSnapshots
  voteCount := chain.vault.delegationVoteCount
  voted := chain.vault.delegationAttestorVoted
  attestors := chain.vault.delegationEpochAttestors
  committer := chain.vault.delegationCommitter
  bonds := chain.vault.keeperBonds
  frozen := chain.vault.keeperBondFrozen
  challengeCount := chain.vault.delegationChallengeCount
  challengers := chain.vault.delegationChallengers
  succeeded := chain.vault.delegationChallengeSucceeded
  revokedAt := chain.vault.delegationAutoRevokedAt

inductive Move where
  | idle
  | advance (seconds : Nat)
  | vote (attestor : Address) (epoch : Key) (root : Bytes32)
  | commit (keeper : Address) (epoch : Key) (root : Bytes32)
  | challenge (challenger : Address) (epoch : Key)
  | revoke (epoch : Key)
  | confirm (epoch : Key)
  | deposit (keeper : Address) (amount : Nat)
  | withdraw (keeper : Address) (amount : Nat)
  | slash (keeper : Address) (amount : Nat)
  | release (keeper : Address)
  | finalize (epoch : Key)

namespace Delegation

variable (state : Delegation) (epoch : Key) (account : Address)

/-- The account has put a root of the epoch forward. -/
def Submitted : Prop :=
  state.voted epoch account = true ∨ state.committer epoch = account

/-- A root of the epoch has been revoked by challenges, and the guardian may still rule on it. -/
def Adjudicating : Prop :=
  0 < state.revokedAt epoch ∧ state.succeeded epoch = false ∧
    state.now ≤ state.revokedAt epoch + CHALLENGE_ADJUDICATION_PERIOD

/-- There is a root of the epoch, and it has not been used. -/
def Open : Prop := state.root epoch ≠ 0 ∧ state.finalized epoch = false

/-- The account has submitted for the epoch, which is not decided yet. -/
def Locked : Prop :=
  state.Submitted state.epoch account ∧
    (state.Open state.epoch ∨ state.Adjudicating state.epoch)

instance : Decidable (state.Submitted epoch account) :=
  inferInstanceAs (Decidable (_ ∨ _))

instance : Decidable (state.Adjudicating epoch) :=
  inferInstanceAs (Decidable (_ ∧ _))

instance : Decidable (state.Open epoch) := inferInstanceAs (Decidable (_ ∧ _))

def afterVote (attestor : Address) (epoch : Key) (root : Bytes32) : Delegation :=
  let votes := state.voteCount epoch root + 1
  { state with
    voted := update state.voted epoch (update (state.voted epoch) attestor true)
    attestors := update state.attestors epoch (state.attestors epoch ++ [attestor])
    voteCount := update state.voteCount epoch
      (update (state.voteCount epoch) root votes)
    root := if DELEGATION_QUORUM ≤ votes then update state.root epoch root
      else state.root }

variable (keeper : Address)

def afterCommit (epoch : Key) (root : Bytes32) : Delegation :=
  { state with
    committer := update state.committer epoch keeper
    root := update state.root epoch root }

def freezeSubmitters : Address → Bool :=
  (state.attestors epoch).foldl (fun frozen attestor => update frozen attestor true)
    (if state.committer epoch ≠ 0 then update state.frozen (state.committer epoch) true
      else state.frozen)

def afterChallenge (challenger : Address) (epoch : Key) : Delegation :=
  let challenges := state.challengeCount epoch + 1
  let flagged : Delegation := { state with
    challengers := update state.challengers epoch
      (update (state.challengers epoch) challenger true)
    challengeCount := update state.challengeCount epoch challenges }
  if DELEGATION_CHALLENGE_THRESHOLD ≤ challenges then
    { flagged with
      root := update state.root epoch 0
      revokedAt := update state.revokedAt epoch state.now }
  else flagged

def afterRevoke : Delegation :=
  { state with
    frozen := state.freezeSubmitters epoch
    root := update state.root epoch 0
    succeeded := update state.succeeded epoch true }

def afterConfirm : Delegation :=
  { state with
    frozen := state.freezeSubmitters epoch
    succeeded := update state.succeeded epoch true }

def afterBond (bond : Nat) : Delegation :=
  { state with bonds := update state.bonds keeper bond }

def afterRelease : Delegation :=
  { state with frozen := update state.frozen keeper false }

def afterFinalize (epoch following : Key) : Delegation :=
  { state with
    finalized := update state.finalized epoch true
    epoch := following }

/-- The moves the vault accepts, with what each of them checks. -/
inductive Moves : Move → Delegation → Prop where
  | idle : Moves .idle state
  | advance {seconds : Nat} : Moves (.advance seconds) { state with now := state.now + seconds }
  | vote {attestor : Address} {epoch : Key} {root : Bytes32} (current : epoch = state.epoch)
      (vacant : state.root epoch = 0) (bonded : KEEPER_BOND_MINIMUM ≤ state.bonds attestor)
      (fresh : state.voted epoch attestor = false) :
      Moves (.vote attestor epoch root) (state.afterVote attestor epoch root)
  | commit {keeper : Address} {epoch : Key} {root : Bytes32} (current : epoch = state.epoch)
      (vacant : state.root epoch = 0) (bonded : KEEPER_BOND_MINIMUM ≤ state.bonds keeper) :
      Moves (.commit keeper epoch root) (state.afterCommit keeper epoch root)
  | challenge {challenger : Address} {epoch : Key} (current : epoch = state.epoch)
      (live : state.Open epoch) (fresh : state.challengers epoch challenger = false) :
      Moves (.challenge challenger epoch) (state.afterChallenge challenger epoch)
  | revoke {epoch : Key} (current : epoch = state.epoch) (live : state.Open epoch) :
      Moves (.revoke epoch) (state.afterRevoke epoch)
  | confirm {epoch : Key} (revoked : 0 < state.revokedAt epoch)
      (soon : state.now ≤ state.revokedAt epoch + CHALLENGE_ADJUDICATION_PERIOD) :
      Moves (.confirm epoch) (state.afterConfirm epoch)
  | deposit {keeper : Address} {amount : Nat} (someone : keeper ≠ 0) :
      Moves (.deposit keeper amount) (state.afterBond keeper (state.bonds keeper + amount))
  | withdraw {keeper : Address} {amount : Nat} (held : amount ≤ state.bonds keeper)
      (thawed : state.frozen keeper = false) (unlocked : ¬state.Locked keeper) :
      Moves (.withdraw keeper amount) (state.afterBond keeper (state.bonds keeper - amount))
  | slash {keeper : Address} {amount : Nat} (held : amount ≤ state.bonds keeper) :
      Moves (.slash keeper amount)
        ((state.afterBond keeper (state.bonds keeper - amount)).afterRelease keeper)
  | release {keeper : Address} : Moves (.release keeper) (state.afterRelease keeper)
  | finalize {epoch following : Key} (current : epoch = state.epoch)
      (unused : state.finalized epoch = false) (later : following.val = epoch.val + 1) :
      Moves (.finalize epoch) (state.afterFinalize epoch following)

end Delegation

def Function.move (sender : Address) : Function → Move
  | .submitDelegationVote _ epoch root _ _ => .vote sender epoch root
  | .commitDelegationSnapshot _ epoch root _ _ => .commit sender epoch root
  | .challengeDelegationCommitment epoch => .challenge sender epoch
  | .revokeDelegationSnapshot epoch => .revoke epoch
  | .confirmDelegationFraud epoch => .confirm epoch
  | .depositKeeperBond amount => .deposit sender amount
  | .withdrawKeeperBond amount => .withdraw sender amount
  | .slashKeeperBond keeper amount _ => .slash keeper amount
  | .releaseKeeperBondFreeze keeper => .release keeper
  | .distributeRewards _ epoch _ _ _ => .finalize epoch
  | _ => .idle

def moveOf (env : Environment) (chain : Chain) : Action → Move
  | .advance _ seconds => .advance seconds
  | .call sender function =>
    match function.execute env sender chain with
    | .ok _ => function.move sender
    | .error _ => .idle
  | .aethel _ _ => .idle
  | .stAethel _ _ => .idle

end Cruzible
