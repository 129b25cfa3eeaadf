import Aethelred.Contracts.Cruzible

/- Cruzible.sol: the validator set, delegation commitments, bonds and challenges. -/
namespace Cruzible

open Evm AccessControl Function

section Validators

variable (env : Environment)

structure ValidatorRow where
  addr : Address
  stake : Nat
  perfScore : Nat
  decentScore : Nat
  repScore : Nat
  compositeScore : Nat
  teeKey : Bytes32
  commission : Nat

/-- The arrays `validatorData` decodes to. -/
structure ValidatorData where
  addrs : List Address
  stakes : List Nat
  perfScores : List Nat
  decentScores : List Nat
  repScores : List Nat
  compositeScores : List Nat
  teeKeys : List Bytes32
  commissions : List Nat

def ValidatorData.row (data : ValidatorData) (index : Nat) : Except Error ValidatorRow :=
  match data.addrs[index]?, data.stakes[index]?, data.perfScores[index]?,
    data.decentScores[index]?, data.repScores[index]?, data.compositeScores[index]?,
    data.teeKeys[index]?, data.commissions[index]? with
  | some addr, some stake, some perfScore, some decentScore, some repScore, some compositeScore,
      some teeKey, some commission =>
      .ok { addr, stake, perfScore, decentScore, repScore, compositeScore, teeKey, commission }
  | _, _, _, _, _, _, _, _ => .error .outOfBounds

/-- The bytes of "CruzibleValidatorSet-v1". -/
def validatorSetTag : Nat := 0x4372757a69626c6556616c696461746f725365742d7631

def computeValidatorSetHash (epoch : Key) (rows : List ValidatorRow) : Bytes32 :=
  env.sha256 ([validatorSetTag, epoch.val % 2 ^ 64, rows.length % 2 ^ 32] ++ rows.map fun row =>
    (env.sha256 [row.addr.val, row.stake, row.perfScore, row.decentScore, row.repScore,
      row.compositeScore, row.teeKey.val, row.commission]).val)

def activate (now : Nat) (chain : Chain) (row : ValidatorRow) : Except Error Chain := do
  let before := chain.vault.validators row.addr
  revertIf (before.isActive = true) (.DuplicateValidator row.addr)
  return { chain with
    vault.validators := update chain.vault.validators row.addr
      { validatorAddress := row.addr
        delegatedStake := row.stake
        performanceScore := row.perfScore
        decentralizationScore := row.decentScore
        reputationScore := row.repScore
        compositeScore := row.compositeScore
        teePublicKey := row.teeKey
        commission := min row.commission MAX_COMMISSION_BPS
        activeSince := now
        slashCount := before.slashCount
        isActive := true }
    vault.activeValidators := chain.vault.activeValidators ++ [row.addr] }

def deactivate (validators : Address → ValidatorInfo) (addr : Address) : Address → ValidatorInfo :=
  update validators addr { validators addr with isActive := false }

variable (sender : Address) (attestation : Attestation)

def updateValidatorSet (data : ValidatorData)
    (epoch : Key) (chain : Chain) : Except Error Chain := do
  onlyRole chain ORACLE_ROLE sender
  whenNotPaused chain
  currentEpochOnly chain epoch
  revertIf (attestation.valid = false) .InvalidAttestation
  let rows ← (List.range data.addrs.length).mapM data.row
  let canonicalHash := computeValidatorSetHash env epoch rows
  revertIf (attestation.payload.length ≠ 3) .InvalidAttestation
  revertIf (attestation.word 0 ≠ canonicalHash) .InvalidAttestation
  revertIf (attestation.word 1 ≠ chain.vault.selectionPolicyHash)
    (.SelectionPolicyMismatch (attestation.word 1) chain.vault.selectionPolicyHash)
  let committed := (chain.vault.epochSnapshots epoch).eligibleUniverseHash
  revertIf (attestation.word 2 ≠ committed)
    (.EligibleUniverseMismatch (attestation.word 2) committed)
  revertIf (rows.length < MIN_VALIDATORS) (.InsufficientValidators rows.length MIN_VALIDATORS)
  revertIf (MAX_VALIDATORS < rows.length) .ExceedsMaxValidators
  let cleared : Chain := { chain with
    vault.lastEligibleUniverseHash := attestation.word 2
    vault.validators := chain.vault.activeValidators.foldl deactivate chain.vault.validators
    vault.activeValidators := [] }
  let filled ← rows.foldlM (activate chain.block.timestamp) cleared
  return { filled with
    vault.epochSnapshots := update filled.vault.epochSnapshots epoch
      { filled.vault.epochSnapshots epoch with validatorSetHash := canonicalHash } }

def swapRemove (addresses : List Address) (address : Address) : List Address :=
  match addresses.findIdx? (· = address), addresses.getLast? with
  | some index, some last => (addresses.set index last).dropLast
  | _, _ => addresses

def slashValidator (sender validator : Address) (chain : Chain) : Except Error Chain := do
  onlyRole chain GUARDIAN_ROLE sender
  let info := chain.vault.validators validator
  revertIf (info.isActive = false) (.ValidatorNotActive validator)
  let slashCount ← checkedAdd .arithmetic info.slashCount 1
  return { chain with
    vault.validators := update chain.vault.validators validator
      { info with slashCount, isActive := false }
    vault.activeValidators := swapRemove chain.vault.activeValidators validator }

variable (chain : Chain)

def withSnapshot (epoch : Key) (change : EpochSnapshot → EpochSnapshot) : Chain :=
  { chain with
    vault.epochSnapshots := update chain.vault.epochSnapshots epoch
      (change (chain.vault.epochSnapshots epoch)) }

def commitUniverseHash (epoch : Key) (universeHash : Bytes32) (chain : Chain) :
    Except Error Chain := do
  onlyRole chain KEEPER_ROLE sender
  currentEpochOnly chain epoch
  revertIf ((chain.vault.epochSnapshots epoch).eligibleUniverseHash ≠ 0)
    (.UniverseHashAlreadyCommitted epoch)
  return withSnapshot chain epoch fun snapshot =>
    { snapshot with eligibleUniverseHash := universeHash }

def commitStakeSnapshot (epoch : Key) (snapshotHash : Bytes32)
    (totalSharesAtSnapshot : Nat) (chain : Chain) : Except Error Chain := do
  onlyRole chain KEEPER_ROLE sender
  currentEpochOnly chain epoch
  revertIf ((chain.vault.epochSnapshots epoch).stakeSnapshotHash ≠ 0)
    (.StakeSnapshotAlreadyCommitted epoch)
  let onChain := chain.stAethel.totalShares
  revertIf (totalSharesAtSnapshot ≠ onChain) (.SnapshotSharesMismatch totalSharesAtSnapshot onChain)
  return withSnapshot chain epoch fun snapshot =>
    { snapshot with
      stakeSnapshotHash := snapshotHash
      stakerRegistryRoot := chain.stAethel.stakerRegistryRoot }

def validateDelegationSnapshot (epoch : Key)
    (delegationRoot stakerRegistryRoot : Bytes32) (stakerCount : Nat) (chain : Chain) :
    Except Error Unit := do
  currentEpochOnly chain epoch
  let snapshot := chain.vault.epochSnapshots epoch
  revertIf (snapshot.delegationRegistryRoot ≠ 0) (.DelegationSnapshotAlreadyCommitted epoch)
  revertIf (snapshot.stakeSnapshotHash = 0) (.StakeSnapshotNotCommitted epoch)
  revertIf (stakerRegistryRoot ≠ snapshot.stakerRegistryRoot)
    (.StakerRegistryAnchorMismatch stakerRegistryRoot snapshot.stakerRegistryRoot)
  revertIf (attestation.valid = false) .DelegationAttestationInvalid
  revertIf (attestation.payload.length ≠ 3) .DelegationAttestationInvalid
  revertIf (env.keccak256 attestation.words ≠
    env.keccak256 [epoch.val, delegationRoot.val, stakerRegistryRoot.val])
    .DelegationAttestationInvalid
  revertIf (delegationRoot ≠ 0 ∧ stakerCount = 0) (.DelegationCardinalityZeroWithNonZeroRoot epoch)

def commitDelegation (epoch : Key) (delegationRoot : Bytes32) (stakerCount : Nat) (chain : Chain) :
    Chain :=
  let chain := withSnapshot chain epoch fun snapshot =>
    { snapshot with delegationRegistryRoot := delegationRoot }
  { chain with
    vault.delegationCommitTimestamp := update chain.vault.delegationCommitTimestamp epoch
      chain.block.timestamp
    vault.delegatingStakerCount := update chain.vault.delegatingStakerCount epoch
      stakerCount }

def bonded : Except Error Unit :=
  revertIf (chain.vault.keeperBonds sender < KEEPER_BOND_MINIMUM)
    (.InsufficientKeeperBond (chain.vault.keeperBonds sender) KEEPER_BOND_MINIMUM)

def commitDelegationSnapshot (epoch : Key)
    (delegationRoot stakerRegistryRoot : Bytes32) (stakerCount : Nat) (chain : Chain) :
    Except Error Chain := do
  onlyRole chain KEEPER_ROLE sender
  revertIf (chain.vault.delegationQuorumEnabled = true) (.DelegationQuorumRequired epoch)
  bonded sender chain
  validateDelegationSnapshot env attestation epoch delegationRoot stakerRegistryRoot stakerCount
    chain
  return commitDelegation epoch delegationRoot stakerCount { chain with
    vault.delegationCommitter := update chain.vault.delegationCommitter epoch sender }

def submitDelegationVote (epoch : Key)
    (delegationRoot stakerRegistryRoot : Bytes32) (stakerCount : Nat) (chain : Chain) :
    Except Error Chain := do
  onlyRole chain DELEGATION_ATTESTOR_ROLE sender
  currentEpochOnly chain epoch
  revertIf ((chain.vault.epochSnapshots epoch).delegationRegistryRoot ≠ 0)
    (.DelegationSnapshotAlreadyCommitted epoch)
  bonded sender chain
  revertIf (chain.vault.delegationAttestorVoted epoch sender = true)
    (.DelegationAttestorAlreadyVoted epoch sender)
  validateDelegationSnapshot env attestation epoch delegationRoot stakerRegistryRoot stakerCount
    chain
  let votes ← checkedAdd .arithmetic (chain.vault.delegationVoteCount epoch delegationRoot) 1
  let voted : Chain := { chain with
    vault.delegationAttestorVoted := update chain.vault.delegationAttestorVoted epoch
      (update (chain.vault.delegationAttestorVoted epoch) sender true)
    vault.delegationEpochAttestors := update chain.vault.delegationEpochAttestors epoch
      (chain.vault.delegationEpochAttestors epoch ++ [sender])
    vault.delegationVoteCount := update chain.vault.delegationVoteCount epoch
      (update (chain.vault.delegationVoteCount epoch) delegationRoot votes) }
  return if DELEGATION_QUORUM ≤ votes then commitDelegation epoch delegationRoot stakerCount voted
    else voted

def clearDelegationCommitment (epoch : Key) (chain : Chain) : Chain :=
  let chain := withSnapshot chain epoch fun snapshot => { snapshot with delegationRegistryRoot := 0 }
  { chain with
    vault.delegationCommitTimestamp := update chain.vault.delegationCommitTimestamp epoch 0
    vault.delegatingStakerCount := update chain.vault.delegatingStakerCount epoch 0 }

def freezeDelegationSubmitters (epoch : Key) (chain : Chain) : Chain :=
  let committer := chain.vault.delegationCommitter epoch
  let frozen := if committer ≠ 0 then update chain.vault.keeperBondFrozen committer true
    else chain.vault.keeperBondFrozen
  { chain with
    vault.keeperBondFrozen := (chain.vault.delegationEpochAttestors epoch).foldl
      (fun frozen attestor => update frozen attestor true) frozen }

def committedAndOpen (epoch : Key) (chain : Chain) : Except Error Unit := do
  currentEpochOnly chain epoch
  revertIf ((chain.vault.epochSnapshots epoch).delegationRegistryRoot = 0)
    (.DelegationNotCommitted epoch)
  revertIf ((chain.vault.epochSnapshots epoch).finalized = true)
    (.InvalidEpoch epoch chain.vault.currentEpoch)

def revokeDelegationSnapshot (epoch : Key) (chain : Chain) :
    Except Error Chain := do
  onlyRole chain GUARDIAN_ROLE sender
  committedAndOpen epoch chain
  let cleared := clearDelegationCommitment epoch (freezeDelegationSubmitters epoch chain)
  return { cleared with
    vault.delegationChallengeSucceeded :=
      update cleared.vault.delegationChallengeSucceeded epoch true }

def depositKeeperBond (amount : Nat) (chain : Chain) : Except Error Chain := do
  revertIf (amount = 0) .ZeroAmount
  let chain ← pull env chain sender amount
  let bond ← checkedAdd .arithmetic (chain.vault.keeperBonds sender) amount
  let bonds ← checkedAdd .arithmetic chain.vault.totalKeeperBonds amount
  return { chain with
    vault.keeperBonds := update chain.vault.keeperBonds sender bond
    vault.totalKeeperBonds := bonds }

def keeperBondLocked : Except Error Bool := do
  let epoch := chain.vault.currentEpoch
  let snapshot := chain.vault.epochSnapshots epoch
  let unfinalized := snapshot.delegationRegistryRoot ≠ 0 ∧ snapshot.finalized = false
  let revokedAt := chain.vault.delegationAutoRevokedAt epoch
  let pending ← if 0 < revokedAt ∧ chain.vault.delegationChallengeSucceeded epoch = false then do
      let deadline ← checkedAdd .arithmetic revokedAt CHALLENGE_ADJUDICATION_PERIOD
      pure (decide (chain.block.timestamp ≤ deadline))
    else pure false
  let committed := chain.vault.delegationAttestorVoted epoch sender = true ∨
    chain.vault.delegationCommitter epoch = sender
  return decide (committed ∧ (unfinalized ∨ pending = true))

def withdrawKeeperBond (amount : Nat) (chain : Chain) : Except Error Chain := do
  revertIf (amount = 0) .ZeroAmount
  revertIf (chain.vault.keeperBonds sender < amount)
    (.BondWithdrawalExceedsDeposit amount (chain.vault.keeperBonds sender))
  revertIf (chain.vault.keeperBondFrozen sender = true) (.KeeperBondIsFrozen sender)
  let locked ← keeperBondLocked sender chain
  revertIf (locked = true) .KeeperBondLocked
  let bonds ← checkedSub .arithmetic chain.vault.totalKeeperBonds amount
  pay env { chain with
    vault.keeperBonds := update chain.vault.keeperBonds sender
      (chain.vault.keeperBonds sender - amount)
    vault.totalKeeperBonds := bonds } sender amount

def slashKeeperBond (sender keeper : Address) (amount : Nat) (recipient : Address)
    (chain : Chain) : Except Error Chain := do
  onlyRole chain GUARDIAN_ROLE sender
  revertIf (recipient = 0) .ZeroAddress
  revertIf (chain.vault.keeperBonds keeper < amount)
    (.BondWithdrawalExceedsDeposit amount (chain.vault.keeperBonds keeper))
  let bonds ← checkedSub .arithmetic chain.vault.totalKeeperBonds amount
  pay env { chain with
    vault.keeperBonds := update chain.vault.keeperBonds keeper
      (chain.vault.keeperBonds keeper - amount)
    vault.totalKeeperBonds := bonds
    vault.keeperBondFrozen := update chain.vault.keeperBondFrozen keeper false }
    recipient amount

def releaseKeeperBondFreeze (sender keeper : Address) (chain : Chain) : Except Error Chain := do
  onlyRole chain GUARDIAN_ROLE sender
  revertIf (chain.vault.keeperBondFrozen keeper = false) (.KeeperBondNotFrozen keeper)
  return { chain with
    vault.keeperBondFrozen := update chain.vault.keeperBondFrozen keeper false }

def challengeDelegationCommitment (epoch : Key) (chain : Chain) :
    Except Error Chain := do
  committedAndOpen epoch chain
  let deadline ← checkedAdd .arithmetic (chain.vault.delegationCommitTimestamp epoch)
    DELEGATION_CHALLENGE_PERIOD
  revertIf (deadline < chain.block.timestamp) (.ChallengeOutsidePeriod epoch)
  revertIf (chain.vault.delegationChallengers epoch sender = true) (.AlreadyChallenged epoch sender)
  let chain ← pull env chain sender CHALLENGE_BOND
  let bonds ← checkedAdd .arithmetic chain.vault.totalChallengerBonds CHALLENGE_BOND
  let challenges ← checkedAdd .arithmetic (chain.vault.delegationChallengeCount epoch) 1
  let flagged : Chain := { chain with
    vault.challengerBonds := update chain.vault.challengerBonds epoch
      (update (chain.vault.challengerBonds epoch) sender CHALLENGE_BOND)
    vault.totalChallengerBonds := bonds
    vault.delegationChallengers := update chain.vault.delegationChallengers epoch
      (update (chain.vault.delegationChallengers epoch) sender true)
    vault.delegationChallengeCount := update chain.vault.delegationChallengeCount epoch
      challenges }
  if DELEGATION_CHALLENGE_THRESHOLD ≤ challenges then
    let cleared := clearDelegationCommitment epoch flagged
    return { cleared with
      vault.delegationAutoRevokedAt := update cleared.vault.delegationAutoRevokedAt epoch
        chain.block.timestamp }
  else return flagged

def confirmDelegationFraud (epoch : Key) (chain : Chain) :
    Except Error Chain := do
  onlyRole chain GUARDIAN_ROLE sender
  let revokedAt := chain.vault.delegationAutoRevokedAt epoch
  revertIf (revokedAt = 0) (.NotAutoRevoked epoch)
  let deadline ← checkedAdd .arithmetic revokedAt CHALLENGE_ADJUDICATION_PERIOD
  revertIf (deadline < chain.block.timestamp) (.AdjudicationPeriodExpired epoch)
  let frozen := freezeDelegationSubmitters epoch chain
  return { frozen with
    vault.delegationChallengeSucceeded :=
      update frozen.vault.delegationChallengeSucceeded epoch true }

def challengeDecided (epoch : Key) (chain : Chain) : Except Error Unit :=
  let revokedAt := chain.vault.delegationAutoRevokedAt epoch
  let commitTs := chain.vault.delegationCommitTimestamp epoch
  if chain.vault.delegationChallengeSucceeded epoch = true then .ok ()
  else if 0 < revokedAt then do
    let deadline ← checkedAdd .arithmetic revokedAt CHALLENGE_ADJUDICATION_PERIOD
    revertIf (chain.block.timestamp ≤ deadline) (.ChallengeClaimTooEarly epoch)
  else if 0 < commitTs then do
    let deadline ← checkedAdd .arithmetic commitTs DELEGATION_CHALLENGE_PERIOD
    revertIf (chain.block.timestamp ≤ deadline) (.ChallengeClaimTooEarly epoch)
  else .ok ()

def claimChallengerBond (epoch : Key) (chain : Chain) : Except Error Chain := do
  let bond := chain.vault.challengerBonds epoch sender
  revertIf (bond = 0) (.NoChallengerBond epoch sender)
  challengeDecided epoch chain
  let bonds ← checkedSub .arithmetic chain.vault.totalChallengerBonds bond
  let recipient := if chain.vault.delegationChallengeSucceeded epoch then sender
    else chain.vault.treasury
  pay env { chain with
    vault.challengerBonds := update chain.vault.challengerBonds epoch
      (update (chain.vault.challengerBonds epoch) sender 0)
    vault.totalChallengerBonds := bonds } recipient bond

end Validators

def setTreasury (sender newTreasury : Address) (chain : Chain) : Except Error Chain := do
  onlyRole chain DEFAULT_ADMIN_ROLE sender
  revertIf (newTreasury = 0) .ZeroAddress
  return { chain with vault.treasury := newTreasury }

def setTEEVerifier (sender newVerifier : Address) (chain : Chain) : Except Error Chain := do
  onlyRole chain DEFAULT_ADMIN_ROLE sender
  revertIf (newVerifier = 0) .ZeroAddress
  return chain

variable (sender : Address)

def setSelectionPolicyHash (policyHash : Bytes32) (chain : Chain) :
    Except Error Chain := do
  onlyRole chain DEFAULT_ADMIN_ROLE sender
  return { chain with vault.selectionPolicyHash := policyHash }

def setDelegationQuorumEnabled (enabled : Bool) (chain : Chain) :
    Except Error Chain := do
  onlyRole chain DEFAULT_ADMIN_ROLE sender
  return { chain with vault.delegationQuorumEnabled := enabled }

def pause (chain : Chain) : Except Error Chain := do
  onlyRole chain PAUSER_ROLE sender
  revertIf (chain.vault.paused = true) .EnforcedPause
  return { chain with vault.paused := true }

def unpause (chain : Chain) : Except Error Chain := do
  onlyRole chain PAUSER_ROLE sender
  revertIf (chain.vault.paused = false) .ExpectedPause
  return { chain with vault.paused := false }

variable (role : Bytes32)

def grantRole (account : Address) (chain : Chain) : Except Error Chain := do
  onlyRole chain (chain.vault.access.getRoleAdmin role) sender
  return { chain with vault.access := chain.vault.access.grant role account }

def revokeRole (account : Address) (chain : Chain) : Except Error Chain := do
  onlyRole chain (chain.vault.access.getRoleAdmin role) sender
  return { chain with vault.access := chain.vault.access.revoke role account }

def renounceRole (callerConfirmation : Address) (chain : Chain) : Except Error Chain := do
  revertIf (callerConfirmation ≠ sender) .AccessControlBadConfirmation
  return { chain with vault.access := chain.vault.access.revoke role sender }

end Cruzible
