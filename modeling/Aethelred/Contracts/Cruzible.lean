import Aethelred.Contracts.CruzibleState

/- Cruzible.sol: initialization, staking, withdrawals and rewards. A function that fails leaves
nothing behind, so each one returns the chain after it or the reason it reverted for. -/
namespace Cruzible

open Evm AccessControl Function

/-- What the TEE verifier answers for an attestation, and the hash of the attestation. -/
structure Attestation where
  valid : Bool
  payload : List Bytes32
  hash : Bytes32

def Attestation.words (attestation : Attestation) : List Nat := attestation.payload.map (·.val)

def Attestation.word (attestation : Attestation) (index : Nat) : Bytes32 :=
  attestation.payload.getD index 0

section Modifiers

variable (chain : Chain)

def onlyRole (role : Bytes32) (sender : Address) : Except Error Unit :=
  revertIf (chain.vault.access.hasRole role sender = false)
    (.AccessControlUnauthorizedAccount sender role)

def whenNotPaused : Except Error Unit := revertIf (chain.vault.paused = true) .EnforcedPause

def currentEpochOnly (epoch : Key) : Except Error Unit :=
  revertIf (epoch ≠ chain.vault.currentEpoch) (.InvalidEpoch epoch chain.vault.currentEpoch)

end Modifiers

section Transfers

variable (env : Environment) (chain : Chain)

/-- `aethelToken.safeTransferFrom(sender, address(this), amount)`. -/
def pull (sender : Address) (amount : Nat) : Except Error Chain := do
  let aethel ← (chain.aethel.transferFrom env.address sender env.address amount).mapError .token
  return { chain with aethel }

/-- `aethelToken.safeTransfer(recipient, amount)`. -/
def pay (recipient : Address) (amount : Nat) : Except Error Chain := do
  let aethel ← (chain.aethel.transfer env.address recipient amount).mapError .token
  return { chain with aethel }

/-- Tells the share token the new total. -/
def syncPool : Except Error Chain := do
  let stAethel ← (chain.stAethel.setTotalPooledAethel env.address
    chain.vault.totalPooledAethel).mapError .stAethel
  return { chain with stAethel }

/-- The treasury's part, unless there is none. -/
def payTreasury (amount : Nat) : Except Error Chain :=
  if 0 < amount ∧ chain.vault.treasury ≠ 0 then pay env chain chain.vault.treasury amount
  else .ok chain

end Transfers

section Initialization

variable (env : Environment)

def Chain.blank (block : Block) (aethel : Erc20) (stAethel : StAethel.Storage) : Chain where
  block
  aethel
  stAethel
  vault := Storage.blank

/-- `_initializeVault`; the addresses of the tokens and of the verifier only have to be set. -/
def initializeVault (admin upgraderAuthority aethel stAethel verifier treasuryAddr : Address)
    (chain : Chain) : Except Error Chain := do
  revertIf (admin = 0) .ZeroAddress
  revertIf (upgraderAuthority = 0) .ZeroAddress
  revertIf (aethel = 0) .ZeroAddress
  revertIf (stAethel = 0) .ZeroAddress
  revertIf (verifier = 0) .ZeroAddress
  revertIf (treasuryAddr = 0) .ZeroAddress
  let access := AccessControl.empty
    |>.grant DEFAULT_ADMIN_ROLE admin
    |>.grant GUARDIAN_ROLE admin
    |>.grant PAUSER_ROLE admin
    |>.setRoleAdmin UPGRADER_ROLE UPGRADER_ROLE
    |>.grant UPGRADER_ROLE upgraderAuthority
    |>.grant KEEPER_ROLE admin
  return { chain with vault := { chain.vault with
    access
    treasury := treasuryAddr
    currentEpoch := 1
    epochStartTime := chain.block.timestamp
    nextWithdrawalId := 1 } }

def localDevChain : Bool := env.chainId == 31337 || env.chainId == 1337

def legacyInitialize (admin aethel stAethel verifier treasuryAddr : Address) (chain : Chain) :
    Except Error Chain := do
  revertIf (localDevChain env = false) .ProductionInitializationRequiresTimelock
  initializeVault admin admin aethel stAethel verifier treasuryAddr chain

def requireContractAdmin (admin : Address) : Except Error Unit := do
  revertIf (admin = 0) .ZeroAddress
  revertIf (env.hasCode admin = false ∧ localDevChain env = false) .AdminMustBeContract

def initializeWithTimelock (admin upgraderTimelock aethel stAethel verifier treasuryAddr : Address)
    (chain : Chain) : Except Error Chain := do
  requireContractAdmin env admin
  requireContractAdmin env upgraderTimelock
  revertIf (env.getMinDelay upgraderTimelock < MIN_UPGRADER_TIMELOCK_DELAY)
    .UpgraderTimelockDelayTooShort
  initializeVault admin upgraderTimelock aethel stAethel verifier treasuryAddr chain

def sharesFor (chain : Chain) (amount : Nat) : Except Error Nat :=
  if chain.vault.totalPooledAethel = 0 then .ok amount
  else do
    let product ← checkedMul .arithmetic amount chain.stAethel.totalShares
    return product / chain.vault.totalPooledAethel

/-- `_stake`, and the shares it returns. -/
def stake (user : Address) (amount : Nat) (chain : Chain) : Except Error (Chain × Nat) := do
  whenNotPaused chain
  revertIf (amount = 0) .ZeroAmount
  revertIf (amount < MIN_STAKE) (.BelowMinStake amount MIN_STAKE)
  revertIf (MAX_STAKE_PER_TX < amount) (.ExceedsMaxStake amount MAX_STAKE_PER_TX)
  let epoch := chain.vault.currentEpoch
  let epochStake ← checkedAdd .arithmetic (chain.vault.stakePerEpoch epoch) amount
  revertIf (MAX_STAKE_PER_EPOCH < epochStake)
    (.EpochRateLimitExceeded amount (MAX_STAKE_PER_EPOCH - chain.vault.stakePerEpoch epoch))
  let chain ← pull env { chain with
    vault.stakePerEpoch := update chain.vault.stakePerEpoch epoch epochStake } user amount
  let shares ← sharesFor chain amount
  revertIf (shares = 0) .ZeroAmount
  let pooled ← checkedAdd .arithmetic chain.vault.totalPooledAethel amount
  let stAethel ← (chain.stAethel.mintShares env.keccak256 env.address user shares).mapError
    .stAethel
  let chain ← syncPool env { chain with stAethel, vault.totalPooledAethel := pooled }
  return (chain, shares)

def nextKey (key : Key) : Except Error Key :=
  if fits : key.val + 1 < 2 ^ 256 then .ok ⟨key.val + 1, fits⟩ else .error .arithmetic

def unstake (sender : Address) (shares : Nat) (chain : Chain) :
    Except Error (Chain × Key × Nat) := do
  whenNotPaused chain
  revertIf (shares = 0) .ZeroAmount
  revertIf (chain.stAethel.shares sender < shares)
    (.InsufficientShares shares (chain.stAethel.shares sender))
  revertIf (MAX_WITHDRAWAL_REQUESTS ≤ (chain.vault.userWithdrawals sender).length)
    (.TooManyWithdrawalRequests sender)
  let aethelAmount ← (chain.stAethel.getAethelByShares shares).mapError .stAethel
  revertIf (aethelAmount = 0) .ZeroAmount
  let stAethel ← (chain.stAethel.burnShares env.keccak256 env.address sender shares).mapError
    .stAethel
  let pooled ← checkedSub .arithmetic chain.vault.totalPooledAethel aethelAmount
  let pending ← checkedAdd .arithmetic chain.vault.totalPendingWithdrawals aethelAmount
  let chain ← syncPool env { chain with
    stAethel
    vault.totalPooledAethel := pooled
    vault.totalPendingWithdrawals := pending }
  let withdrawalId := chain.vault.nextWithdrawalId
  let nextWithdrawalId ← nextKey withdrawalId
  let completionTime ← checkedAdd .arithmetic chain.block.timestamp UNBONDING_PERIOD
  let request : WithdrawalRequest :=
    { owner := sender, shares, aethelAmount, requestTime := chain.block.timestamp, completionTime,
      claimed := false }
  return ({ chain with
    vault.nextWithdrawalId := nextWithdrawalId
    vault.withdrawalRequests := update chain.vault.withdrawalRequests withdrawalId request
    vault.userWithdrawals := update chain.vault.userWithdrawals sender
      (chain.vault.userWithdrawals sender ++ [withdrawalId]) }, withdrawalId, aethelAmount)

/-- What `withdraw` and each round of `batchWithdraw` do before they pay. -/
def claimRequest (sender : Address) (withdrawalId : Key) (chain : Chain) :
    Except Error (Chain × Nat) := do
  let request := chain.vault.withdrawalRequests withdrawalId
  revertIf (request.owner ≠ sender) (.WithdrawalNotOwned withdrawalId)
  revertIf (request.claimed = true) (.WithdrawalAlreadyClaimed withdrawalId)
  revertIf (chain.block.timestamp < request.completionTime)
    (.WithdrawalNotReady withdrawalId request.completionTime)
  let pending ← checkedSub .arithmetic chain.vault.totalPendingWithdrawals request.aethelAmount
  return ({ chain with
    vault.withdrawalRequests := update chain.vault.withdrawalRequests withdrawalId
      { request with claimed := true }
    vault.totalPendingWithdrawals := pending }, request.aethelAmount)

def payOut (sender : Address) (amount : Nat) (chain : Chain) : Except Error Chain := do
  let vaultBalance := chain.aethel.balanceOf env.address
  revertIf (vaultBalance < amount) (.InsufficientVaultBalance amount vaultBalance)
  pay env chain sender amount

def withdraw (sender : Address) (withdrawalId : Key) (chain : Chain) :
    Except Error (Chain × Nat) := do
  let (chain, amount) ← claimRequest sender withdrawalId chain
  let chain ← payOut env sender amount chain
  return (chain, amount)

def claimRequests (sender : Address) : List Key → Nat → Chain → Except Error (Chain × Nat)
  | [], totalAmount, chain => .ok (chain, totalAmount)
  | withdrawalId :: rest, totalAmount, chain => do
      let (chain, amount) ← claimRequest sender withdrawalId chain
      let totalAmount ← checkedAdd .arithmetic totalAmount amount
      claimRequests sender rest totalAmount chain

def batchWithdraw (sender : Address) (withdrawalIds : List Key) (chain : Chain) :
    Except Error (Chain × Nat) := do
  revertIf (MAX_BATCH_SIZE < withdrawalIds.length)
    (.BatchTooLarge withdrawalIds.length MAX_BATCH_SIZE)
  let (chain, totalAmount) ← claimRequests sender withdrawalIds 0 chain
  revertIf (totalAmount = 0) .ZeroAmount
  let chain ← payOut env sender totalAmount chain
  return (chain, totalAmount)

def delegationUsable (chain : Chain) (epoch : Key) : Except Error Unit :=
  if (chain.vault.epochSnapshots epoch).delegationRegistryRoot ≠ 0 then do
    let commitTs := chain.vault.delegationCommitTimestamp epoch
    let availableAt ← checkedAdd .arithmetic commitTs DELEGATION_CHALLENGE_PERIOD
    revertIf (chain.block.timestamp < availableAt)
      (.DelegationChallengePeriodActive epoch availableAt)
    let maxAge ← checkedAdd .arithmetic commitTs DELEGATION_MAX_AGE
    revertIf (maxAge < chain.block.timestamp)
      (.DelegationCommitmentStale epoch commitTs DELEGATION_MAX_AGE)
  else .ok ()

def rewardsAttested (attestation : Attestation) (epoch : Key) (totalRewards : Nat)
    (merkleRoot : Bytes32) (protocolFee : Nat) (chain : Chain) : Except Error Unit := do
  revertIf (attestation.valid = false) .InvalidAttestation
  revertIf (attestation.payload.length ≠ 8) .InvalidAttestation
  let snapshot := chain.vault.epochSnapshots epoch
  revertIf (env.keccak256 attestation.words ≠ env.keccak256
    ([epoch.val, totalRewards, merkleRoot.val, protocolFee] ++ attestation.words.drop 4))
    .InvalidAttestation
  revertIf (attestation.word 4 ≠ snapshot.stakeSnapshotHash)
    (.StakeSnapshotMismatch (attestation.word 4) snapshot.stakeSnapshotHash)
  revertIf (attestation.word 6 ≠ snapshot.stakerRegistryRoot)
    (.RegistryRootMismatch (attestation.word 6) snapshot.stakerRegistryRoot)
  revertIf (attestation.word 7 ≠ snapshot.delegationRegistryRoot)
    (.DelegationRootMismatch (attestation.word 7) snapshot.delegationRegistryRoot)
  delegationUsable chain epoch
  revertIf (attestation.word 5 ≠ snapshot.validatorSetHash)
    (.ValidatorSetHashMismatch (attestation.word 5) snapshot.validatorSetHash)

def distributeRewards (sender : Address) (attestation : Attestation) (epoch : Key)
    (totalRewards : Nat) (merkleRoot : Bytes32) (protocolFee : Nat) (chain : Chain) :
    Except Error Chain := do
  onlyRole chain ORACLE_ROLE sender
  whenNotPaused chain
  currentEpochOnly chain epoch
  revertIf ((chain.vault.epochSnapshots epoch).finalized = true) (.EpochAlreadyFinalized epoch)
  rewardsAttested env attestation epoch totalRewards merkleRoot protocolFee chain
  let product ← checkedMul .arithmetic totalRewards PROTOCOL_FEE_BPS
  let expectedFee := product / BPS_DENOMINATOR
  revertIf (protocolFee ≠ expectedFee) (.ProtocolFeeMismatch protocolFee expectedFee)
  let chain ← pull env chain sender totalRewards
  let netRewards ← checkedSub .arithmetic totalRewards protocolFee
  let reserved ← checkedAdd .arithmetic chain.vault.totalReservedForClaims netRewards
  let chain ← payTreasury env { chain with
    vault.epochReservedForClaims := update chain.vault.epochReservedForClaims epoch
      netRewards
    vault.totalReservedForClaims := reserved } protocolFee
  let snapshot : EpochSnapshot :=
    { chain.vault.epochSnapshots epoch with
      totalPooledAethel := chain.vault.totalPooledAethel
      totalShares := chain.stAethel.totalShares
      rewardsDistributed := totalRewards
      protocolFee
      rewardsMerkleRoot := merkleRoot
      teeAttestationHash := attestation.hash
      timestamp := chain.block.timestamp
      finalized := true }
  let nextEpoch ← nextKey chain.vault.currentEpoch
  return { chain with
    vault.epochSnapshots := update chain.vault.epochSnapshots epoch snapshot
    vault.currentEpoch := nextEpoch
    vault.epochStartTime := chain.block.timestamp }

def submitMEVRevenue (sender : Address) (attestation : Attestation) (epoch : Key)
    (mevAmount : Nat) (chain : Chain) : Except Error Chain := do
  onlyRole chain ORACLE_ROLE sender
  whenNotPaused chain
  currentEpochOnly chain epoch
  revertIf (attestation.valid = false) .InvalidAttestation
  revertIf (env.keccak256 attestation.words ≠ env.keccak256 [epoch.val, mevAmount])
    .InvalidAttestation
  let chain ← pull env chain sender mevAmount
  let product ← checkedMul .arithmetic mevAmount MEV_STAKER_SHARE_BPS
  let stakerShare := product / BPS_DENOMINATOR
  let protocolShare ← checkedSub .arithmetic mevAmount stakerShare
  let pooled ← checkedAdd .arithmetic chain.vault.totalPooledAethel stakerShare
  let chain ← syncPool env { chain with vault.totalPooledAethel := pooled }
  let chain ← payTreasury env chain protocolShare
  let revenue ← checkedAdd .arithmetic chain.vault.totalMEVRevenue mevAmount
  let snapshot := chain.vault.epochSnapshots epoch
  let redistributed ← checkedAdd .arithmetic snapshot.mevRedistributed mevAmount
  return { chain with
    vault.totalMEVRevenue := revenue
    vault.epochSnapshots := update chain.vault.epochSnapshots epoch
      { snapshot with mevRedistributed := redistributed } }

/-- `_verifySHA256Proof`: the hash the siblings lead to. -/
def foldProof (proof : List Bytes32) (leaf : Bytes32) : Bytes32 :=
  proof.foldl (fun computed sibling =>
    if computed ≤ sibling then env.sha256 [computed.val, sibling.val]
    else env.sha256 [sibling.val, computed.val]) leaf

def rewardLeaf (account : Address) (amount : Nat) (epoch : Key) : Bytes32 :=
  env.sha256 [(env.sha256 [account.val, amount, epoch.val]).val]

def claimRewards (sender : Address) (epoch : Key) (amount : Nat) (proof : List Bytes32)
    (chain : Chain) : Except Error Chain := do
  revertIf ((chain.vault.epochSnapshots epoch).finalized = false) (.EpochNotFinalized epoch)
  revertIf (chain.vault.rewardsClaimed sender epoch = true) (.RewardsAlreadyClaimed sender epoch)
  revertIf (foldProof env proof (rewardLeaf env sender amount epoch) ≠
    (chain.vault.epochSnapshots epoch).rewardsMerkleRoot) .InvalidMerkleProof
  revertIf (chain.vault.epochReservedForClaims epoch < amount) .claimExceedsReserved
  let reserved ← checkedSub .arithmetic chain.vault.totalReservedForClaims amount
  pay env { chain with
    vault.rewardsClaimed := update chain.vault.rewardsClaimed sender
      (update (chain.vault.rewardsClaimed sender) epoch true)
    vault.epochReservedForClaims := update chain.vault.epochReservedForClaims epoch
      (chain.vault.epochReservedForClaims epoch - amount)
    vault.totalReservedForClaims := reserved } sender amount

end Initialization

end Cruzible
