import Aethelred.Contracts.StAethel

/- Storage of Cruzible.sol, its errors, and the chain it lives on. -/
namespace Cruzible

open Evm

def ORACLE_ROLE : Bytes32 := 0x68e79a7bf1e0bc45d0a330c573bc367f9cf464fd326078812f301165fbda4ef1

def GUARDIAN_ROLE : Bytes32 := 0x55435dd261a4b9b3364963f7738a7a662ad9c84396d64be3365284bb7f0a5041

def UPGRADER_ROLE : Bytes32 := 0x189ab7a9244df0848122154315af71fe140f3db0fe014031783b0946b8c9d2e3

def PAUSER_ROLE : Bytes32 := 0x65d7a28e3265b37a6474929f336521b332c1681b933f6cb9f3376673440d862a

def KEEPER_ROLE : Bytes32 := 0xfc8737ab85eb45125971625a9ebdb75cc78e01d5c1fa80c4c6e5203f47bc4fab

def DELEGATION_ATTESTOR_ROLE : Bytes32 :=
  0xac9827a1d98551b5d03d0868333537504f2e353023fcf84d5d6eb53da4517988

def MIN_UPGRADER_TIMELOCK_DELAY : Nat := 2332800
def MIN_STAKE : Nat := 32 * 10 ^ 18
def MAX_STAKE_PER_TX : Nat := 10000000 * 10 ^ 18
def DELEGATION_CHALLENGE_PERIOD : Nat := 3600
def DELEGATION_MAX_AGE : Nat := 21600
def UNBONDING_PERIOD : Nat := 1209600
def MAX_COMMISSION_BPS : Nat := 1000
def PROTOCOL_FEE_BPS : Nat := 500
def MEV_STAKER_SHARE_BPS : Nat := 9000
def BPS_DENOMINATOR : Nat := 10000
def MAX_WITHDRAWAL_REQUESTS : Nat := 100
def MAX_VALIDATORS : Nat := 200
def MIN_VALIDATORS : Nat := 4
def MAX_BATCH_SIZE : Nat := 50
def MAX_STAKE_PER_EPOCH : Nat := 500000000 * 10 ^ 18
def DELEGATION_QUORUM : Nat := 2
def KEEPER_BOND_MINIMUM : Nat := 100000 * 10 ^ 18
def DELEGATION_CHALLENGE_THRESHOLD : Nat := 3
def CHALLENGE_BOND : Nat := 10000 * 10 ^ 18
def CHALLENGE_ADJUDICATION_PERIOD : Nat := 86400

/-- A `uint256` that serves as a key: an epoch or the id of a withdrawal request. -/
abbrev Key := Fin (2 ^ 256)

structure ValidatorInfo where
  validatorAddress : Address := 0
  delegatedStake : Nat := 0
  performanceScore : Nat := 0
  decentralizationScore : Nat := 0
  reputationScore : Nat := 0
  compositeScore : Nat := 0
  teePublicKey : Bytes32 := 0
  commission : Nat := 0
  activeSince : Nat := 0
  slashCount : Nat := 0
  isActive : Bool := false

structure WithdrawalRequest where
  owner : Address := 0
  shares : Nat := 0
  aethelAmount : Nat := 0
  requestTime : Nat := 0
  completionTime : Nat := 0
  claimed : Bool := false

structure EpochSnapshot where
  totalPooledAethel : Nat := 0
  totalShares : Nat := 0
  rewardsDistributed : Nat := 0
  mevRedistributed : Nat := 0
  protocolFee : Nat := 0
  rewardsMerkleRoot : Bytes32 := 0
  validatorSetHash : Bytes32 := 0
  eligibleUniverseHash : Bytes32 := 0
  stakeSnapshotHash : Bytes32 := 0
  stakerRegistryRoot : Bytes32 := 0
  delegationRegistryRoot : Bytes32 := 0
  teeAttestationHash : Bytes32 := 0
  timestamp : Nat := 0
  finalized : Bool := false

/-- The contract's storage, with that of the contracts it inherits from. -/
structure Storage where
  access : AccessControl
  paused : Bool
  treasury : Address
  currentEpoch : Key
  epochStartTime : Nat
  totalPooledAethel : Nat
  totalPendingWithdrawals : Nat
  nextWithdrawalId : Key
  validators : Address → ValidatorInfo
  activeValidators : List Address
  withdrawalRequests : Key → WithdrawalRequest
  userWithdrawals : Address → List Key
  epochSnapshots : Key → EpochSnapshot
  stakePerEpoch : Key → Nat
  rewardsClaimed : Address → Key → Bool
  totalMEVRevenue : Nat
  epochReservedForClaims : Key → Nat
  totalReservedForClaims : Nat
  selectionPolicyHash : Bytes32
  lastEligibleUniverseHash : Bytes32
  delegationCommitTimestamp : Key → Nat
  delegatingStakerCount : Key → Nat
  delegationVoteCount : Key → Bytes32 → Nat
  delegationAttestorVoted : Key → Address → Bool
  delegationEpochAttestors : Key → List Address
  delegationCommitter : Key → Address
  delegationQuorumEnabled : Bool
  keeperBonds : Address → Nat
  totalKeeperBonds : Nat
  keeperBondFrozen : Address → Bool
  delegationChallengeCount : Key → Nat
  delegationChallengers : Key → Address → Bool
  challengerBonds : Key → Address → Nat
  totalChallengerBonds : Nat
  delegationChallengeSucceeded : Key → Bool
  delegationAutoRevokedAt : Key → Nat

def Storage.blank : Storage where
  access := AccessControl.empty
  paused := false
  treasury := 0
  currentEpoch := 0
  epochStartTime := 0
  totalPooledAethel := 0
  totalPendingWithdrawals := 0
  nextWithdrawalId := 0
  validators := fun _ => {}
  activeValidators := []
  withdrawalRequests := fun _ => {}
  userWithdrawals := fun _ => []
  epochSnapshots := fun _ => {}
  stakePerEpoch := fun _ => 0
  rewardsClaimed := fun _ _ => false
  totalMEVRevenue := 0
  epochReservedForClaims := fun _ => 0
  totalReservedForClaims := 0
  selectionPolicyHash := 0
  lastEligibleUniverseHash := 0
  delegationCommitTimestamp := fun _ => 0
  delegatingStakerCount := fun _ => 0
  delegationVoteCount := fun _ _ => 0
  delegationAttestorVoted := fun _ _ => false
  delegationEpochAttestors := fun _ => []
  delegationCommitter := fun _ => 0
  delegationQuorumEnabled := false
  keeperBonds := fun _ => 0
  totalKeeperBonds := 0
  keeperBondFrozen := fun _ => false
  delegationChallengeCount := fun _ => 0
  delegationChallengers := fun _ _ => false
  challengerBonds := fun _ _ => 0
  totalChallengerBonds := 0
  delegationChallengeSucceeded := fun _ => false
  delegationAutoRevokedAt := fun _ => 0

inductive Error where
  | ZeroAddress
  | ZeroAmount
  | BelowMinStake (amount minimum : Nat)
  | ExceedsMaxStake (amount maximum : Nat)
  | EpochRateLimitExceeded (requested remaining : Nat)
  | InsufficientShares (requested available : Nat)
  | WithdrawalNotReady (withdrawalId : Key) (completionTime : Nat)
  | WithdrawalAlreadyClaimed (withdrawalId : Key)
  | WithdrawalNotOwned (withdrawalId : Key)
  | TooManyWithdrawalRequests (user : Address)
  | BatchTooLarge (size maximum : Nat)
  | InvalidAttestation
  | SelectionPolicyMismatch (attested expected : Bytes32)
  | StakeSnapshotMismatch (attested committed : Bytes32)
  | ValidatorSetHashMismatch (attested committed : Bytes32)
  | ProtocolFeeMismatch (provided expected : Nat)
  | EpochAlreadyFinalized (epoch : Key)
  | EpochNotFinalized (epoch : Key)
  | InvalidEpoch (provided expected : Key)
  | InsufficientValidators (count minimum : Nat)
  | ValidatorNotActive (validator : Address)
  | ExceedsMaxValidators
  | DuplicateValidator (validator : Address)
  | RewardsAlreadyClaimed (user : Address) (epoch : Key)
  | InvalidMerkleProof
  | EligibleUniverseMismatch (attested committed : Bytes32)
  | UniverseHashAlreadyCommitted (epoch : Key)
  | StakeSnapshotAlreadyCommitted (epoch : Key)
  | SnapshotSharesMismatch (claimed onChain : Nat)
  | RegistryRootMismatch (attested committed : Bytes32)
  | DelegationRootMismatch (attested committed : Bytes32)
  | DelegationSnapshotAlreadyCommitted (epoch : Key)
  | StakeSnapshotNotCommitted (epoch : Key)
  | StakerRegistryAnchorMismatch (supplied committed : Bytes32)
  | DelegationChallengePeriodActive (epoch : Key) (availableAt : Nat)
  | DelegationNotCommitted (epoch : Key)
  | DelegationAttestationInvalid
  | DelegationCommitmentStale (epoch : Key) (committedAt maxAge : Nat)
  | DelegationCardinalityZeroWithNonZeroRoot (epoch : Key)
  | DelegationAttestorAlreadyVoted (epoch : Key) (attestor : Address)
  | InsufficientKeeperBond (deposited required : Nat)
  | DelegationQuorumRequired (epoch : Key)
  | ChallengeOutsidePeriod (epoch : Key)
  | AlreadyChallenged (epoch : Key) (challenger : Address)
  | BondWithdrawalExceedsDeposit (requested available : Nat)
  | KeeperBondLocked
  | KeeperBondIsFrozen (keeper : Address)
  | KeeperBondNotFrozen (keeper : Address)
  | ChallengeClaimTooEarly (epoch : Key)
  | NoChallengerBond (epoch : Key) (challenger : Address)
  | NotAutoRevoked (epoch : Key)
  | AdjudicationPeriodExpired (epoch : Key)
  | InsufficientVaultBalance (requested available : Nat)
  | AdminMustBeContract
  | UpgraderTimelockDelayTooShort
  | ProductionInitializationRequiresTimelock
  | AccessControlUnauthorizedAccount (account : Address) (role : Bytes32)
  | AccessControlBadConfirmation
  | EnforcedPause
  | ExpectedPause
  | claimExceedsReserved
  | arithmetic
  | outOfBounds
  | token (reason : Erc20.Error)
  | stAethel (reason : StAethel.Error)
  deriving DecidableEq

/-- What the deployment fixes: the hash functions, the vault's own address, and the chain. -/
structure Environment where
  keccak256 : List Nat → Bytes32
  sha256 : List Nat → Bytes32
  address : Address
  chainId : Nat
  hasCode : Address → Bool
  getMinDelay : Address → Nat

/-- The vault with its two tokens. -/
structure Chain where
  block : Block
  aethel : Erc20
  stAethel : StAethel.Storage
  vault : Storage

end Cruzible
