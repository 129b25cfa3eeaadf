import Aethelred.Evm.Basic

/- Storage of AethelredBridge.sol, its events and errors, and the chain it lives on. -/
namespace AethelredBridge

open Evm

def RELAYER_ROLE : Bytes32 := 0xe2b7fb3b832174769106daebcfd6d1970523240dda11281102db9363b83b0dc4

def GUARDIAN_ROLE : Bytes32 := 0x55435dd261a4b9b3364963f7738a7a662ad9c84396d64be3365284bb7f0a5041

def UPGRADER_ROLE : Bytes32 := 0x189ab7a9244df0848122154315af71fe140f3db0fe014031783b0946b8c9d2e3

def MIN_DEPOSIT : Nat := 10 ^ 16
def MAX_SINGLE_DEPOSIT : Nat := 100 * 10 ^ 18
def CHALLENGE_PERIOD : Nat := 604800
def MIN_ETH_CONFIRMATIONS : Nat := 64
def RATE_LIMIT_PERIOD : Nat := 3600
def MIN_EMERGENCY_TIMELOCK : Nat := 86400
def MAX_EMERGENCY_TIMELOCK : Nat := 1209600
def DEFAULT_EMERGENCY_TIMELOCK : Nat := 172800
def DEPOSIT_CANCELLATION_WINDOW : Nat := 3600
def MIN_UPGRADER_TIMELOCK_DELAY : Nat := 2332800
def REQUIRED_GUARDIAN_APPROVALS : Nat := 2
def DEFAULT_MINT_CEILING_PER_BLOCK : Nat := 10 * 10 ^ 18
def MAX_EMERGENCY_WITHDRAWAL : Nat := 50 * 10 ^ 18

structure RelayerConfig where
  relayerCount : Nat
  consensusThresholdBps : Nat
  minVotesRequired : Nat

structure RateLimitConfig where
  maxDepositPerPeriod : Nat
  maxWithdrawalPerPeriod : Nat
  enabled : Bool

structure RateLimitState where
  totalDeposited : Nat := 0
  totalWithdrawn : Nat := 0

structure Deposit where
  depositor : Address := 0
  aethelredRecipient : Bytes32 := 0
  token : Address := 0
  amount : Nat := 0
  blockNumber : Nat := 0
  timestamp : Nat := 0
  finalized : Bool := false
  cancelled : Bool := false
  deriving DecidableEq

structure WithdrawalProposal where
  recipient : Address := 0
  token : Address := 0
  amount : Nat := 0
  burnTxHash : Bytes32 := 0
  aethelredBlockHeight : Nat := 0
  voteCount : Nat := 0
  createdAt : Nat := 0
  challengeEndTime : Nat := 0
  processed : Bool := false
  challenged : Bool := false
  requiredVotesSnapshot : Nat := 0

structure EmergencyWithdrawalRequest where
  token : Address := 0
  amount : Nat := 0
  recipient : Address := 0
  queuedAt : Nat := 0
  executeAfter : Nat := 0
  executed : Bool := false
  cancelled : Bool := false
  deriving DecidableEq

/-- The contract's storage, with that of the contracts it inherits from. -/
structure Storage where
  access : AccessControl
  paused : Bool
  entered : Bool
  depositNonce : Nat
  totalLockedETH : Nat
  totalLockedERC20 : Address → Nat
  supportedTokens : Address → Bool
  relayerConfig : RelayerConfig
  rateLimitConfig : RateLimitConfig
  deposits : Bytes32 → Deposit
  withdrawalProposals : Bytes32 → WithdrawalProposal
  withdrawalVotes : Bytes32 → Address → Bool
  rateLimitState : Nat → RateLimitState
  processedWithdrawals : Bytes32 → Bool
  blockedAddresses : Address → Bool
  emergencyWithdrawalDelay : Nat
  emergencyWithdrawalNonce : Nat
  emergencyWithdrawalRequests : Bytes32 → EmergencyWithdrawalRequest
  guardianApprovals : Bytes32 → Address → Bool
  guardianApprovalCount : Bytes32 → Nat
  mintCeilingPerBlock : Nat
  lastMintBlock : Nat
  mintedThisBlock : Nat

def Storage.blank : Storage where
  access := AccessControl.empty
  paused := false
  entered := false
  depositNonce := 0
  totalLockedETH := 0
  totalLockedERC20 := fun _ => 0
  supportedTokens := fun _ => false
  relayerConfig := ⟨0, 0, 0⟩
  rateLimitConfig := ⟨0, 0, false⟩
  deposits := fun _ => {}
  withdrawalProposals := fun _ => {}
  withdrawalVotes := fun _ _ => false
  rateLimitState := fun _ => {}
  processedWithdrawals := fun _ => false
  blockedAddresses := fun _ => false
  emergencyWithdrawalDelay := 0
  emergencyWithdrawalNonce := 0
  emergencyWithdrawalRequests := fun _ => {}
  guardianApprovals := fun _ _ => false
  guardianApprovalCount := fun _ => 0
  mintCeilingPerBlock := 0
  lastMintBlock := 0
  mintedThisBlock := 0

inductive Event where
  | DepositInitiated (depositId : Bytes32) (depositor : Address) (aethelredRecipient : Bytes32)
      (token : Address) (amount nonce timestamp : Nat)
  | DepositFinalized (depositId : Bytes32) (depositor : Address) (amount : Nat)
  | DepositCancelled (depositId : Bytes32) (depositor : Address) (amount : Nat)
  | WithdrawalProposed (proposalId : Bytes32) (recipient token : Address) (amount : Nat)
      (burnTxHash : Bytes32) (proposer : Address)
  | WithdrawalVoted (proposalId : Bytes32) (relayer : Address) (currentVotes requiredVotes : Nat)
  | WithdrawalProcessed (proposalId : Bytes32) (recipient token : Address) (amount : Nat)
      (burnTxHash : Bytes32)
  | WithdrawalChallenged (proposalId : Bytes32) (challenger : Address) (reason : String)
  | TokenSupportUpdated (token : Address) (supported : Bool)
  | RelayerConfigUpdated (relayerCount consensusThresholdBps minVotesRequired : Nat)
  | RateLimitConfigUpdated (maxDepositPerPeriod maxWithdrawalPerPeriod : Nat) (enabled : Bool)
  | AddressBlockStatusChanged (addr : Address) (blocked : Bool)
  | EmergencyWithdrawalQueued (operationId : Bytes32) (token recipient : Address)
      (amount executeAfter : Nat)
  | EmergencyWithdrawalExecuted (operationId : Bytes32) (token recipient : Address) (amount : Nat)
  | EmergencyWithdrawalCancelled (operationId : Bytes32) (cancelledBy : Address)
  | EmergencyWithdrawalDelayUpdated (oldDelay newDelay : Nat)
  | GuardianApprovalSubmitted (operationId : Bytes32) (guardian : Address)
      (currentApprovals requiredApprovals : Nat)
  | MintCeilingUpdated (oldCeiling newCeiling : Nat)
  | RoleGranted (role : Bytes32) (account sender : Address)
  | RoleRevoked (role : Bytes32) (account sender : Address)
  | Paused (account : Address)
  | Unpaused (account : Address)
  deriving DecidableEq

inductive Error where
  | InvalidAmount
  | InvalidRecipient
  | TokenNotSupported
  | DepositNotFound
  | DepositAlreadyFinalized
  | DepositAlreadyCancelled
  | InsufficientConfirmations
  | WithdrawalNotFound
  | WithdrawalAlreadyProcessed
  | WithdrawalAlreadyChallenged
  | ChallengePeriodNotEnded
  | AlreadyVoted
  | InsufficientVotes
  | RateLimitExceeded
  | AddressBlocked
  | ProposalExists
  | TransferFailed
  | InvalidEmergencyDelay
  | EmergencyWithdrawalNotFound
  | EmergencyWithdrawalNotReady
  | EmergencyWithdrawalAlreadyHandled
  | DepositCancellationWindowClosed
  | AdminMustBeContract
  | RelayerCountMismatch
  | UpgraderTimelockDelayTooShort
  | ProductionInitializationRequiresTimelock
  | MintCeilingExceeded
  | InsufficientGuardianApprovals
  | GuardianAlreadyApproved
  | EmergencyAmountExceedsMax
  | BatchTooLarge
  | CannotClearCurrentPeriod
  | AccessControlUnauthorizedAccount (account : Address) (role : Bytes32)
  | AccessControlBadConfirmation
  | EnforcedPause
  | ExpectedPause
  | ReentrancyGuardReentrantCall
  | SafeERC20FailedOperation (token : Address)
  /-- Checked arithmetic, panic code 0x11. -/
  | arithmetic
  /-- Value sent to a function that is not payable. -/
  | nonPayable
  /-- A call to an address without code, or one that reverted. -/
  | externalCall
  deriving DecidableEq

structure Entry where
  block : Block
  event : Event
  deriving DecidableEq

inductive Purpose where
  | refund (depositId : Bytes32)
  | withdrawal (proposalId : Bytes32)
  | emergency (operationId : Bytes32)
  deriving DecidableEq

structure Payment where
  block : Block
  purpose : Purpose
  token : Address
  recipient : Address
  amount : Nat

/-- The chain as far as the bridge sees it: its own funds by token, ETH under address 0. -/
structure Chain where
  block : Block
  bridge : Storage
  balance : Address → Nat
  /-- Events of the bridge, the latest first. -/
  log : List Entry
  /-- Payments of the bridge, the latest first. -/
  payments : List Payment
  /-- Words the bridge has hashed, the latest first. -/
  hashed : List (List Nat)

/-- What the contract takes from its chain: the hash of a list of words, the deployment's own
address and chain id, and what other contracts answer. -/
structure Environment where
  keccak256 : List Nat → Bytes32
  self : Address
  chainid : Nat
  codeLength : Address → Nat
  getMinDelay : Address → Option Nat

namespace Chain

variable (chain : Chain)

def emit (event : Event) : Chain :=
  { chain with log := ⟨chain.block, event⟩ :: chain.log }

/-- The amount locked of a token, of ETH under address 0. -/
def totalLocked (token : Address) : Nat :=
  if token = 0 then chain.bridge.totalLockedETH else chain.bridge.totalLockedERC20 token

def receiveFunds (token : Address) (amount : Nat) : Chain :=
  { chain with balance := Function.update chain.balance token (chain.balance token + amount) }

end Chain

end AethelredBridge
