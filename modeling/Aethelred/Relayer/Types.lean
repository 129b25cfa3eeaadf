import Aethelred.Evm.Basic
import Aethelred.Go.Hex

/- Deposits, burns, proposals, votes and events of the bridge relayer. -/
namespace Relayer

abbrev EthAddress := Evm.Address

abbrev AethelredAddress := Evm.Bytes32

abbrev Hash := Evm.Bytes32

/-- `u128`. -/
abbrev TokenAmount := Fin (2 ^ 128)

inductive BridgeError where
  | Config (reason : String)
  | Ethereum (reason : String)
  | Aethelred (reason : String)
  | Storage (reason : String)
  | Consensus (reason : String)
  | Signing (reason : String)
  | Verification (reason : String)
  | Duplicate (reason : String)
  | InvalidInput (reason : String)
  deriving DecidableEq

/-- The bytes of a number, lowest first. -/
def leBytes : (width value : Nat) → List UInt8
  | 0, _ => []
  | width + 1, value => UInt8.ofNat (value % 256) :: leBytes width (value / 256)

def beBytes (width value : Nat) : List UInt8 := (leBytes width value).reverse

/-- `hex::encode(&hash[..8])`. -/
def shortHex (hash : Hash) : String := Go.Hex.encodeToString ((beBytes 32 hash).take 8)

structure EthereumDeposit where
  depositId : Hash
  depositor : EthAddress
  aethelredRecipient : AethelredAddress
  token : EthAddress
  amount : TokenAmount
  nonce : UInt64
  blockNumber : UInt64
  blockHash : Hash
  txHash : Hash
  logIndex : UInt32
  timestamp : UInt64
  deriving DecidableEq

/-- What `generate_id` feeds to the hash function. -/
def EthereumDeposit.preimage (deposit : EthereumDeposit) : List UInt8 :=
  "eth-deposit-v1:".toUTF8.toList ++ beBytes 20 deposit.depositor ++
    beBytes 32 deposit.aethelredRecipient ++ beBytes 20 deposit.token ++
    leBytes 16 deposit.amount ++ leBytes 8 deposit.nonce.toNat ++ beBytes 32 deposit.txHash ++
    leBytes 4 deposit.logIndex.toNat

def EthereumDeposit.generateId (sha256 : List UInt8 → Hash) (deposit : EthereumDeposit) : Hash :=
  sha256 deposit.preimage

inductive DepositStatus where
  | Pending
  | Confirmed
  | MintProposed
  | Completed
  | Cancelled
  | Failed
  deriving DecidableEq

/-- The text `{status:?}` prints. -/
def DepositStatus.debug : DepositStatus → String
  | Pending => "Pending"
  | Confirmed => "Confirmed"
  | MintProposed => "MintProposed"
  | Completed => "Completed"
  | Cancelled => "Cancelled"
  | Failed => "Failed"

inductive TokenType where
  | WrappedETH
  | WrappedERC20 (token : EthAddress)
  | NativeAETHEL
  deriving DecidableEq

structure AethelredBurn where
  burnId : Hash
  burner : AethelredAddress
  ethRecipient : EthAddress
  tokenType : TokenType
  amount : TokenAmount
  nonce : UInt64
  blockHeight : UInt64
  blockHash : Hash
  txHash : Hash
  timestamp : UInt64
  deriving DecidableEq

inductive WithdrawalStatus where
  | Pending
  | Confirmed
  | WithdrawalProposed
  | ConsensusReached
  | ReadyToProcess
  | Completed
  | Challenged
  | Failed
  deriving DecidableEq

def WithdrawalStatus.debug : WithdrawalStatus → String
  | Pending => "Pending"
  | Confirmed => "Confirmed"
  | WithdrawalProposed => "WithdrawalProposed"
  | ConsensusReached => "ConsensusReached"
  | ReadyToProcess => "ReadyToProcess"
  | Completed => "Completed"
  | Challenged => "Challenged"
  | Failed => "Failed"

structure RelayerVote where
  relayer : AethelredAddress
  approve : Bool
  signature : List UInt8
  timestamp : UInt64

inductive MintProposalStatus where
  | Voting
  | ConsensusReached
  | Completed
  | Expired
  | Rejected
  deriving DecidableEq

def MintProposalStatus.isFinal : MintProposalStatus → Bool
  | Completed | Expired | Rejected => true
  | Voting | ConsensusReached => false

inductive WithdrawalProposalStatus where
  | Voting
  | SubmittedToEthereum
  | InChallengePeriod
  | ReadyToProcess
  | Completed
  | Challenged
  | Expired
  deriving DecidableEq

def WithdrawalProposalStatus.isFinal : WithdrawalProposalStatus → Bool
  | Completed | Expired => true
  | _ => false

structure MintProposal where
  proposalId : Hash
  deposit : EthereumDeposit
  proposer : AethelredAddress
  votes : List RelayerVote
  status : MintProposalStatus
  createdAt : UInt64
  updatedAt : UInt64

structure WithdrawalProposal where
  proposalId : Hash
  burn : AethelredBurn
  proposer : AethelredAddress
  votes : List RelayerVote
  status : WithdrawalProposalStatus
  createdAt : UInt64
  challengeEndTime : UInt64
  updatedAt : UInt64

inductive EthereumEvent where
  | Deposit (deposit : EthereumDeposit)
  | DepositFinalized (depositId : Hash) (blockNumber : UInt64)
  | WithdrawalProcessed (proposalId : Hash) (recipient : EthAddress) (amount : TokenAmount)
      (txHash : Hash)
  | Reorg (fromBlock toBlock : UInt64) (affectedDeposits : List Hash)
  | NewBlock (number : UInt64) (hash : Hash) (timestamp : UInt64)
  deriving DecidableEq

inductive AethelredEvent where
  | Burn (burn : AethelredBurn)
  | BurnFinalized (burnId : Hash) (blockHeight : UInt64)
  | MintCompleted (proposalId : Hash) (recipient : AethelredAddress) (amount : TokenAmount)
      (txHash : Hash)
  | NewBlock (height : UInt64) (hash : Hash) (timestamp : UInt64)
  deriving DecidableEq

structure RelayerIdentity where
  address : AethelredAddress
  ethAddress : EthAddress
  publicKey : List UInt8
  stake : TokenAmount
  active : Bool

structure RelayerSet where
  relayers : List RelayerIdentity
  thresholdBps : UInt16
  version : UInt64
  totalStake : TokenAmount

namespace RelayerSet

variable (set : RelayerSet)

def minVotesRequired : Nat :=
  let activeCount := (set.relayers.filter (·.active)).length
  if activeCount = 0 then 1
  else max ((activeCount * set.thresholdBps.toNat + 9999) / 10000) 1

def hasConsensus (voteCount : Nat) : Bool :=
  decide (set.minVotesRequired ≤ voteCount)

def isActive (address : AethelredAddress) : Bool :=
  set.relayers.any fun r => r.address == address && r.active

@[simp] theorem hasConsensus_iff (voteCount : Nat) :
    set.hasConsensus voteCount = true ↔ set.minVotesRequired ≤ voteCount :=
  decide_eq_true_iff

end RelayerSet

end Relayer
