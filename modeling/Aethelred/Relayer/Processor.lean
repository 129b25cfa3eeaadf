import Aethelred.Relayer.Types
import Aethelred.Go.MapSum

/- Configuration of the bridge relayer: what `validate` accepts, and the two presets. -/
namespace Relayer

structure RelayerIdentityConfig where
  privateKeyPath : String
  aethelredAddress : Option String
  ethAddress : Option String

namespace RelayerIdentityConfig

def default : RelayerIdentityConfig where
  privateKeyPath := "./keys/relayer.key"
  aethelredAddress := none
  ethAddress := none

/-- The digits after an optional `0x` or `0X`. -/
def trimmed (value : String) : List Char :=
  match value.toList with
  | '0' :: 'x' :: digits => digits
  | '0' :: 'X' :: digits => digits
  | digits => digits

/-- The number whose bytes, highest first, are given. -/
def ofBeBytes (bytes : List UInt8) : Nat :=
  bytes.foldl (fun value byte => 256 * value + byte.toNat) 0

/-- `decode_fixed_hex::<32>`. -/
def decodeFixedHex (value fieldName : String) : Except BridgeError Hash :=
  match Go.Hex.decodeChars (trimmed value) with
  | none => .error (.Config s!"Invalid {fieldName} hex encoding")
  | some decoded =>
    if decoded.length ≠ 32 then
      .error (.Config
        s!"Invalid {fieldName} length: expected 32 bytes, got {decoded.length}")
    else .ok (Fin.ofNat (2 ^ 256) (ofBeBytes decoded))

def aethelredAddressBytes (identity : RelayerIdentityConfig) :
    Except BridgeError AethelredAddress :=
  match identity.aethelredAddress with
  | none => .error (.Config "Relayer Aethelred address is not configured")
  | some address => decodeFixedHex address "relayer Aethelred address"

end RelayerIdentityConfig

structure EthereumConfig where
  rpcUrl : String
  chainId : UInt64
  bridgeAddress : String
  confirmations : UInt64
  pollIntervalSecs : UInt64
  maxBlocksPerScan : UInt64
  startBlock : Option UInt64

namespace EthereumConfig

def testnet : EthereumConfig where
  rpcUrl := "https://eth-sepolia.g.alchemy.com/v2/YOUR_KEY"
  chainId := 11155111
  bridgeAddress := ""
  confirmations := 6
  pollIntervalSecs := 12
  maxBlocksPerScan := 1000
  startBlock := none

def mainnet : EthereumConfig where
  rpcUrl := "https://eth-mainnet.g.alchemy.com/v2/YOUR_KEY"
  chainId := 1
  bridgeAddress := ""
  confirmations := 12
  pollIntervalSecs := 12
  maxBlocksPerScan := 1000
  startBlock := none

end EthereumConfig

structure AethelredConfig where
  rpcUrl : String
  chainId : String
  bridgeModuleAddress : String
  confirmations : UInt64
  pollIntervalSecs : UInt64
  startBlock : Option UInt64

namespace AethelredConfig

def testnet : AethelredConfig where
  rpcUrl := "https://rpc.testnet.aethelred.io"
  chainId := "aethelred-testnet-1"
  bridgeModuleAddress := "0x0000000000000000000000000000000000000006"
  confirmations := 1
  pollIntervalSecs := 6
  startBlock := none

def mainnet : AethelredConfig where
  rpcUrl := "https://rpc.mainnet.aethelred.io"
  chainId := "aethelred-mainnet-1"
  bridgeModuleAddress := "0x0000000000000000000000000000000000000006"
  confirmations := 3
  pollIntervalSecs := 6
  startBlock := none

end AethelredConfig

structure ConsensusConfig where
  thresholdBps : UInt16
  proposalTimeoutSecs : UInt64
  voteTimeoutSecs : UInt64
  maxPendingProposals : Nat

def ConsensusConfig.default : ConsensusConfig where
  thresholdBps := 6700
  proposalTimeoutSecs := 1800
  voteTimeoutSecs := 180
  maxPendingProposals := 500

structure BridgeConfig where
  identity : RelayerIdentityConfig
  ethereum : EthereumConfig
  aethelred : AethelredConfig
  consensus : ConsensusConfig

namespace BridgeConfig

def validate (config : BridgeConfig) : Except BridgeError Unit :=
  if config.ethereum.rpcUrl.isEmpty then .error (.Config "Ethereum RPC URL is required")
  else if config.ethereum.bridgeAddress.isEmpty then
    .error (.Config "Bridge contract address is required")
  else if config.aethelred.rpcUrl.isEmpty then .error (.Config "Aethelred RPC URL is required")
  else if config.consensus.thresholdBps = 0 ∨ 10000 < config.consensus.thresholdBps then
    .error (.Config "Consensus threshold must be between 1 and 10000 basis points")
  else .ok ()

def testnet : BridgeConfig where
  identity := .default
  ethereum := .testnet
  aethelred := .testnet
  consensus := .default

def mainnet : BridgeConfig where
  identity := .default
  ethereum := .mainnet
  aethelred := .mainnet
  consensus :=
    { thresholdBps := 6700, proposalTimeoutSecs := 3600, voteTimeoutSecs := 300,
      maxPendingProposals := 1000 }

def bridgingTo (config : BridgeConfig) (bridgeAddress : String) : BridgeConfig :=
  { config with ethereum := { config.ethereum with bridgeAddress } }

end BridgeConfig

end Relayer

/- The relayer's persisted state. Every write goes to the snapshot file as well, so a restart finds
the state the last write left. -/
namespace Relayer

open Go

/-- `PersistedBridgeState`. -/
structure BridgeStorage where
  lastEthBlock : Option UInt64 := none
  ethBlockHashes : Map UInt64 Hash := ∅
  lastAethelredBlock : Option UInt64 := none
  deposits : Map Hash EthereumDeposit := ∅
  depositStatuses : Map Hash DepositStatus := ∅
  pendingDeposits : Map Hash EthereumDeposit := ∅
  burns : Map Hash AethelredBurn := ∅
  burnStatuses : Map Hash WithdrawalStatus := ∅
  pendingBurns : Map Hash AethelredBurn := ∅
  mintProposals : Map Hash MintProposal := ∅
  withdrawalProposals : Map Hash WithdrawalProposal := ∅

def DepositStatus.settles : DepositStatus → Bool
  | .Completed | .Cancelled | .Failed => true
  | _ => false

def WithdrawalStatus.settles : WithdrawalStatus → Bool
  | .Completed | .Challenged | .Failed => true
  | _ => false

/-- `entry(key).or_insert(value)`. -/
def orInsert {ν : Type} (m : Map Hash ν) (key : Hash) (value : ν) : Map Hash ν :=
  match m.lookup key with
  | some _ => m
  | none => m.insert key value

namespace BridgeStorage

variable (state : BridgeStorage)

def setLastEthBlock (block : UInt64) : BridgeStorage :=
  { state with lastEthBlock := some block }

def setLastAethelredBlock (block : UInt64) : BridgeStorage :=
  { state with lastAethelredBlock := some block }

variable (depositId : Hash)

def hasDeposit : Bool :=
  (state.deposits.lookup depositId).isSome || (state.pendingDeposits.lookup depositId).isSome

def storeDeposit (deposit : EthereumDeposit) : BridgeStorage :=
  { state with
    pendingDeposits := state.pendingDeposits.erase deposit.depositId
    deposits := state.deposits.insert deposit.depositId deposit
    ethBlockHashes := state.ethBlockHashes.insert deposit.blockNumber deposit.blockHash
    depositStatuses := orInsert state.depositStatuses deposit.depositId .Confirmed }

def getDeposit : Option EthereumDeposit :=
  (state.deposits.lookup depositId).or (state.pendingDeposits.lookup depositId)

def getDepositStatus : Option DepositStatus :=
  state.depositStatuses.lookup depositId

def storePendingDeposit (deposit : EthereumDeposit) : BridgeStorage :=
  { state with
    pendingDeposits := state.pendingDeposits.insert deposit.depositId deposit
    depositStatuses := state.depositStatuses.insert deposit.depositId .Pending
    ethBlockHashes := state.ethBlockHashes.insert deposit.blockNumber deposit.blockHash }

def updateDepositStatus (status : DepositStatus) : BridgeStorage :=
  let written := { state with depositStatuses := state.depositStatuses.insert depositId status }
  match status.settles, state.pendingDeposits.lookup depositId with
  | true, some deposit =>
    { written with
      pendingDeposits := state.pendingDeposits.erase depositId
      deposits := state.deposits.insert depositId deposit }
  | _, _ => written

variable (burnId : Hash)

def hasBurn : Bool :=
  (state.burns.lookup burnId).isSome || (state.pendingBurns.lookup burnId).isSome

def storeBurn (burn : AethelredBurn) : BridgeStorage :=
  { state with
    pendingBurns := state.pendingBurns.erase burn.burnId
    burns := state.burns.insert burn.burnId burn
    burnStatuses := orInsert state.burnStatuses burn.burnId .Confirmed }

def getBurn : Option AethelredBurn :=
  (state.burns.lookup burnId).or (state.pendingBurns.lookup burnId)

def getBurnStatus : Option WithdrawalStatus :=
  state.burnStatuses.lookup burnId

def storePendingBurn (burn : AethelredBurn) : BridgeStorage :=
  { state with
    pendingBurns := state.pendingBurns.insert burn.burnId burn
    burnStatuses := state.burnStatuses.insert burn.burnId .Pending }

def updateBurnStatus (status : WithdrawalStatus) : BridgeStorage :=
  let written := { state with burnStatuses := state.burnStatuses.insert burnId status }
  match status.settles, state.pendingBurns.lookup burnId with
  | true, some burn =>
    { written with
      pendingBurns := state.pendingBurns.erase burnId
      burns := state.burns.insert burnId burn }
  | _, _ => written

def storeMintProposal (proposal : MintProposal) : BridgeStorage :=
  { state with mintProposals := state.mintProposals.insert proposal.proposalId proposal }

variable (proposalId : Hash)

def getMintProposal : Option MintProposal :=
  state.mintProposals.lookup proposalId

def getPendingMintProposals (order : RangeOrder Hash) : List MintProposal :=
  (state.mintProposals.entries order).map Prod.snd

def updateMintProposalStatus (now : UInt64) (proposalId : Hash)
    (status : MintProposalStatus) : BridgeStorage :=
  match state.mintProposals.lookup proposalId with
  | some proposal =>
    { state with
      mintProposals := state.mintProposals.insert proposalId
        { proposal with status, updatedAt := now } }
  | none => state

def storeWithdrawalProposal (proposal : WithdrawalProposal) : BridgeStorage :=
  { state with
    withdrawalProposals := state.withdrawalProposals.insert proposal.proposalId proposal }

def getWithdrawalProposal : Option WithdrawalProposal :=
  state.withdrawalProposals.lookup proposalId

def getPendingWithdrawalProposals (order : RangeOrder Hash) : List WithdrawalProposal :=
  (state.withdrawalProposals.entries order).map Prod.snd

def updateWithdrawalProposalStatus (now : UInt64) (proposalId : Hash)
    (status : WithdrawalProposalStatus) : BridgeStorage :=
  match state.withdrawalProposals.lookup proposalId with
  | some proposal =>
    { state with
      withdrawalProposals := state.withdrawalProposals.insert proposalId
        { proposal with status, updatedAt := now } }
  | none => state

def updateWithdrawalStatus (status : WithdrawalStatus) : BridgeStorage :=
  { state with burnStatuses := state.burnStatuses.insert proposalId status }

end BridgeStorage

/- The event processor. A handler checks everything before its first write, so a handler that
fails leaves the storage as it was. -/

/-- What the relayer's process is started with, and the files it can see. -/
structure Host where
  config : BridgeConfig
  sha256 : List UInt8 → Hash
  pathExists : String → Bool

namespace EventProcessor

variable (state : BridgeStorage)

def validateDeposit (deposit : EthereumDeposit) : Except BridgeError Unit :=
  if deposit.amount = 0 then .error (.InvalidInput "Zero amount deposit")
  else if deposit.aethelredRecipient = 0 then .error (.InvalidInput "Invalid recipient")
  else if state.hasDeposit deposit.depositId then .error (.Duplicate "Deposit already exists")
  else .ok ()

def validateBurn (burn : AethelredBurn) : Except BridgeError Unit :=
  if burn.amount = 0 then .error (.InvalidInput "Zero amount burn")
  else if burn.ethRecipient = 0 then .error (.InvalidInput "Invalid ETH recipient")
  else if state.hasBurn burn.burnId then .error (.Duplicate "Burn already exists")
  else .ok ()

def handleEthDeposit (deposit : EthereumDeposit) : Except BridgeError BridgeStorage := do
  validateDeposit state deposit
  return state.storePendingDeposit deposit

variable (host : Host) (now : UInt64)

def mintProposal (deposit : EthereumDeposit) (proposer : AethelredAddress) : MintProposal where
  proposalId := deposit.generateId host.sha256
  deposit
  proposer
  votes := []
  status := .Voting
  createdAt := now
  updatedAt := now

variable (state : BridgeStorage)

def handleEthDepositFinalized (depositId : Hash) : Except BridgeError BridgeStorage :=
  match state.getDeposit depositId with
  | none => .error (.InvalidInput "Deposit not found")
  | some deposit => do
      let proposer ← host.config.identity.aethelredAddressBytes
      let confirmed := state.updateDepositStatus depositId .Confirmed
      return confirmed.storeMintProposal (mintProposal host now deposit proposer)

def handleEthWithdrawalProcessed (proposalId : Hash) : BridgeStorage :=
  state.updateWithdrawalStatus proposalId .Completed

def handleEthReorg (affectedDeposits : List Hash) : BridgeStorage :=
  affectedDeposits.foldl (fun state depositId => state.updateDepositStatus depositId .Pending) state

def handleAethelredBurn (burn : AethelredBurn) : Except BridgeError BridgeStorage := do
  validateBurn state burn
  return state.storePendingBurn burn

def withdrawalProposal (burnId : Hash) (burn : AethelredBurn)
    (proposer : AethelredAddress) : WithdrawalProposal where
  proposalId := burnId
  burn
  proposer
  votes := []
  status := .Voting
  createdAt := now
  challengeEndTime := 0
  updatedAt := now

def handleAethelredBurnFinalized (burnId : Hash) : Except BridgeError BridgeStorage :=
  match state.getBurn burnId with
  | none => .error (.InvalidInput "Burn not found")
  | some burn => do
      let proposer ← host.config.identity.aethelredAddressBytes
      let confirmed := state.updateBurnStatus burnId .Confirmed
      return confirmed.storeWithdrawalProposal (withdrawalProposal now burnId burn proposer)

def handleAethelredMintCompleted (proposalId : Hash) : BridgeStorage :=
  let completed := state.updateMintProposalStatus now proposalId .Completed
  match completed.getMintProposal proposalId with
  | some proposal => completed.updateDepositStatus proposal.deposit.depositId .Completed
  | none => completed

def processEthereumEvent :
    EthereumEvent → Except BridgeError BridgeStorage
  | .Deposit deposit => handleEthDeposit state deposit
  | .DepositFinalized depositId _ => handleEthDepositFinalized host now state depositId
  | .WithdrawalProcessed proposalId _ _ _ => .ok (handleEthWithdrawalProcessed state proposalId)
  | .Reorg _ _ affectedDeposits => .ok (handleEthReorg state affectedDeposits)
  | .NewBlock _ _ _ => .ok state

def processAethelredEvent :
    AethelredEvent → Except BridgeError BridgeStorage
  | .Burn burn => handleAethelredBurn state burn
  | .BurnFinalized burnId _ => handleAethelredBurnFinalized host now state burnId
  | .MintCompleted proposalId _ _ _ => .ok (handleAethelredMintCompleted now state proposalId)
  | .NewBlock _ _ _ => .ok state

end EventProcessor

def identifiedHost (digest : Hash) : Host where
  config :=
    { BridgeConfig.mainnet.bridgingTo "0x1234567890123456789012345678901234567890" with
      identity :=
        { RelayerIdentityConfig.default with
          aethelredAddress :=
            some "0x00000000000000000000000000000000000000000000000000000000000000ee" } }
  sha256 _ := digest
  pathExists _ := true

end Relayer
