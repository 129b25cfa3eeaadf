import Aethelred.Lib.Intake
import Aethelred.Relayer.Processor

/- The two event listeners. A poll asks its node several times; each answer may be a failure. -/
namespace Relayer

open BridgeStorage

/-- The first topic `get_deposit_events` asks for. -/
def depositTopic : Hash := 0x5e3c1311ea442664e90b8c12c1b7a8fa8a3477f7e4a3f5a0b7b1e25e6c3e7b3a

/-- What an Ethereum node answers during one poll, and the clock. -/
structure EthProvider where
  getBlockNumber : Except BridgeError UInt64
  getDepositEvents : (fromBlock toBlock : UInt64) → Except BridgeError (List EthereumDeposit)
  getBlockHash : UInt64 → Except BridgeError Hash
  now : UInt64

structure EthereumListener where
  storage : BridgeStorage
  lastBlock : UInt64

def saturatingSub (a b : UInt64) : UInt64 := if b ≤ a then a - b else 0

def depositIntake : Intake BridgeStorage Hash EthereumDeposit EthereumEvent where
  key := (·.depositId)
  has := hasDeposit
  store := storeDeposit
  finalized deposit := .DepositFinalized deposit.depositId deposit.blockNumber
  seen := .Deposit

namespace EthereumListener

variable (config : EthereumConfig)

def new (storage : BridgeStorage) : EthereumListener where
  storage
  lastBlock := (storage.lastEthBlock.or config.startBlock).getD 0

def scanEnd (currentBlock fromBlock : UInt64) : UInt64 :=
  min currentBlock (fromBlock + config.maxBlocksPerScan - 1)

def isFinal (currentBlock : UInt64) (deposit : EthereumDeposit) : Bool :=
  decide (config.confirmations ≤ saturatingSub currentBlock deposit.blockNumber)

def pollEvents (provider : EthProvider) (listener : EthereumListener) :
    EthereumListener × Except BridgeError (List EthereumEvent) :=
  match provider.getBlockNumber with
  | .error reason => (listener, .error reason)
  | .ok currentBlock =>
    if currentBlock ≤ listener.lastBlock then (listener, .ok [])
    else
      let fromBlock := listener.lastBlock + 1
      let toBlock := scanEnd config currentBlock fromBlock
      match provider.getDepositEvents fromBlock toBlock with
      | .error reason => (listener, .error reason)
      | .ok deposits =>
        let (storage, events) :=
          depositIntake.scan (isFinal config currentBlock) listener.storage deposits
        match provider.getBlockHash toBlock with
        -- what has been stored stays stored, but its events are dropped
        | .error reason => ({ listener with storage }, .error reason)
        | .ok hash =>
          ({ storage := storage.setLastEthBlock toBlock, lastBlock := toBlock },
            .ok (events ++ [.NewBlock toBlock hash provider.now]))

/-- What a poll can do, by the node's answers. -/
inductive Polled (config : EthereumConfig) (provider : EthProvider) (listener : EthereumListener) :
    EthereumListener × Except BridgeError (List EthereumEvent) → Prop where
  | unreached {reason : BridgeError} (failed : provider.getBlockNumber = .error reason) :
      Polled config provider listener (listener, .error reason)
  | idle {head : UInt64} (numbered : provider.getBlockNumber = .ok head)
      (behind : head ≤ listener.lastBlock) : Polled config provider listener (listener, .ok [])
  | unread {head : UInt64} {reason : BridgeError} (numbered : provider.getBlockNumber = .ok head)
      (ahead : listener.lastBlock < head)
      (failed : provider.getDepositEvents (listener.lastBlock + 1)
        (scanEnd config head (listener.lastBlock + 1)) = .error reason) :
      Polled config provider listener (listener, .error reason)
  | unfinished {head : UInt64} {deposits : List EthereumDeposit} {reason : BridgeError}
      (numbered : provider.getBlockNumber = .ok head) (ahead : listener.lastBlock < head)
      (fetched : provider.getDepositEvents (listener.lastBlock + 1)
        (scanEnd config head (listener.lastBlock + 1)) = .ok deposits)
      (failed : provider.getBlockHash (scanEnd config head (listener.lastBlock + 1)) =
        .error reason) :
      Polled config provider listener
        ({ listener with
            storage := (depositIntake.scan (isFinal config head) listener.storage deposits).1 },
          .error reason)
  | scanned {head : UInt64} {deposits : List EthereumDeposit} {hash : Hash}
      (numbered : provider.getBlockNumber = .ok head) (ahead : listener.lastBlock < head)
      (fetched : provider.getDepositEvents (listener.lastBlock + 1)
        (scanEnd config head (listener.lastBlock + 1)) = .ok deposits)
      (hashed : provider.getBlockHash (scanEnd config head (listener.lastBlock + 1)) = .ok hash) :
      Polled config provider listener
        ({ storage := (depositIntake.scan (isFinal config head) listener.storage
              deposits).1.setLastEthBlock (scanEnd config head (listener.lastBlock + 1))
           lastBlock := scanEnd config head (listener.lastBlock + 1) },
          .ok ((depositIntake.scan (isFinal config head) listener.storage deposits).2 ++
            [.NewBlock (scanEnd config head (listener.lastBlock + 1)) hash provider.now]))

theorem pollEvents_polled (provider : EthProvider) (listener : EthereumListener) :
    Polled config provider listener (listener.pollEvents config provider) := by
  unfold pollEvents
  cases numbered : provider.getBlockNumber with
  | error reason => exact .unreached numbered
  | ok head =>
    by_cases behind : head ≤ listener.lastBlock
    · simp only [behind, ↓reduceIte]
      exact .idle numbered behind
    · simp only [behind, ↓reduceIte]
      have ahead := UInt64.not_le.mp behind
      cases fetched : provider.getDepositEvents (listener.lastBlock + 1)
          (scanEnd config head (listener.lastBlock + 1)) with
      | error reason => exact .unread numbered ahead fetched
      | ok deposits =>
        cases hashed : provider.getBlockHash
            (scanEnd config head (listener.lastBlock + 1)) with
        | error reason => exact .unfinished numbered ahead fetched hashed
        | ok hash => exact .scanned numbered ahead fetched hashed

end EthereumListener

structure MintEvent where
  proposalId : Hash
  recipient : AethelredAddress
  amount : TokenAmount
  txHash : Hash

/-- A transaction as `/cosmos/tx/v1beta1/txs` returns it: its height and what its events hold. -/
structure TxResponse (α : Type) where
  height : UInt64
  events : List α

/-- What an Aethelred node answers during one poll, and the clock. A query for transactions is
answered with its first page, oldest first, whatever the blocks the caller is interested in. -/
structure AethelredClient where
  getBlockHeight : Except BridgeError UInt64
  burnTxs : Except BridgeError (List (TxResponse AethelredBurn))
  mintTxs : Except BridgeError (List (TxResponse MintEvent))
  getBlockHash : UInt64 → Except BridgeError Hash
  now : UInt64

namespace AethelredClient

def inRange {α : Type} (fromBlock toBlock : UInt64) (tx : TxResponse α) : Bool :=
  !(decide (tx.height < fromBlock) || decide (toBlock < tx.height))

/-- Of each transaction `parse_burn_tx` returns the first burn. -/
def getBurnEvents (client : AethelredClient) (fromBlock toBlock : UInt64) :
    Except BridgeError (List AethelredBurn) :=
  client.burnTxs.map fun txs =>
    (txs.filter (inRange fromBlock toBlock)).filterMap fun tx => tx.events.head?

def getMintEvents (client : AethelredClient) (fromBlock toBlock : UInt64) :
    Except BridgeError (List MintEvent) :=
  client.mintTxs.map fun txs => (txs.filter (inRange fromBlock toBlock)).flatMap fun tx => tx.events

end AethelredClient

structure AethelredListener where
  storage : BridgeStorage
  lastBlock : UInt64

def burnIntake : Intake BridgeStorage Hash AethelredBurn AethelredEvent where
  key := (·.burnId)
  has := hasBurn
  store := storeBurn
  finalized burn := .BurnFinalized burn.burnId burn.blockHeight
  seen := .Burn

namespace AethelredListener

variable (config : AethelredConfig)

def new (storage : BridgeStorage) : AethelredListener where
  storage
  lastBlock := (storage.lastAethelredBlock.or config.startBlock).getD 0

def isFinal (currentBlock : UInt64) (burn : AethelredBurn) : Bool :=
  decide (config.confirmations ≤ saturatingSub currentBlock burn.blockHeight)

def pollEvents (client : AethelredClient)
    (listener : AethelredListener) : AethelredListener × Except BridgeError (List AethelredEvent) :=
  match client.getBlockHeight with
  | .error reason => (listener, .error reason)
  | .ok currentBlock =>
    if currentBlock ≤ listener.lastBlock then (listener, .ok [])
    else
      let fromBlock := listener.lastBlock + 1
      let toBlock := currentBlock
      match client.getBurnEvents fromBlock toBlock with
      | .error reason => (listener, .error reason)
      | .ok burns =>
        let (storage, events) :=
          burnIntake.scan (isFinal config currentBlock) listener.storage burns
        match client.getMintEvents fromBlock toBlock with
        | .error reason => ({ listener with storage }, .error reason)
        | .ok mints =>
          let completed := mints.map fun mint =>
            AethelredEvent.MintCompleted mint.proposalId mint.recipient mint.amount mint.txHash
          match client.getBlockHash toBlock with
          | .error reason => ({ listener with storage }, .error reason)
          | .ok hash =>
            ({ storage := storage.setLastAethelredBlock toBlock, lastBlock := toBlock },
              .ok (events ++ completed ++ [.NewBlock toBlock hash client.now]))

/-- What a poll can do, by the node's answers. -/
inductive Polled (config : AethelredConfig) (client : AethelredClient)
    (listener : AethelredListener) :
    AethelredListener × Except BridgeError (List AethelredEvent) → Prop where
  | unreached {reason : BridgeError} (failed : client.getBlockHeight = .error reason) :
      Polled config client listener (listener, .error reason)
  | idle {head : UInt64} (numbered : client.getBlockHeight = .ok head)
      (behind : head ≤ listener.lastBlock) : Polled config client listener (listener, .ok [])
  | unread {head : UInt64} {reason : BridgeError} (numbered : client.getBlockHeight = .ok head)
      (ahead : listener.lastBlock < head)
      (failed : client.getBurnEvents (listener.lastBlock + 1) head = .error reason) :
      Polled config client listener (listener, .error reason)
  | unfinished {head : UInt64} {burns : List AethelredBurn} {reason : BridgeError}
      (numbered : client.getBlockHeight = .ok head) (ahead : listener.lastBlock < head)
      (fetched : client.getBurnEvents (listener.lastBlock + 1) head = .ok burns)
      (failed : client.getMintEvents (listener.lastBlock + 1) head = .error reason ∨
        client.getBlockHash head = .error reason) :
      Polled config client listener
        ({ listener with
            storage := (burnIntake.scan (isFinal config head) listener.storage burns).1 },
          .error reason)
  | scanned {head : UInt64} {burns : List AethelredBurn} {mints : List MintEvent} {hash : Hash}
      (numbered : client.getBlockHeight = .ok head) (ahead : listener.lastBlock < head)
      (fetched : client.getBurnEvents (listener.lastBlock + 1) head = .ok burns)
      (minted : client.getMintEvents (listener.lastBlock + 1) head = .ok mints)
      (hashed : client.getBlockHash head = .ok hash) :
      Polled config client listener
        ({ storage := (burnIntake.scan (isFinal config head) listener.storage
              burns).1.setLastAethelredBlock head
           lastBlock := head },
          .ok ((burnIntake.scan (isFinal config head) listener.storage burns).2 ++
            (mints.map fun mint => AethelredEvent.MintCompleted mint.proposalId mint.recipient
              mint.amount mint.txHash) ++ [.NewBlock head hash client.now]))

theorem pollEvents_polled (client : AethelredClient) (listener : AethelredListener) :
    Polled config client listener (listener.pollEvents config client) := by
  unfold pollEvents
  cases numbered : client.getBlockHeight with
  | error reason => exact .unreached numbered
  | ok head =>
    by_cases behind : head ≤ listener.lastBlock
    · simp only [behind, ↓reduceIte]
      exact .idle numbered behind
    · simp only [behind, ↓reduceIte]
      have ahead := UInt64.not_le.mp behind
      cases fetched : client.getBurnEvents (listener.lastBlock + 1) head with
      | error reason => exact .unread numbered ahead fetched
      | ok burns =>
        cases minted : client.getMintEvents (listener.lastBlock + 1) head with
        | error reason => exact .unfinished numbered ahead fetched (.inl minted)
        | ok mints =>
          cases hashed : client.getBlockHash head with
          | error reason => exact .unfinished numbered ahead fetched (.inr hashed)
          | ok hash => exact .scanned numbered ahead fetched minted hashed

end AethelredListener

end Relayer
