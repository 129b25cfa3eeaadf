import Aethelred.Relayer.Listener
import Aethelred.Relayer.Consensus

/- Both listeners over the storage they share, along growing chains: polls, restarts, and whatever
else the relayer does in between. -/
namespace Relayer

open Go Except BridgeStorage EventProcessor EthereumListener

/-- The deposits of an Ethereum chain in the order of its blocks, and the first topic of their
logs. -/
structure EthChain where
  deposits : List EthereumDeposit
  topic : Hash
  distinct : (deposits.map (·.depositId)).Nodup

structure AethelredChain where
  txs : List (TxResponse AethelredBurn)
  dated : ∀ tx ∈ txs, ∀ burn ∈ tx.events, burn.blockHeight = tx.height
  distinct : ((txs.flatMap (·.events)).map (·.burnId)).Nodup

/-- How one poll of the Ethereum node goes: the head it reports and which queries fail. -/
structure EthPoll where
  getBlockNumber : Except BridgeError UInt64
  getLogs : Except BridgeError Unit
  getBlockHash : Except BridgeError Hash
  now : UInt64

structure AethelredPoll where
  getBlockHeight : Except BridgeError UInt64
  /-- Whether the answer has `tx_responses`; without, it is read as an empty list. -/
  burnTxs : Except BridgeError Bool
  mintTxs : Except BridgeError (List (TxResponse MintEvent))
  getBlockHash : Except BridgeError Hash
  now : UInt64

def within (fromBlock toBlock block : UInt64) : Bool :=
  decide (fromBlock ≤ block) && decide (block ≤ toBlock)

/-- `eth_getLogs`: the logs of these blocks whose first topic is the one asked for. -/
def EthChain.logs (chain : EthChain) (topic : Hash) (fromBlock toBlock : UInt64) :
    List EthereumDeposit :=
  if chain.topic = topic then
    chain.deposits.filter fun deposit => within fromBlock toBlock deposit.blockNumber
  else []

def EthChain.provider (chain : EthChain) (poll : EthPoll) : EthProvider where
  getBlockNumber := poll.getBlockNumber
  getDepositEvents fromBlock toBlock :=
    poll.getLogs.map fun _ => chain.logs depositTopic fromBlock toBlock
  getBlockHash _ := poll.getBlockHash
  now := poll.now

/-- `pagination.limit`. -/
def pageLimit : Nat := 100

def AethelredChain.answer (chain : AethelredChain) (listed : Bool) :
    List (TxResponse AethelredBurn) :=
  if listed then chain.txs.take pageLimit else []

def AethelredChain.client (chain : AethelredChain) (poll : AethelredPoll) : AethelredClient where
  getBlockHeight := poll.getBlockHeight
  burnTxs := poll.burnTxs.map chain.answer
  mintTxs := poll.mintTxs
  getBlockHash _ := poll.getBlockHash
  now := poll.now

/-- The relayer's listeners, with a record of what they have emitted and which blocks they have
scanned. -/
structure Watch where
  storage : BridgeStorage
  ethLast : UInt64
  aethelredLast : UInt64
  ethEmitted : List EthereumEvent := []
  aethelredEmitted : List AethelredEvent := []
  ethScans : List (UInt64 × UInt64) := []
  aethelredScans : List (UInt64 × UInt64) := []

/-- The listeners poll, calls arrive, and the relayer restarts. -/
inductive WatchAction where
  | pollEthereum (poll : EthPoll)
  | pollAethelred (poll : AethelredPoll)
  | call (call : Call)
  | restart

namespace Watch

def start (config : BridgeConfig) (storage : BridgeStorage) : Watch where
  storage
  ethLast := (new config.ethereum storage).lastBlock
  aethelredLast := (AethelredListener.new config.aethelred storage).lastBlock

/-- A scan has read the block. -/
def Scanned (scans : List (UInt64 × UInt64)) (block : UInt64) : Prop :=
  ∃ scan ∈ scans, within scan.1 scan.2 block = true

instance (scans : List (UInt64 × UInt64)) (block : UInt64) : Decidable (Scanned scans block) :=
  inferInstanceAs (Decidable (∃ scan ∈ scans, _))

def ethRange (config : EthereumConfig) (watch : Watch) (poll : EthPoll) :
    Option (UInt64 × UInt64) :=
  match poll.getBlockNumber, poll.getLogs, poll.getBlockHash with
  | .ok head, .ok (), .ok _ =>
    if head ≤ watch.ethLast then none
    else some (watch.ethLast + 1, scanEnd config head (watch.ethLast + 1))
  | _, _, _ => none

def aethelredRange (watch : Watch) (poll : AethelredPoll) : Option (UInt64 × UInt64) :=
  match poll.getBlockHeight, poll.burnTxs, poll.mintTxs, poll.getBlockHash with
  | .ok head, .ok _, .ok _, .ok _ =>
    if head ≤ watch.aethelredLast then none else some (watch.aethelredLast + 1, head)
  | _, _, _, _ => none

def delivers (watch : Watch) : Call → Bool
  | .ethereumEvent _ (.Deposit deposit) => decide (.Deposit deposit ∈ watch.ethEmitted)
  | .aethelredEvent _ (.Burn burn) => decide (.Burn burn ∈ watch.aethelredEmitted)
  | .listenerDeposit _ | .listenerBurn _ => false
  | _ => true

def step (host : Host) (eth : EthChain) (aethelred : AethelredChain) (watch : Watch) :
    WatchAction → Watch
  | .pollEthereum poll =>
    let (next, answer) := pollEvents host.config.ethereum (eth.provider poll)
      ⟨watch.storage, watch.ethLast⟩
    { watch with
      storage := next.storage
      ethLast := next.lastBlock
      ethEmitted := watch.ethEmitted ++ answer.toOption.getD []
      ethScans := (watch.ethRange host.config.ethereum poll).toList ++ watch.ethScans }
  | .pollAethelred poll =>
    let (next, answer) := AethelredListener.pollEvents host.config.aethelred
      (aethelred.client poll) ⟨watch.storage, watch.aethelredLast⟩
    { watch with
      storage := next.storage
      aethelredLast := next.lastBlock
      aethelredEmitted := watch.aethelredEmitted ++ answer.toOption.getD []
      aethelredScans := (watch.aethelredRange poll).toList ++ watch.aethelredScans }
  | .call call =>
    if watch.delivers call then { watch with storage := call.write host watch.storage } else watch
  | .restart =>
    { watch with
      ethLast := (new host.config.ethereum watch.storage).lastBlock
      aethelredLast := (AethelredListener.new host.config.aethelred watch.storage).lastBlock }

def run (host : Host) (eth : EthChain) (aethelred : AethelredChain)
    (actions : List WatchAction) : Watch :=
  Run.exec (step host eth aethelred) (start host.config {}) actions

end Watch

/- Which deposits and burns the storage has: the listeners add to them, the processor does not. -/

section Holdings

variable {state : BridgeStorage}

def BridgeStorage.holdings (state : BridgeStorage) : (Hash → Bool) × (Hash → Bool) :=
  (state.hasDeposit, state.hasBurn)

theorem isSome_or_move {ν : Type} {stored pending : Map Hash ν} {key : Hash} {value : ν}
    (found : pending.lookup key = some value) (id : Hash) :
    (((stored.insert key value).lookup id).isSome || ((pending.erase key).lookup id).isSome) =
      ((stored.lookup id).isSome || (pending.lookup id).isSome) := by
  rw [Map.lookup_insert_eq, Map.lookup_erase_eq]
  split
  next same =>
    subst same
    simp [found]
  next => rfl

theorem holdings_updateDepositStatus (state : BridgeStorage) (id : Hash)
    (status : DepositStatus) : (state.updateDepositStatus id status).holdings = state.holdings := by
  unfold updateDepositStatus
  split
  next deposit settles found => exact congrArg (·, _) (funext (isSome_or_move found))
  next => rfl

theorem holdings_updateBurnStatus (state : BridgeStorage) (id : Hash) (status : WithdrawalStatus) :
    (state.updateBurnStatus id status).holdings = state.holdings := by
  unfold updateBurnStatus
  split
  next burn settles found => exact congrArg (_, ·) (funext (isSome_or_move found))
  next => rfl

theorem holdings_updateMintProposalStatus (state : BridgeStorage) (now : UInt64) (id : Hash)
    (status : MintProposalStatus) :
    (state.updateMintProposalStatus now id status).holdings = state.holdings := by
  unfold updateMintProposalStatus
  split <;> rfl

theorem holdings_updateWithdrawalProposalStatus (state : BridgeStorage) (now : UInt64) (id : Hash)
    (status : WithdrawalProposalStatus) :
    (state.updateWithdrawalProposalStatus now id status).holdings = state.holdings := by
  unfold updateWithdrawalProposalStatus
  split <;> rfl

theorem holdings_foldl {α : Type} {round : BridgeStorage → α → BridgeStorage}
    (idle : ∀ state item, (round state item).holdings = state.holdings) (items : List α)
    (state : BridgeStorage) : (items.foldl round state).holdings = state.holdings := by
  induction items generalizing state with
  | nil => rfl
  | cons item rest ih => rw [List.foldl_cons, ih, idle]

theorem holdings_checkTimeouts (config : ConsensusConfig) (now : UInt64)
    (mintOrder burnOrder : RangeOrder Hash) (state : BridgeStorage) :
    (ConsensusEngine.checkTimeouts config now mintOrder burnOrder state).holdings =
      state.holdings := by
  unfold ConsensusEngine.checkTimeouts
  rw [holdings_foldl, holdings_foldl]
  · intro state proposal
    split
    · exact holdings_updateMintProposalStatus ..
    · rfl
  · intro state proposal
    split
    · exact holdings_updateWithdrawalProposalStatus ..
    · rfl

/-- An event of a known deposit adds none. -/
theorem holdings_ethereumEvent {host : Host} {now : UInt64} {event : EthereumEvent}
    (known : ∀ deposit, event = .Deposit deposit → state.hasDeposit deposit.depositId = true) :
    ((Call.ethereumEvent now event).write host state).holdings = state.holdings := by
  simp only [Call.write]
  split
  next next done =>
    cases event with
    | Deposit deposit =>
      simp only [processEthereumEvent, handleEthDeposit] at done
      obtain ⟨_, valid, -⟩ := bind_eq_ok.mp done
      simp only [validateDeposit, ite_error_eq_ok] at valid
      exact absurd (known deposit rfl) valid.2.2.1
    | DepositFinalized id number =>
      simp only [processEthereumEvent,
        handleEthDepositFinalized] at done
      split at done
      · contradiction
      · obtain ⟨_, -, done⟩ := bind_eq_ok.mp done
        obtain rfl := pure_eq_ok.mp done
        exact holdings_updateDepositStatus state id .Confirmed
    | WithdrawalProcessed =>
      obtain rfl := ok.inj done
      rfl
    | Reorg fromBlock toBlock affected =>
      obtain rfl := ok.inj done
      exact holdings_foldl (fun _ _ => holdings_updateDepositStatus ..) affected state
    | NewBlock =>
      obtain rfl := ok.inj done
      rfl
  next => rfl

/-- An event of a known burn adds none. -/
theorem holdings_aethelredEvent {host : Host} {now : UInt64} {event : AethelredEvent}
    (known : ∀ burn, event = .Burn burn → state.hasBurn burn.burnId = true) :
    ((Call.aethelredEvent now event).write host state).holdings = state.holdings := by
  simp only [Call.write]
  split
  next next done =>
    cases event with
    | Burn burn =>
      simp only [processAethelredEvent, handleAethelredBurn] at done
      obtain ⟨_, valid, -⟩ := bind_eq_ok.mp done
      simp only [validateBurn, ite_error_eq_ok] at valid
      exact absurd (known burn rfl) valid.2.2.1
    | BurnFinalized id height =>
      simp only [processAethelredEvent,
        handleAethelredBurnFinalized] at done
      split at done
      · contradiction
      · obtain ⟨_, -, done⟩ := bind_eq_ok.mp done
        obtain rfl := pure_eq_ok.mp done
        exact holdings_updateBurnStatus state id .Confirmed
    | MintCompleted id =>
      obtain rfl := ok.inj done
      simp only [handleAethelredMintCompleted]
      split
      · rw [holdings_updateDepositStatus, holdings_updateMintProposalStatus]
      · exact holdings_updateMintProposalStatus ..
    | NewBlock =>
      obtain rfl := ok.inj done
      rfl
  next => rfl

end Holdings

theorem isSome_or_store {ν : Type} (stored pending : Map Hash ν) (key : Hash) (value : ν)
    (id : Hash) :
    (((stored.insert key value).lookup id).isSome || ((pending.erase key).lookup id).isSome) =
      (decide (id = key) || ((stored.lookup id).isSome || (pending.lookup id).isSome)) := by
  rw [Map.lookup_insert_eq, Map.lookup_erase_eq]
  split
  next same => simp [same]
  next differ => simp [differ]

theorem depositIntake_lawful : depositIntake.Lawful where
  has_store state deposit id := isSome_or_store state.deposits state.pendingDeposits _ deposit id
  finalized_key _ _ same := (EthereumEvent.DepositFinalized.inj same).1
  seen_key _ _ same := congrArg _ (EthereumEvent.Deposit.inj same)
  seen_ne _ _ same := nomatch same

theorem burnIntake_lawful : burnIntake.Lawful where
  has_store state burn id := isSome_or_store state.burns state.pendingBurns _ burn id
  finalized_key _ _ same := (AethelredEvent.BurnFinalized.inj same).1
  seen_key _ _ same := congrArg _ (AethelredEvent.Burn.inj same)
  seen_ne _ _ same := nomatch same

theorem hasBurn_depositScan (final : EthereumDeposit → Bool) (deposits : List EthereumDeposit)
    (state : BridgeStorage) :
    (depositIntake.scan final state deposits).1.hasBurn = state.hasBurn := by
  induction deposits generalizing state with
  | nil => rfl
  | cons first rest ih =>
    unfold Intake.scan
    split
    · exact ih state
    · split
      · exact ih (state.storeDeposit first)
      · exact ih state

theorem hasDeposit_burnScan (final : AethelredBurn → Bool) (burns : List AethelredBurn)
    (state : BridgeStorage) :
    (burnIntake.scan final state burns).1.hasDeposit = state.hasDeposit := by
  induction burns generalizing state with
  | nil => rfl
  | cons first rest ih =>
    unfold Intake.scan
    split
    · exact ih state
    · split
      · exact ih (state.storeBurn first)
      · exact ih state

end Relayer
