import Aethelred.Relayer.Processor
import Aethelred.Lib.Run

/- The consensus engine: votes collected in memory, submissions, and the timeout sweep. -/
namespace Relayer

open Go

/-- The engine's verification and submission backends, as they answer during one call. -/
structure Backends where
  verifySignature : RelayerVote → Except BridgeError Unit
  submitMint : Hash → Except BridgeError Unit
  submitWithdrawal : Hash → Except BridgeError Unit

inductive Target where
  | aethelred
  | ethereum
  deriving DecidableEq

/-- One call of a submission backend, with the relayer set and the votes at that moment. -/
structure Submission where
  target : Target
  proposalId : Hash
  relayerSet : RelayerSet
  votes : List RelayerVote
  succeeded : Bool

structure ConsensusEngine where
  storage : BridgeStorage
  relayerSet : RelayerSet
  pendingMints : Hash → List RelayerVote
  pendingWithdrawals : Hash → List RelayerVote
  submissions : List Submission

namespace ConsensusEngine

def new (storage : BridgeStorage) : ConsensusEngine where
  storage
  relayerSet := { relayers := [], thresholdBps := 6700, version := 0, totalStake := 0 }
  pendingMints _ := []
  pendingWithdrawals _ := []
  submissions := []

def updateRelayerSet (engine : ConsensusEngine) (newSet : RelayerSet) : ConsensusEngine :=
  { engine with relayerSet := newSet }

def checkTimeouts (config : ConsensusConfig) (now : UInt64) (mintOrder burnOrder : RangeOrder Hash)
    (state : BridgeStorage) : BridgeStorage :=
  let timeout := config.proposalTimeoutSecs
  let mints := (state.getPendingMintProposals mintOrder).foldl (fun state proposal =>
    if timeout < now - proposal.createdAt then
      state.updateMintProposalStatus now proposal.proposalId .Expired
    else state) state
  (mints.getPendingWithdrawalProposals burnOrder).foldl (fun state proposal =>
    if timeout < now - proposal.createdAt then
      state.updateWithdrawalProposalStatus now proposal.proposalId .Expired
    else state) mints

def verifyVoteSignature (backends : Backends) (vote : RelayerVote) : Except BridgeError Unit :=
  if vote.relayer = 0 then .error (.Verification "Vote relayer address is zero")
  else if vote.signature = [] then .error (.Verification "Empty signature")
  else backends.verifySignature vote

def addVote (backends : Backends) (relayerSet : RelayerSet) (votes : List RelayerVote)
    (vote : RelayerVote) : Except BridgeError (List RelayerVote) :=
  match verifyVoteSignature backends vote with
  | .error reason => .error reason
  | .ok () =>
    if !relayerSet.isActive vote.relayer then .error (.Consensus "Relayer not in active set")
    else if votes.any (·.relayer == vote.relayer) then .error (.Duplicate "Already voted")
    else .ok (votes ++ [vote])

def submitted (engine : ConsensusEngine) (target : Target) (proposalId : Hash)
    (votes : List RelayerVote) (answer : Except BridgeError Unit) : ConsensusEngine :=
  { engine with
    submissions := engine.submissions ++
      [⟨target, proposalId, engine.relayerSet, votes, answer.toOption.isSome⟩] }

def voteMint (backends : Backends) (now : UInt64) (engine : ConsensusEngine) (proposalId : Hash)
    (vote : RelayerVote) : ConsensusEngine × Except BridgeError Unit :=
  match addVote backends engine.relayerSet (engine.pendingMints proposalId) vote with
  | .error reason => (engine, .error reason)
  | .ok votes =>
    let engine :=
      { engine with pendingMints := Function.update engine.pendingMints proposalId votes }
    if engine.relayerSet.hasConsensus votes.length then
      let storage := engine.storage.updateMintProposalStatus now proposalId .ConsensusReached
      let answer := backends.submitMint proposalId
      (({ engine with storage }).submitted .aethelred proposalId votes answer, answer)
    else (engine, .ok ())

def voteWithdrawal (backends : Backends) (now : UInt64) (engine : ConsensusEngine)
    (proposalId : Hash) (vote : RelayerVote) : ConsensusEngine × Except BridgeError Unit :=
  match addVote backends engine.relayerSet (engine.pendingWithdrawals proposalId) vote with
  | .error reason => (engine, .error reason)
  | .ok votes =>
    let engine :=
      { engine with
        pendingWithdrawals := Function.update engine.pendingWithdrawals proposalId votes }
    if engine.relayerSet.hasConsensus votes.length then
      let answer := backends.submitWithdrawal proposalId
      let engine := engine.submitted .ethereum proposalId votes answer
      match answer with
      | .error reason => (engine, .error reason)
      | .ok () =>
        -- only marked once the backend reports success
        let storage := engine.storage.updateWithdrawalProposalStatus now proposalId
          .SubmittedToEthereum
        ({ engine with storage }, .ok ())
    else (engine, .ok ())

def shouldVoteMint (state : BridgeStorage) (proposal : MintProposal) : Except BridgeError Bool :=
  match state.getDeposit proposal.deposit.depositId with
  | none => .error (.Consensus "Mint proposal deposit is missing")
  | some stored =>
    if stored.txHash ≠ proposal.deposit.txHash ∨ stored.amount ≠ proposal.deposit.amount ∨
        stored.aethelredRecipient ≠ proposal.deposit.aethelredRecipient then
      .error (.Consensus "Mint proposal deposit does not match stored deposit")
    else
      match state.getDepositStatus proposal.deposit.depositId with
      | some .Confirmed | some .MintProposed => .ok true
      | some status => .error (.Consensus
          s!"Mint proposal deposit is not ready for voting: {status.debug}")
      | none => .error (.Consensus "Mint proposal deposit status is missing")

def shouldVoteWithdrawal (state : BridgeStorage) (proposal : WithdrawalProposal) :
    Except BridgeError Bool :=
  match state.getBurn proposal.burn.burnId with
  | none => .error (.Consensus "Withdrawal burn is missing")
  | some stored =>
    if stored.txHash ≠ proposal.burn.txHash ∨ stored.amount ≠ proposal.burn.amount ∨
        stored.ethRecipient ≠ proposal.burn.ethRecipient then
      .error (.Consensus "Withdrawal proposal burn does not match stored burn")
    else
      match state.getBurnStatus proposal.burn.burnId with
      | some .Confirmed | some .WithdrawalProposed => .ok true
      | some status => .error (.Consensus
          s!"Withdrawal burn is not ready for voting: {status.debug}")
      | none => .error (.Consensus "Withdrawal burn status is missing")

variable (host : Host)

def requirePrivateKey : Except BridgeError Unit :=
  let path := host.config.identity.privateKeyPath
  if path.isEmpty then .error (.Config "Relayer private key path is not configured")
  else if !host.pathExists path then
    .error (.Config s!"Relayer private key file not found: {path}")
  else .ok ()

def createVote (kind : String) : Except BridgeError RelayerVote := do
  requirePrivateKey host
  let relayer ← host.config.identity.aethelredAddressBytes
  .error (.Signing (s!"Cryptographic {kind} signing backend is not implemented for relayer " ++
    shortHex relayer))

def createMintVote (_proposal : MintProposal) : Except BridgeError RelayerVote :=
  createVote host "mint-vote"

def createWithdrawalVote (_proposal : WithdrawalProposal) : Except BridgeError RelayerVote :=
  createVote host "withdrawal-vote"

def eachUntilError {α : Type}
    (visit : ConsensusEngine → α → ConsensusEngine × Except BridgeError Unit) :
    ConsensusEngine → List α → ConsensusEngine × Except BridgeError Unit
  | engine, [] => (engine, .ok ())
  | engine, proposal :: rest =>
    match visit engine proposal with
    | (next, .ok ()) => eachUntilError visit next rest
    | (next, .error reason) => (next, .error reason)

def processPendingMint (backends : Backends) (now : UInt64) (engine : ConsensusEngine)
    (proposal : MintProposal) : ConsensusEngine × Except BridgeError Unit :=
  if proposal.status = .Voting then
    match shouldVoteMint engine.storage proposal with
    | .error reason => (engine, .error reason)
    | .ok false => (engine, .ok ())
    | .ok true =>
      match createMintVote host proposal with
      | .error reason => (engine, .error reason)
      | .ok vote => voteMint backends now engine proposal.proposalId vote
  else (engine, .ok ())

def processPendingWithdrawal (backends : Backends) (now : UInt64)
    (engine : ConsensusEngine) (proposal : WithdrawalProposal) :
    ConsensusEngine × Except BridgeError Unit :=
  if proposal.status = .Voting then
    match shouldVoteWithdrawal engine.storage proposal with
    | .error reason => (engine, .error reason)
    | .ok false => (engine, .ok ())
    | .ok true =>
      match createWithdrawalVote host proposal with
      | .error reason => (engine, .error reason)
      | .ok vote => voteWithdrawal backends now engine proposal.proposalId vote
  else (engine, .ok ())

def processPending (backends : Backends) (now : UInt64)
    (mintOrder burnOrder : RangeOrder Hash) (engine : ConsensusEngine) :
    ConsensusEngine × Except BridgeError Unit :=
  match eachUntilError (processPendingMint host backends now) engine
      (engine.storage.getPendingMintProposals mintOrder) with
  | (next, .error reason) => (next, .error reason)
  | (next, .ok ()) =>
    eachUntilError (processPendingWithdrawal host backends now) next
      (next.storage.getPendingWithdrawalProposals burnOrder)

theorem createVote_ne_ok (kind : String) (vote : RelayerVote) :
    createVote host kind ≠ .ok vote := by
  simp only [createVote, ne_eq, Except.bind_eq_ok, reduceCtorEq, and_false, exists_false,
    not_false_eq_true]

theorem eachUntilError_fst {α : Type}
    {visit : ConsensusEngine → α → ConsensusEngine × Except BridgeError Unit}
    (idle : ∀ engine item, (visit engine item).1 = engine) (engine : ConsensusEngine)
    (items : List α) : (eachUntilError visit engine items).1 = engine := by
  induction items with
  | nil => rfl
  | cons item rest ih =>
    have same := idle engine item
    rw [eachUntilError]
    match visited : visit engine item with
    | (next, .ok ()) =>
      rw [visited] at same
      rw [show next = engine from same]
      exact ih
    | (next, .error reason) =>
      rw [visited] at same
      exact same

/-- Without a signing backend the loop over pending proposals casts no vote. -/
theorem processPending_fst (backends : Backends) (now : UInt64)
    (mintOrder burnOrder : RangeOrder Hash) (engine : ConsensusEngine) :
    (processPending host backends now mintOrder burnOrder engine).1 = engine := by
  have mints : ∀ engine proposal, (processPendingMint host backends now engine proposal).1 =
      engine := by
    intro engine proposal
    unfold processPendingMint
    split
    · split
      · rfl
      · rfl
      · cases created : createMintVote host proposal with
        | error reason => rfl
        | ok vote => exact absurd created (createVote_ne_ok host _ vote)
    · rfl
  have burns : ∀ engine proposal, (processPendingWithdrawal host backends now engine proposal).1 =
      engine := by
    intro engine proposal
    unfold processPendingWithdrawal
    split
    · split
      · rfl
      · rfl
      · cases created : createWithdrawalVote host proposal with
        | error reason => rfl
        | ok vote => exact absurd created (createVote_ne_ok host _ vote)
    · rfl
  have first := eachUntilError_fst mints engine (engine.storage.getPendingMintProposals mintOrder)
  unfold processPending
  split
  next next reason visited =>
    rw [visited] at first
    exact first
  next next visited =>
    rw [visited] at first
    rw [show next = engine from first]
    exact eachUntilError_fst burns _ _

end ConsensusEngine

/- The relayer as a machine: every call that reads or writes its storage or its votes. -/

/-- What the relayer's engine is told. -/
inductive Call where
  | ethereumEvent (now : UInt64) (event : EthereumEvent)
  | aethelredEvent (now : UInt64) (event : AethelredEvent)
  | listenerDeposit (deposit : EthereumDeposit)
  | listenerBurn (burn : AethelredBurn)
  | updateRelayerSet (newSet : RelayerSet)
  | voteMint (backends : Backends) (now : UInt64) (proposalId : Hash) (vote : RelayerVote)
  | voteWithdrawal (backends : Backends) (now : UInt64) (proposalId : Hash) (vote : RelayerVote)
  | processPending (backends : Backends) (now : UInt64) (mintOrder burnOrder : RangeOrder Hash)
  | checkTimeouts (now : UInt64) (mintOrder burnOrder : RangeOrder Hash)
  | restart

def storeFoundDeposit (state : BridgeStorage) (deposit : EthereumDeposit) : BridgeStorage :=
  if state.hasDeposit deposit.depositId then state else state.storeDeposit deposit

def storeFoundBurn (state : BridgeStorage) (burn : AethelredBurn) : BridgeStorage :=
  if state.hasBurn burn.burnId then state else state.storeBurn burn

variable (host : Host)

def Call.write (state : BridgeStorage) : Call → BridgeStorage
  | ethereumEvent now event =>
    match EventProcessor.processEthereumEvent host now state event with
    | .ok next => next
    | .error _ => state
  | aethelredEvent now event =>
    match EventProcessor.processAethelredEvent host now state event with
    | .ok next => next
    | .error _ => state
  | listenerDeposit deposit => storeFoundDeposit state deposit
  | listenerBurn burn => storeFoundBurn state burn
  | checkTimeouts now mintOrder burnOrder =>
    ConsensusEngine.checkTimeouts host.config.consensus now mintOrder burnOrder state
  | _ => state

def step (engine : ConsensusEngine) (call : Call) : ConsensusEngine :=
  match call with
  | .updateRelayerSet newSet => engine.updateRelayerSet newSet
  | .voteMint backends now proposalId vote => (engine.voteMint backends now proposalId vote).1
  | .voteWithdrawal backends now proposalId vote =>
    (engine.voteWithdrawal backends now proposalId vote).1
  | .processPending backends now mintOrder burnOrder =>
    (engine.processPending host backends now mintOrder burnOrder).1
  -- the collected votes live in memory only
  | .restart => { ConsensusEngine.new engine.storage with submissions := engine.submissions }
  | _ => { engine with storage := call.write host engine.storage }

def Backends.accepting : Backends where
  verifySignature _ := .ok ()
  submitMint _ := .ok ()
  submitWithdrawal _ := .ok ()

def run (storage : BridgeStorage) (calls : List Call) : ConsensusEngine :=
  Run.exec (step host) (.new storage) calls

end Relayer
