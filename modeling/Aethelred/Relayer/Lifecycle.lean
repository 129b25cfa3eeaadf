import Aethelred.Relayer.VoteCount
import Aethelred.Relayer.Writes

/- The life cycle of proposals over whole runs: what stays settled, and what is voted on. -/
namespace Relayer

open Go Docket Except Option ConsensusEngine

/-- A vote is asked for only on what is on record, the whole deposit or burn. -/
structure VotesOnRecord (state : BridgeStorage) : Prop where
  mint : ∀ id proposal, state.getMintProposal id = some proposal →
    shouldVoteMint state proposal = .ok true →
      state.getDeposit proposal.deposit.depositId = some proposal.deposit ∧
        (state.getDepositStatus proposal.deposit.depositId = some .Confirmed ∨
          state.getDepositStatus proposal.deposit.depositId = some .MintProposed)
  withdrawal : ∀ id proposal, state.getWithdrawalProposal id = some proposal →
    shouldVoteWithdrawal state proposal = .ok true →
      state.getBurn proposal.burn.burnId = some proposal.burn ∧
        (state.getBurnStatus proposal.burn.burnId = some .Confirmed ∨
          state.getBurnStatus proposal.burn.burnId = some .WithdrawalProposed)

/-- What was completed, rejected or expired has stayed so. -/
structure StaysSettled (earlier later : BridgeStorage) : Prop where
  completed : ∀ id proposal, earlier.getMintProposal id = some proposal →
    proposal.status = .Completed →
      ∃ kept, later.getMintProposal id = some kept ∧ kept.status = .Completed ∧
        kept.deposit = proposal.deposit ∧
        later.getDepositStatus proposal.deposit.depositId = some .Completed
  mintClosed : ∀ id proposal kept, earlier.getMintProposal id = some proposal →
    proposal.status = .Rejected ∨ proposal.status = .Expired ∨ proposal.status = .Completed →
      later.getMintProposal id = some kept → kept.status ≠ .Voting
  withdrawalClosed : ∀ id proposal kept, earlier.getWithdrawalProposal id = some proposal →
    proposal.status = .Expired ∨ proposal.status = .Completed →
      later.getWithdrawalProposal id = some kept → kept.status ≠ .Voting
  burnClosed : ∀ burnId, earlier.getBurnStatus burnId = some .Completed →
    ∀ proposal : WithdrawalProposal, proposal.burn.burnId = burnId →
      shouldVoteWithdrawal later proposal ≠ .ok true

/-- The call finds nothing settled that it would write over. -/
def Undisturbing (host : Host) (engine : ConsensusEngine) : Call → Prop
  | .ethereumEvent _ (.DepositFinalized depositId _) =>
    ∀ deposit proposer, engine.storage.getDeposit depositId = some deposit →
      host.config.identity.aethelredAddressBytes = .ok proposer →
      engine.storage.getDepositStatus depositId ≠ some .Completed ∧
        ∀ proposal, engine.storage.getMintProposal (deposit.generateId host.sha256) =
          some proposal → proposal.status.isFinal = false
  | .ethereumEvent _ (.Reorg _ _ affectedDeposits) =>
    ∀ depositId ∈ affectedDeposits, engine.storage.getDepositStatus depositId ≠ some .Completed
  | .aethelredEvent _ (.Burn burn) =>
    EventProcessor.validateBurn engine.storage burn = .ok () →
      engine.storage.getBurnStatus burn.burnId ≠ some .Completed
  | .aethelredEvent _ (.BurnFinalized burnId _) =>
    ∀ burn proposer, engine.storage.getBurn burnId = some burn →
      host.config.identity.aethelredAddressBytes = .ok proposer →
      engine.storage.getBurnStatus burnId ≠ some .Completed ∧
        ∀ proposal, engine.storage.getWithdrawalProposal burnId = some proposal →
          proposal.status.isFinal = false
  | .voteMint backends _ proposalId vote =>
    engine.completes .aethelred backends proposalId vote = true →
      ∀ proposal, engine.storage.getMintProposal proposalId = some proposal →
        proposal.status.isFinal = false
  | .voteWithdrawal backends _ proposalId vote =>
    engine.completes .ethereum backends proposalId vote = true →
      backends.submitWithdrawal proposalId = .ok () →
        ∀ proposal, engine.storage.getWithdrawalProposal proposalId = some proposal →
          proposal.status.isFinal = false
  | .checkTimeouts now _ _ =>
    ∀ id proposal, engine.storage.getMintProposal id = some proposal →
      proposal.status = .Completed →
        ¬host.config.consensus.proposalTimeoutSecs < now - proposal.createdAt
  | _ => True

section Steps

variable {host : Host} {engine : ConsensusEngine} {tame : Prop} {state : BridgeStorage}

variable {now : UInt64}

theorem processEthereumEvent_progress {event : EthereumEvent} (sound : Sound engine.storage)
    (calm : tame → Undisturbing host engine (.ethereumEvent now event)) :
    Progress tame engine.storage
      ((Call.ethereumEvent now event).write host engine.storage) := by
  simp only [Call.write]
  split
  next next done =>
    cases event with
    | Deposit deposit => exact handleEthDeposit_progress sound done
    | DepositFinalized depositId blockNumber =>
      exact handleEthDepositFinalized_progress sound calm done
    | WithdrawalProcessed proposalId recipient amount txHash =>
      obtain rfl := ok.inj done
      exact handleEthWithdrawalProcessed_progress sound.apart proposalId
    | Reorg fromBlock toBlock affectedDeposits =>
      obtain rfl := ok.inj done
      exact handleEthReorg_progress sound.apart calm
    | NewBlock number hash timestamp =>
      obtain rfl := ok.inj done
      exact .refl sound.apart
  next => exact .refl sound.apart

theorem processAethelredEvent_progress {event : AethelredEvent} (sound : Sound engine.storage)
    (calm : tame → Undisturbing host engine (.aethelredEvent now event)) :
    Progress tame engine.storage
      ((Call.aethelredEvent now event).write host engine.storage) := by
  simp only [Call.write]
  split
  next next done =>
    cases event with
    | Burn burn => exact handleAethelredBurn_progress sound calm done
    | BurnFinalized burnId blockHeight =>
      exact handleAethelredBurnFinalized_progress sound calm done
    | MintCompleted proposalId recipient amount txHash =>
      obtain rfl := ok.inj done
      exact handleAethelredMintCompleted_progress sound proposalId
    | NewBlock height hash timestamp =>
      obtain rfl := ok.inj done
      exact .refl sound.apart
  next => exact .refl sound.apart

section

variable {backends : Backends} {proposalId : Hash} {vote : RelayerVote}
  (sound : Sound engine.storage)
include sound

theorem voteMint_progress
    (calm : tame → Undisturbing host engine (.voteMint backends now proposalId vote)) :
    Progress tame engine.storage (engine.voteMint backends now proposalId vote).1.storage := by
  unfold voteMint
  cases taken : addVote backends engine.relayerSet
      (engine.pendingMints proposalId) vote with
  | error reason => exact .refl sound.apart
  | ok votes =>
    by_cases reached : engine.relayerSet.hasConsensus votes.length = true
    · simp only [reached, ↓reduceIte]
      have complete : engine.completes .aethelred backends proposalId vote = true := by
        simp only [completes, recorded, taken, reached]
      refine updateMintProposalStatus_progress sound ?_ ?_ (fun completed => by cases completed)
      · intro quiet old found final
        rw [calm quiet complete old found] at final
        contradiction
      · intro quiet old found completed
        have open_ := calm quiet complete old found
        rw [completed] at open_
        contradiction
    · simp only [reached]
      exact .refl sound.apart

theorem voteWithdrawal_progress
    (calm : tame → Undisturbing host engine (.voteWithdrawal backends now proposalId vote)) :
    Progress tame engine.storage
      (engine.voteWithdrawal backends now proposalId vote).1.storage := by
  unfold voteWithdrawal
  cases taken : addVote backends engine.relayerSet
      (engine.pendingWithdrawals proposalId) vote with
  | error reason => exact .refl sound.apart
  | ok votes =>
    by_cases reached : engine.relayerSet.hasConsensus votes.length = true
    · simp only [reached, ↓reduceIte]
      have complete : engine.completes .ethereum backends proposalId vote = true := by
        simp only [completes, recorded, taken, reached]
      cases answer : backends.submitWithdrawal proposalId with
      | error reason => exact .refl sound.apart
      | ok done =>
        refine updateWithdrawalProposalStatus_progress sound ?_
        intro quiet old found final
        rw [calm quiet complete answer old found] at final
        contradiction
    · simp only [reached]
      exact .refl sound.apart

end

/-- Every call of the relayer only moves proposals on. -/
theorem step_progress (call : Call) (sound : Sound engine.storage)
    (calm : tame → Undisturbing host engine call) :
    Progress tame engine.storage (step host engine call).storage := by
  cases call with
  | ethereumEvent now event => exact processEthereumEvent_progress sound calm
  | aethelredEvent now event => exact processAethelredEvent_progress sound calm
  | listenerDeposit deposit =>
    simp only [step, Call.write, storeFoundDeposit]
    split
    · exact .refl sound.apart
    next absent =>
      rw [BridgeStorage.hasDeposit_eq, not_isSome_iff_eq_none] at absent
      exact storeDeposit_progress sound.apart absent
  | listenerBurn burn =>
    simp only [step, Call.write, storeFoundBurn]
    split
    · exact .refl sound.apart
    next absent =>
      rw [BridgeStorage.hasBurn_eq, not_isSome_iff_eq_none] at absent
      exact storeBurn_progress sound.apart absent
  | voteMint backends now proposalId vote => exact voteMint_progress sound calm
  | voteWithdrawal backends now proposalId vote => exact voteWithdrawal_progress sound calm
  | processPending backends now mintOrder burnOrder =>
    simp only [step, processPending_fst]
    exact .refl sound.apart
  | checkTimeouts now mintOrder burnOrder => exact checkTimeouts_progress sound calm
  | updateRelayerSet newSet => exact .refl sound.apart
  | restart => exact .refl sound.apart

theorem shouldVoteMint_eq_true {proposal : MintProposal}
    (asked : shouldVoteMint state proposal = .ok true) :
    state.getDepositStatus proposal.deposit.depositId = some .Confirmed ∨
      state.getDepositStatus proposal.deposit.depositId = some .MintProposed := by
  unfold shouldVoteMint at asked
  split at asked
  · contradiction
  · split at asked
    · contradiction
    · split at asked
      next confirmed => exact .inl confirmed
      next proposed => exact .inr proposed
      · contradiction
      · contradiction

theorem shouldVoteWithdrawal_eq_true {proposal : WithdrawalProposal}
    (asked : shouldVoteWithdrawal state proposal = .ok true) :
    state.getBurnStatus proposal.burn.burnId = some .Confirmed ∨
      state.getBurnStatus proposal.burn.burnId = some .WithdrawalProposed := by
  unfold shouldVoteWithdrawal at asked
  split at asked
  · contradiction
  · split at asked
    · contradiction
    · split at asked
      next confirmed => exact .inl confirmed
      next proposed => exact .inr proposed
      · contradiction
      · contradiction

theorem Sound.votesOnRecord (sound : Sound state) : VotesOnRecord state where
  mint id proposal found asked :=
    ⟨sound.mint.onRecord id proposal found, shouldVoteMint_eq_true asked⟩
  withdrawal id proposal found asked :=
    ⟨sound.withdrawal.onRecord id proposal found, shouldVoteWithdrawal_eq_true asked⟩

theorem run_sound (host : Host) (calls : List Call) : Sound (run host {} calls).storage := by
  refine Run.invariant_of_step (fun engine : ConsensusEngine => Sound engine.storage) ?_ calls
    sound_empty
  intro engine call sound
  have progress : Progress False engine.storage (step host engine call).storage :=
    step_progress call sound False.elim
  exact progress.sound sound

/-- Kept dockets keep what is settled. -/
theorem Sound.staysSettled {later : BridgeStorage} (closed : Closed mintVocabulary later.mintDocket)
    (mint : Kept mintVocabulary state.mintDocket later.mintDocket)
    (withdrawal : Kept withdrawalVocabulary state.withdrawalDocket later.withdrawalDocket) :
    StaysSettled state later where
  completed id proposal found carried := by
    obtain ⟨kept, lodged, still, same⟩ := mint.carriedOut id proposal found carried
    refine ⟨kept, lodged, still, same, ?_⟩
    have status := closed id kept lodged still
    rwa [same] at status
  mintClosed id proposal kept found settled lodged voting := by
    have final : proposal.status.isFinal = true := by
      rcases settled with status | status | status <;> rw [status] <;> rfl
    obtain ⟨later, lodged', still⟩ := mint.final id proposal found final
    obtain rfl := some.inj (lodged.symm.trans lodged')
    have settled : kept.status.isFinal = true := still
    rw [voting] at settled
    contradiction
  withdrawalClosed id proposal kept found settled lodged voting := by
    have final : proposal.status.isFinal = true := by
      rcases settled with status | status <;> rw [status] <;> rfl
    obtain ⟨later, lodged', still⟩ := withdrawal.final id proposal found final
    obtain rfl := some.inj (lodged.symm.trans lodged')
    have settled : kept.status.isFinal = true := still
    rw [voting] at settled
    contradiction
  burnClosed burnId completed proposal same asked := by
    have status : later.getBurnStatus proposal.burn.burnId = some .Completed := by
      rw [same]
      exact withdrawal.status burnId completed
    rcases shouldVoteWithdrawal_eq_true asked with other | other <;>
      exact nomatch status.symm.trans other

/-- The dockets in order, and nothing settled since the earlier storage disturbed. -/
structure Settling (earlier : BridgeStorage) (engine : ConsensusEngine) : Prop where
  sound : Sound engine.storage
  closed : Closed mintVocabulary engine.storage.mintDocket ∧
    Closed withdrawalVocabulary engine.storage.withdrawalDocket
  mint : Kept mintVocabulary earlier.mintDocket engine.storage.mintDocket
  withdrawal : Kept withdrawalVocabulary earlier.withdrawalDocket engine.storage.withdrawalDocket

theorem Settling.step {earlier : BridgeStorage} (call : Call) (calm : Undisturbing host engine call)
    (settling : Settling earlier engine) : Settling earlier (step host engine call) := by
  have progress : Progress True engine.storage (Relayer.step host engine call).storage :=
    step_progress call settling.sound fun _ => calm
  obtain ⟨mintClosed, mint⟩ := settling.closed.1.writes progress.mint
  obtain ⟨withdrawalClosed, withdrawal⟩ := settling.closed.2.writes progress.withdrawal
  exact ⟨progress.sound settling.sound, ⟨mintClosed, withdrawalClosed⟩,
    settling.mint.trans mint, settling.withdrawal.trans withdrawal⟩

theorem settling_empty : Settling {} (.new {}) where
  sound := sound_empty
  closed := ⟨.of_empty fun _ => rfl, .of_empty fun _ => rfl⟩
  mint := .refl _
  withdrawal := .refl _

end Steps

/-- Votes are asked for only on what is on record; and as long as no call writes over something
settled, whatever is settled at one point of a run is settled at every later one. -/
theorem proposals_settle (host : Host) (calls : List Call) :
    VotesOnRecord (run host {} calls).storage ∧
      (Run.Along (step host) (Undisturbing host) (.new {}) calls →
        ∀ first second, calls = first ++ second →
          StaysSettled (run host {} first).storage (run host {} calls).storage) := by
  refine ⟨(run_sound host calls).votesOnRecord, ?_⟩
  rintro calm first second rfl
  obtain ⟨before, after⟩ := (Run.along_append _ first second).mp calm
  have start : Settling {} (run host {} first) :=
    Run.invariant (Settling {}) (fun _ call calm settling => settling.step call calm)
      settling_empty before
  have finish : Settling (run host {} first).storage (run host {} (first ++ second)) := by
    unfold run
    rw [Run.exec_append]
    exact Run.invariant (Settling _) (fun _ call calm settling => settling.step call calm)
      ⟨start.sound, start.closed, .refl _, .refl _⟩ after
  exact Sound.staysSettled finish.closed.1 finish.mint finish.withdrawal

/-- One ether for the recipient `0xbb`. -/
def oneEther : EthereumDeposit where
  depositId := 1
  depositor := 0xaa
  aethelredRecipient := 0xbb
  token := 0
  amount := 1000000000000000000
  nonce := 0
  blockNumber := 100
  blockHash := 0xdd
  txHash := 0xcc
  logIndex := 0
  timestamp := 1700000000

/-- SHA-256 of the deposit's preimage. -/
def oneEtherId : Hash := 0x1f065126117af6921395e91c5bb32d08c924b7949c26ebf704af3458a8e8d859

def minted : List Call :=
  [.ethereumEvent 1000 (.Deposit oneEther), .ethereumEvent 1001 (.DepositFinalized 1 100),
    .aethelredEvent 1002 (.MintCompleted oneEtherId 0xbb 1000000000000000000 0xff)]

theorem minted_status :
    ((run (identifiedHost oneEtherId) {} minted).storage.getMintProposal oneEtherId).map
      (·.status) = some .Completed := by
  decide +kernel

theorem proposals_settle_minted :
    StaysSettled (run (identifiedHost oneEtherId) {} minted).storage
      (run (identifiedHost oneEtherId) {}
        (minted ++ [.ethereumEvent 1003 (.Deposit oneEther)])).storage := by
  refine (proposals_settle (identifiedHost oneEtherId) _).2 ?_ minted _ rfl
  refine ⟨trivial, ?_, trivial, trivial, trivial⟩
  intro deposit proposer found configured
  have absent : (run (identifiedHost oneEtherId) {} (minted.take 1)).storage.getMintProposal oneEtherId =
      none := by
    decide +kernel
  exact ⟨by decide +kernel, fun proposal lodged => nomatch absent.symm.trans lodged⟩

/-- The second delivery of `DepositFinalized` reopens a mint that is completed. -/
theorem proposals_reopen_redelivered :
    ¬StaysSettled (run (identifiedHost oneEtherId) {} minted).storage
      (run (identifiedHost oneEtherId) {}
        (minted ++ [.ethereumEvent 1003 (.DepositFinalized 1 100)])).storage := by
  intro settled
  obtain ⟨proposal, found, completed⟩ := map_eq_some_iff.mp minted_status
  have again : ((run (identifiedHost oneEtherId) {} (minted ++
      [.ethereumEvent 1003 (.DepositFinalized 1 100)])).storage.getMintProposal oneEtherId).map
      (·.status) = some .Voting := by
    decide +kernel
  obtain ⟨reopened, lodged, voting⟩ := map_eq_some_iff.mp again
  exact settled.mintClosed oneEtherId proposal reopened found (.inr (.inr completed)) lodged voting

end Relayer
