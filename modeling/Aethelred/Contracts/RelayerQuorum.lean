import Aethelred.Contracts.RoleLog

/- The bridge's quorum: the relayer count against the role table, the votes against the log, and
what a processed withdrawal had behind it. -/
namespace AethelredBridge

open Evm AccessControl Chain

/-- The quorum's bookkeeping in a chain's storage. -/
def QuorumKept (initial : Nat) (chain : Chain) : Prop :=
  RolesLogged chain ∧
    RelayersCounted initial chain.bridge.access chain.bridge.relayerConfig chain.log ∧
    ∀ id, VotesCounted initial id (chain.bridge.withdrawalProposals id)
      (chain.bridge.withdrawalVotes id) chain.log

section Steps

variable {env : Environment} {initial : Nat} {chain next : Chain}

theorem QuorumKept.emit (kept : QuorumKept initial chain) {event : Event}
    (silent : event.onRoles = false) (quiet : event.onRelayers = false)
    (unrelated : ∀ id, event.onProposal id = false) : QuorumKept initial (chain.emit event) :=
  ⟨kept.1.emit silent, kept.2.1.quiet quiet, fun id => (kept.2.2 id).quiet (unrelated id)⟩

theorem isSetting_quiet {event : Event} (setting : event.isSetting = true) :
    event.onRelayers = false ∧ ∀ id, event.onProposal id = false := by
  cases event with
  | TokenSupportUpdated | RateLimitConfigUpdated | AddressBlockStatusChanged | Paused | Unpaused =>
    exact ⟨rfl, fun _ => rfl⟩
  | _ => simp [Event.isSetting] at setting

theorem settings_quiet {events : List Event} (plain : ∀ event ∈ events, event.isSetting = true)
    (counted : RelayersCounted initial chain.bridge.access chain.bridge.relayerConfig chain.log)
    (tallies : ∀ id, VotesCounted initial id (chain.bridge.withdrawalProposals id)
      (chain.bridge.withdrawalVotes id) chain.log) :
    RelayersCounted initial chain.bridge.access chain.bridge.relayerConfig
        (events.map (⟨chain.block, ·⟩) ++ chain.log) ∧
      ∀ id, VotesCounted initial id (chain.bridge.withdrawalProposals id)
        (chain.bridge.withdrawalVotes id) (events.map (⟨chain.block, ·⟩) ++ chain.log) := by
  induction events with
  | nil => exact ⟨counted, tallies⟩
  | cons event rest ih =>
    obtain ⟨counted, tallies⟩ := ih fun other member => plain other (List.mem_cons_of_mem _ member)
    obtain ⟨quiet, unrelated⟩ := isSetting_quiet (plain event (List.mem_cons_self ..))
    exact ⟨counted.quiet quiet, fun id => (tallies id).quiet (unrelated id)⟩

/-- Functions outside the guard keep votes and relayers counted. -/
theorem votes_free (free : Free env chain next) (logged : RolesLogged chain)
    (counted : RelayersCounted initial chain.bridge.access chain.bridge.relayerConfig chain.log)
    (tallies : ∀ id, VotesCounted initial id (chain.bridge.withdrawalProposals id)
      (chain.bridge.withdrawalVotes id) chain.log) :
    RelayersCounted initial next.bridge.access next.bridge.relayerConfig next.log ∧
      ∀ id, VotesCounted initial id (next.bridge.withdrawalProposals id)
        (next.bridge.withdrawalVotes id) next.log := by
  cases free with
  | same => exact ⟨counted, tallies⟩
  | finalize | queue | approve | cancelEmergency | ceiling | delay =>
    exact ⟨counted.quiet rfl, fun id => (tallies id).quiet rfl⟩
  | settings plain => exact settings_quiet plain counted tallies
  | grantOther other lacking => exact ⟨counted.grantOther other, fun id => (tallies id).quiet rfl⟩
  | revokeOther other held => exact ⟨counted.revokeOther other, fun id => (tallies id).quiet rfl⟩
  | grantRelayer lacking votes =>
    exact ⟨counted.grantRelayer lacking votes,
      fun id => ((tallies id).quiet rfl).quiet rfl⟩
  | revokeRelayer held votes =>
    exact ⟨counted.revokeRelayer held votes,
      fun id => ((tallies id).quiet rfl).quiet rfl⟩
  | relayerConfig votes =>
    exact ⟨⟨counted.count, calculateMinVotesRequired_eq votes, rfl⟩,
      fun id => (tallies id).quiet rfl⟩
  | @propose sender recipient token id burnTxHash amount height relayer fresh unmarked =>
    have member : sender ∈ holdersOf RELAYER_ROLE chain.log := by
      rw [logged RELAYER_ROLE]
      exact mem_holders.mpr relayer
    refine ⟨(counted.quiet rfl).quiet rfl, fun key => ?_⟩
    by_cases same : key = id
    · subst same
      simp only [emit, Function.update_self]
      exact (tallies key).propose fresh member counted.requirement
    · simp only [emit, Function.update_of_ne same]
      refine VotesCounted.quiet (VotesCounted.quiet (tallies key) ?_) ?_
      · exact beq_false_of_ne (Ne.symm same)
      · exact beq_false_of_ne (Ne.symm same)
  | @vote sender id relayer created pending unchallenged first =>
    have member : sender ∈ holdersOf RELAYER_ROLE chain.log := by
      rw [logged RELAYER_ROLE]
      exact mem_holders.mpr relayer
    refine ⟨counted.quiet rfl, fun key => ?_⟩
    by_cases same : key = id
    · subst same
      simp only [emit, Function.update_self]
      exact (tallies key).vote created member first
    · simp only [emit, Function.update_of_ne same]
      exact (tallies key).quiet (beq_false_of_ne (Ne.symm same))
  | @challenge sender id reason created pending =>
    refine ⟨counted.quiet rfl, fun key => ?_⟩
    by_cases same : key = id
    · subst same
      simp only [emit, Function.update_self]
      exact (tallies key).challenge created
    · simp only [emit, Function.update_of_ne same]
      exact (tallies key).quiet (beq_false_of_ne (Ne.symm same))

theorem QuorumKept.free (free : Free env chain next) (kept : QuorumKept initial chain) :
    QuorumKept initial next :=
  ⟨kept.1.free free, votes_free free kept.1 kept.2.1 kept.2.2⟩

theorem QuorumKept.paid {purpose : Purpose} {token recipient : Address} {amount : Nat}
    (kept : QuorumKept initial chain) :
    QuorumKept initial (chain.paid env purpose token recipient amount) := by
  exact kept

/-- Counters and votes are always those the log tells of. -/
theorem quorumKept_invariant : Invariant env (fun _ _ => True) (QuorumKept initial) where
  advance _ _ _ kept := kept
  receive _ _ _ kept := kept
  free _ _ free kept := kept.free free
  guard _ _ kept := kept
  ended chain event payout kept := by
    cases event with
    | DepositCancelled | WithdrawalProcessed | EmergencyWithdrawalExecuted =>
      exact kept.emit rfl rfl fun _ => rfl
    | _ => simp [Event.isPayout] at payout
  booked chain function mid event booked _ kept := by
    cases booked with
    | refund =>
      refine QuorumKept.paid ?_
      exact kept
    | emergency =>
      refine QuorumKept.paid ?_
      exact kept
    | @withdrawal id =>
      refine QuorumKept.paid ⟨kept.1, kept.2.1, fun key => ?_⟩
      by_cases same : key = id
      · subst same
        simp only [Function.update_self]
        exact (kept.2.2 key).processed
      · simp only [Function.update_of_ne same]
        exact kept.2.2 key
  recorded before chain depositor recipient token amount _ kept _ _ := by
    refine QuorumKept.emit ?_ rfl rfl fun _ => rfl
    exact kept

/-- Only its own call processes a proposal. -/
theorem unprocessed_invariant (id : Bytes32) :
    Invariant env (fun _ function => function ≠ .processWithdrawal id)
      (fun chain => (chain.bridge.withdrawalProposals id).processed = false) where
  advance _ _ _ pending := pending
  receive _ _ _ pending := pending
  guard _ _ pending := pending
  ended _ _ _ pending := pending
  free chain next free pending := by
    cases free with
    | @propose _ _ _ other | @vote _ other | @challenge _ other =>
      simp only [emit, Function.update_apply]
      split
      next same =>
        subst same
        first | rfl | exact pending
      next => exact pending
    | _ => exact pending
  booked chain function mid event booked unlike pending := by
    cases booked with
    | refund | emergency =>
      exact pending
    | @withdrawal other =>
      have apart : id ≠ other := fun same => unlike (same ▸ rfl)
      simpa only [paid, withLocked, Function.update_of_ne apart] using pending
  recorded before chain depositor recipient token amount _ pending _ _ := by
    exact pending

theorem step_processed {action : Action} {id : Bytes32}
    (pending : (chain.bridge.withdrawalProposals id).processed = false)
    (processed : ((step env chain action).bridge.withdrawalProposals id).processed = true) :
    ∃ tallies mid event,
      Booked env (chain.opened tallies) (.processWithdrawal id) mid event := by
  by_contra unbooked
  have stays : ((step env chain action).bridge.withdrawalProposals id).processed = false := by
    by_cases direct : ∃ call, action = .call call ∧ call.message.function = .processWithdrawal id
    · obtain ⟨⟨⟨sender, value, function⟩, succeeds, delivers, reentries⟩, rfl, rfl⟩ := direct
      simp only [step, Message.apply]
      split
      next after done =>
        simp only [Message.execute, revertIf_bind_eq_ok] at done
        obtain ⟨-, tallies, mid, event, booked, -⟩ := processWithdrawal_eq_ok done.2
        exact absurd ⟨tallies, mid, event, booked⟩ unbooked
      next => exact pending
    · refine (unprocessed_invariant id).step action ?_ pending
      intro call same tallies function
      exact direct ⟨call, same, function⟩
  rw [stays] at processed
  cases processed

end Steps

section Deployment

variable {env : Environment} {initial : Nat} {chain : Chain}

/-- The log tells of grants only: no vote and no new requirement. -/
structure GrantsOnly (initial : Nat) (log : List Entry) : Prop where
  requirement : AethelredBridge.requirement initial log = initial
  untouched : ∀ id, VotesCounted initial id {} (fun _ => false) log

theorem GrantsOnly.accessGrant (only : GrantsOnly initial chain.log) (role : Bytes32)
    (account sender : Address) :
    GrantsOnly initial (AethelredBridge.accessGrant chain role account sender).log := by
  unfold AethelredBridge.accessGrant
  split
  · exact only
  · exact ⟨only.requirement, fun id => (only.untouched id).quiet rfl⟩

theorem initialGrants_only (sender : Address) (block : Block) (balance : Address → Nat)
    (admin upgrader : Address) (relayers : List Address) :
    GrantsOnly initial (initialGrants sender block balance admin upgrader relayers).log := by
  refine initialGrants_induction (P := fun chain => GrantsOnly initial chain.log) ?_
    (fun _ role account sender only => only.accessGrant role account sender)
    (fun _ only => only) sender admin upgrader relayers
  refine ⟨rfl, fun id => ⟨?_, ?_, rfl, fun _ => ⟨?_, rfl⟩, ?_⟩⟩
  · simp [voters, flagged]
  · simp [flagged]
  · simp [flagged]
  · intro created
    exact absurd rfl created

theorem holders_accessGrant (role : Bytes32) (account sender : Address) :
    (accessGrant chain role account sender).bridge.access.holders RELAYER_ROLE =
      if RELAYER_ROLE = role then insert account (chain.bridge.access.holders RELAYER_ROLE)
      else chain.bridge.access.holders RELAYER_ROLE := by
  unfold accessGrant
  cases held : chain.bridge.access.hasRole role account with
  | false =>
    simp only [Bool.false_eq_true, if_false, emit]
    exact holders_grant
  | true =>
    simp only [if_true]
    by_cases same : RELAYER_ROLE = role
    · rw [if_pos same, Finset.insert_eq_self.mpr]
      rw [same]
      exact mem_holders.mpr held
    · rw [if_neg same]

theorem holders_foldl_accessGrant (relayers : List Address) (sender : Address) :
    (relayers.foldl (fun c r => accessGrant c RELAYER_ROLE r sender)
      chain).bridge.access.holders RELAYER_ROLE =
        chain.bridge.access.holders RELAYER_ROLE ∪ relayers.toFinset := by
  induction relayers generalizing chain with
  | nil => simp
  | cons relayer rest ih =>
    rw [List.foldl_cons, ih, holders_accessGrant, if_pos rfl, List.toFinset_cons,
      Finset.insert_union, Finset.union_insert]

theorem initialGrants_relayers (sender : Address) (block : Block) (balance : Address → Nat)
    (admin upgrader : Address) (relayers : List Address) :
    (initialGrants sender block balance admin upgrader relayers).bridge.access.holders
      RELAYER_ROLE = relayers.toFinset := by
  refine (holders_foldl_accessGrant relayers sender).trans ?_
  rw [holders_accessGrant, if_neg (by decide), holders_setRoleAdmin, holders_accessGrant,
    if_neg (by decide), holders_accessGrant, if_neg (by decide)]
  exact (congrArg (· ∪ relayers.toFinset) holders_empty).trans (Finset.empty_union _)

theorem Initialized.quorumKept {relayers : List Address} (distinct : relayers.Nodup)
    (start : Initialized env relayers chain) :
    QuorumKept chain.bridge.relayerConfig.minVotesRequired chain := by
  have logged := start.rolesLogged
  obtain ⟨sender, block, balance, admin, upgrader, bps, minVotes, counted, rfl⟩ := start.eq
  have only := @initialGrants_only minVotes sender block balance admin upgrader relayers
  have holders := initialGrants_relayers sender block balance admin upgrader relayers
  obtain ⟨access, log, eq⟩ := initialGrants_eq sender block balance admin upgrader relayers
  rw [eq] at only holders logged ⊢
  refine ⟨logged, ⟨?_, calculateMinVotesRequired_eq counted, only.requirement⟩, only.untouched⟩
  change relayers.length = (access.holders RELAYER_ROLE).card
  rw [holders, List.toFinset_card_of_nodup distinct]

theorem Initialized.relayers {relayers : List Address} (start : Initialized env relayers chain) :
    chain.bridge.relayerConfig.relayerCount = relayers.length ∧
      chain.bridge.access.holders RELAYER_ROLE = relayers.toFinset := by
  obtain ⟨sender, block, balance, admin, upgrader, bps, minVotes, counted, rfl⟩ := start.eq
  exact ⟨rfl, initialGrants_relayers sender block balance admin upgrader relayers⟩

end Deployment

section Claim

variable {env : Environment}

/-- The counters of the quorum say what the role table and the log say. -/
structure QuorumHolds (chain : Chain) : Prop where
  count : chain.bridge.relayerConfig.relayerCount =
    (chain.bridge.access.holders RELAYER_ROLE).card
  required : chain.bridge.relayerConfig.minVotesRequired =
    quorum chain.bridge.relayerConfig.relayerCount chain.bridge.relayerConfig.consensusThresholdBps
  votes : ∀ id, (chain.bridge.withdrawalProposals id).voteCount = (voters id chain.log).card

/-- A proposal the step processes had the votes required at its creation and now, its challenge
period was over and nobody had challenged it. -/
def ProcessedWithQuorum (initial : Nat) (chain next : Chain) : Prop :=
  ∀ id, (chain.bridge.withdrawalProposals id).processed = false →
    (next.bridge.withdrawalProposals id).processed = true →
    ∃ createdAt required, creation initial id chain.log = some (createdAt, required) ∧
      required ≤ (chain.bridge.withdrawalProposals id).voteCount ∧
      chain.bridge.relayerConfig.minVotesRequired ≤
        (chain.bridge.withdrawalProposals id).voteCount ∧
      createdAt + CHALLENGE_PERIOD ≤ chain.block.timestamp ∧ challengedIn id chain.log = false

section

variable {initial : Nat} {chain : Chain} (kept : QuorumKept initial chain)
include kept

theorem QuorumKept.holds :
    QuorumHolds chain := by
  refine ⟨kept.2.1.count, kept.2.1.required, fun id => ?_⟩
  rw [(kept.2.2 id).voted]
  exact (kept.2.2 id).count

theorem QuorumKept.processed
    (action : Action) : ProcessedWithQuorum initial chain (step env chain action) := by
  intro id pending processed
  obtain ⟨tallies, mid, event, booked⟩ := step_processed pending processed
  cases booked with
  | withdrawal created pending unchallenged snapshot quorum ended =>
    obtain ⟨creation, period⟩ := (kept.2.2 id).created created
    refine ⟨_, _, creation, snapshot, quorum, ?_, ?_⟩
    · rw [← period]
      exact ended
    · rw [(kept.2.2 id).challenged]
      exact unchallenged

end

/-- The quorum's bookkeeping holds in every state a deployment reaches exactly when its list of
initial relayers has no duplicate. -/
theorem quorum_holds_iff {relayers : List Address} {start : Chain}
    (deployed : Initialized env relayers start) :
    (∀ actions, QuorumHolds (run env start actions) ∧
      ∀ action, ProcessedWithQuorum start.bridge.relayerConfig.minVotesRequired
        (run env start actions) (step env (run env start actions) action)) ↔ relayers.Nodup := by
  constructor
  · intro holds
    have count := (holds []).1.count
    change start.bridge.relayerConfig.relayerCount = _ at count
    rw [deployed.relayers.1] at count
    change _ = (start.bridge.access.holders RELAYER_ROLE).card at count
    rw [deployed.relayers.2] at count
    exact Multiset.toFinset_card_eq_card_iff_nodup.mp count.symm
  · intro distinct actions
    have kept : QuorumKept start.bridge.relayerConfig.minVotesRequired (run env start actions) :=
      quorumKept_invariant.run actions (deployed.quorumKept distinct)
    exact ⟨kept.holds, kept.processed⟩

/-- Relayers 1 and 2, with 2 named twice. -/
def duplicated : List Address := [1, 2, 2]

theorem quorum_holds_distinct :
    ∃ start, deployed [1, 2, 3] = .ok start ∧
      QuorumHolds (run mainnet start [.plain 0xa (.grantRole RELAYER_ROLE 4)]) := by
  refine ⟨_, rfl, ?_⟩
  exact ((quorum_holds_iff (deployed_initialized [1, 2, 3] rfl)).mpr (by decide) _).1

theorem quorum_fails_duplicated :
    ∃ start, deployed duplicated = .ok start ∧ ¬QuorumHolds (run mainnet start []) := by
  obtain ⟨start, done⟩ : ∃ start, deployed duplicated = .ok start := ⟨_, rfl⟩
  refine ⟨start, done, fun holds => ?_⟩
  obtain ⟨counted, holders⟩ := (deployed_initialized duplicated done).relayers
  have count := counted.symm.trans holds.count
  change duplicated.length = (start.bridge.access.holders RELAYER_ROLE).card at count
  rw [holders] at count
  revert count
  decide

end Claim

end AethelredBridge
