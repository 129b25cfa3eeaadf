import Aethelred.Contracts.BridgeInvariant
import Mathlib.Algebra.Order.Floor.Div

/- Who holds which role, as the bridge's log tells it. -/
namespace AethelredBridge

open Evm AccessControl Chain

def holdersOf (role : Bytes32) : List Entry → Finset Address
  | [] => ∅
  | ⟨_, .RoleGranted granted account _⟩ :: rest =>
    if role = granted then insert account (holdersOf role rest) else holdersOf role rest
  | ⟨_, .RoleRevoked revoked account _⟩ :: rest =>
    if role = revoked then (holdersOf role rest).erase account else holdersOf role rest
  | _ :: rest => holdersOf role rest

def Event.onRoles : Event → Bool
  | .RoleGranted .. => true
  | .RoleRevoked .. => true
  | _ => false

/-- The holders of each role are those the log tells of. -/
def RolesLogged (chain : Chain) : Prop :=
  ∀ role, holdersOf role chain.log = chain.bridge.access.holders role

section Steps

variable {env : Environment} {chain next : Chain}

section

variable (logged : RolesLogged chain)
include logged

theorem RolesLogged.emit {event : Event}
    (quiet : event.onRoles = false) : RolesLogged (chain.emit event) := by
  intro role
  cases event with
  | RoleGranted | RoleRevoked => simp [Event.onRoles] at quiet
  | _ => exact logged role

theorem RolesLogged.granted (role : Bytes32) (account sender : Address) :
    RolesLogged (Chain.emit { chain with bridge.access := chain.bridge.access.grant role account }
      (.RoleGranted role account sender)) := by
  intro other
  simp only [Chain.emit, holdersOf, holders_grant, logged other]

theorem RolesLogged.revoked (role : Bytes32) (account sender : Address) :
    RolesLogged (Chain.emit { chain with bridge.access := chain.bridge.access.revoke role account }
      (.RoleRevoked role account sender)) := by
  intro other
  simp only [Chain.emit, holdersOf, holders_revoke, logged other]

theorem RolesLogged.settings {events : List Event}
    (plain : ∀ event ∈ events, event.isSetting = true) :
    RolesLogged { chain with log := events.map (⟨chain.block, ·⟩) ++ chain.log } := by
  induction events with
  | nil => exact logged
  | cons event rest ih =>
    have later := ih fun other member => plain other (List.mem_cons_of_mem _ member)
    have setting := plain event (List.mem_cons_self ..)
    refine @RolesLogged.emit _ later event ?_
    cases event with
    | RoleGranted | RoleRevoked => simp [Event.isSetting] at setting
    | _ => rfl

end

theorem RolesLogged.free (free : Free env chain next) (logged : RolesLogged chain) :
    RolesLogged next := by
  cases free with
  | same => exact logged
  | finalize | vote | challenge | queue | approve | cancelEmergency | relayerConfig | ceiling
  | delay =>
    refine RolesLogged.emit ?_ rfl
    exact logged
  | propose =>
    refine RolesLogged.emit (RolesLogged.emit ?_ rfl) rfl
    exact logged
  | settings plain => exact RolesLogged.settings logged plain
  | grantOther other lacking => exact logged.granted _ _ _
  | revokeOther other held => exact logged.revoked _ _ _
  | grantRelayer lacking counted =>
    refine RolesLogged.emit ?_ rfl
    exact logged.granted RELAYER_ROLE _ _
  | revokeRelayer held counted =>
    refine RolesLogged.emit ?_ rfl
    exact logged.revoked RELAYER_ROLE _ _

theorem RolesLogged.paid {purpose : Purpose} {token recipient : Address} {amount : Nat}
    (logged : RolesLogged chain) : RolesLogged (chain.paid env purpose token recipient amount) := by
  exact logged

theorem rolesLogged_invariant : Invariant env (fun _ _ => True) RolesLogged where
  advance _ _ _ logged := logged
  receive _ _ _ logged := logged
  free _ _ free logged := logged.free free
  guard _ _ logged := logged
  ended chain event payout logged := by
    refine RolesLogged.emit logged ?_
    cases event with
    | RoleGranted | RoleRevoked => simp [Event.isPayout] at payout
    | _ => rfl
  booked chain function mid event booked _ logged := by
    cases booked with
    | refund | withdrawal | emergency =>
      refine RolesLogged.paid ?_
      exact logged
  recorded before chain depositor recipient token amount _ logged _ _ := by
    refine RolesLogged.emit ?_ rfl
    exact logged

end Steps

section Deployment

variable {env : Environment} {chain : Chain}

theorem RolesLogged.accessGrant (logged : RolesLogged chain) (role : Bytes32)
    (account sender : Address) :
    RolesLogged (AethelredBridge.accessGrant chain role account sender) := by
  unfold AethelredBridge.accessGrant
  split
  · exact logged
  · exact logged.granted role account sender

theorem initialGrants_induction {P : Chain → Prop} {block : Block} {balance : Address → Nat}
    (blank : P ⟨block, Storage.blank, balance, [], [], []⟩)
    (granted : ∀ chain role account sender, P chain → P (accessGrant chain role account sender))
    (admins : ∀ chain : Chain, P chain → P { chain with
      bridge.access := chain.bridge.access.setRoleAdmin UPGRADER_ROLE UPGRADER_ROLE })
    (sender admin upgrader : Address) (relayers : List Address) :
    P (initialGrants sender block balance admin upgrader relayers) := by
  have fold : ∀ (relayers : List Address) (chain : Chain), P chain →
      P (relayers.foldl (fun c relayer => accessGrant c RELAYER_ROLE relayer sender) chain) := by
    intro relayers
    induction relayers with
    | nil => exact fun _ holds => holds
    | cons relayer rest ih => exact fun chain holds => ih _ (granted _ _ _ _ holds)
  unfold initialGrants
  exact fold relayers _ (granted _ _ _ _ (admins _ (granted _ _ _ _ (granted _ _ _ _ blank))))

theorem Initialized.rolesLogged {relayers : List Address} (start : Initialized env relayers chain) :
    RolesLogged chain := by
  obtain ⟨sender, block, balance, admin, upgrader, bps, minVotes, -, rfl⟩ := start.eq
  have logged : RolesLogged (initialGrants sender block balance admin upgrader relayers) :=
    initialGrants_induction (fun role => holders_empty.symm)
      (fun _ role account sender logged => logged.accessGrant role account sender)
      (fun _ logged => logged) sender admin upgrader relayers
  exact logged

end Deployment

/- Emergency withdrawals as the bridge's log tells them: when each was queued, under which delay,
and which guardians approved it. -/

def approvers (id : Bytes32) : List Entry → Finset Address
  | [] => ∅
  | ⟨_, .GuardianApprovalSubmitted approved guardian _ _⟩ :: rest =>
    if approved = id ∧ guardian ∈ holdersOf GUARDIAN_ROLE rest
    then insert guardian (approvers id rest) else approvers id rest
  | _ :: rest => approvers id rest

def delayOf : List Entry → Nat
  | [] => DEFAULT_EMERGENCY_TIMELOCK
  | ⟨_, .EmergencyWithdrawalDelayUpdated _ newDelay⟩ :: _ => newDelay
  | _ :: rest => delayOf rest

def queuedIn (id : Bytes32) : List Entry → Option (Nat × Nat)
  | [] => none
  | ⟨block, .EmergencyWithdrawalQueued operation _ _ _ _⟩ :: rest =>
    if operation = id then some (block.timestamp, delayOf rest) else queuedIn id rest
  | _ :: rest => queuedIn id rest

def Event.onDelay : Event → Bool
  | .EmergencyWithdrawalDelayUpdated .. => true
  | _ => false

def Event.onOperation (id : Bytes32) : Event → Bool
  | .EmergencyWithdrawalQueued operation _ _ _ _ => operation == id
  | .GuardianApprovalSubmitted operation _ _ _ => operation == id
  | _ => false

/-- An operation's queueing and approvals are those of the log. -/
structure OperationLogged (id : Bytes32) (request : EmergencyWithdrawalRequest)
    (approvals : Address → Bool) (count : Nat) (log : List Entry) : Prop where
  approved : approvers id log = flagged approvals
  count : count = (flagged approvals).card
  queued : request.queuedAt ≠ 0 → ∃ delay, queuedIn id log = some (request.queuedAt, delay) ∧
    request.executeAfter = request.queuedAt + delay

section Operations

variable {id : Bytes32} {request : EmergencyWithdrawalRequest} {approvals : Address → Bool}
  {count : Nat} {log : List Entry} {block : Block} {event : Event}

theorem delayOf_quiet (quiet : event.onDelay = false) :
    delayOf (⟨block, event⟩ :: log) = delayOf log := by
  cases event with
  | EmergencyWithdrawalDelayUpdated => simp [Event.onDelay] at quiet
  | _ => rfl

section

variable (logged : OperationLogged id request approvals count log)
include logged

theorem OperationLogged.quiet (quiet : event.onOperation id = false) :
    OperationLogged id request approvals count (⟨block, event⟩ :: log) := by
  obtain ⟨approved, count, queued⟩ := logged
  cases event with
  | EmergencyWithdrawalQueued operation =>
    have other : operation ≠ id := by simpa [Event.onOperation] using quiet
    refine ⟨approved, count, ?_⟩
    simpa only [queuedIn, other, if_false] using queued
  | GuardianApprovalSubmitted operation =>
    have other : operation ≠ id := by simpa [Event.onOperation] using quiet
    refine ⟨?_, count, queued⟩
    simpa only [approvers, other, false_and, if_false] using approved
  | _ => exact ⟨approved, count, queued⟩

theorem OperationLogged.queue
    {token recipient : Address} {amount delay executeAfter : Nat} (inForce : delayOf log = delay) :
    OperationLogged id
      ⟨token, amount, recipient, block.timestamp, block.timestamp + delay, false, false⟩
      approvals count
      (⟨block, .EmergencyWithdrawalQueued id token recipient amount executeAfter⟩ :: log) := by
  refine ⟨logged.approved, logged.count, fun _ => ⟨delay, ?_, rfl⟩⟩
  simp only [queuedIn, if_true, inForce]

theorem OperationLogged.approve {sender : Address} (guardian : sender ∈ holdersOf GUARDIAN_ROLE log)
    (first : approvals sender = false) {current required : Nat} :
    OperationLogged id request (Function.update approvals sender true) (count + 1)
      (⟨block, .GuardianApprovalSubmitted id sender current required⟩ :: log) := by
  have absent : sender ∉ flagged approvals := by simp [first]
  refine ⟨?_, ?_, logged.queued⟩
  · simp only [approvers, guardian, and_self, if_true]
    rw [flagged_update_true, logged.approved]
  · rw [flagged_update_true, Finset.card_insert_of_notMem absent, ← logged.count]

theorem OperationLogged.handled
    {written : EmergencyWithdrawalRequest} (queuedAt : written.queuedAt = request.queuedAt)
    (executeAfter : written.executeAfter = request.executeAfter) :
    OperationLogged id written approvals count log := by
  refine ⟨logged.approved, logged.count, ?_⟩
  rw [queuedAt, executeAfter]
  exact logged.queued

end

end Operations

/-- The delay and every operation are as the log tells them. -/
structure EmergencyKept (chain : Chain) : Prop where
  delay : delayOf chain.log = chain.bridge.emergencyWithdrawalDelay
  operations : ∀ id, OperationLogged id (chain.bridge.emergencyWithdrawalRequests id)
    (chain.bridge.guardianApprovals id) (chain.bridge.guardianApprovalCount id) chain.log

section Steps

variable {env : Environment} {chain next : Chain}

theorem EmergencyKept.emit (kept : EmergencyKept chain) {event : Event}
    (quiet : event.onDelay = false) (unrelated : ∀ id, event.onOperation id = false) :
    EmergencyKept (chain.emit event) :=
  ⟨(delayOf_quiet quiet).trans kept.delay, fun id => (kept.operations id).quiet (unrelated id)⟩

theorem EmergencyKept.settings (kept : EmergencyKept chain) {events : List Event}
    (plain : ∀ event ∈ events, event.isSetting = true) :
    EmergencyKept { chain with log := events.map (⟨chain.block, ·⟩) ++ chain.log } := by
  induction events with
  | nil => exact kept
  | cons event rest ih =>
    have later := ih fun other member => plain other (List.mem_cons_of_mem _ member)
    have setting := plain event (List.mem_cons_self ..)
    refine @EmergencyKept.emit _ later event ?_ fun id => ?_
    · cases event with
      | EmergencyWithdrawalDelayUpdated => simp [Event.isSetting] at setting
      | _ => rfl
    · cases event with
      | EmergencyWithdrawalQueued | GuardianApprovalSubmitted => simp [Event.isSetting] at setting
      | _ => rfl

/-- Functions outside the guard keep what is known of emergency operations. -/
theorem EmergencyKept.free (free : Free env chain next) (logged : RolesLogged chain)
    (kept : EmergencyKept chain) : EmergencyKept next := by
  obtain ⟨delay, operations⟩ := kept
  cases free with
  | same => exact ⟨delay, operations⟩
  | settings plain =>
    obtain ⟨delay, operations⟩ := EmergencyKept.settings ⟨delay, operations⟩ plain
    exact ⟨delay, operations⟩
  | finalize | vote | challenge | relayerConfig | ceiling | grantOther | revokeOther =>
    refine EmergencyKept.emit ?_ rfl fun _ => rfl
    exact ⟨delay, operations⟩
  | propose | grantRelayer | revokeRelayer =>
    refine EmergencyKept.emit (EmergencyKept.emit ?_ rfl fun _ => rfl) rfl fun _ => rfl
    exact ⟨delay, operations⟩
  | delay => exact ⟨rfl, fun id => (operations id).quiet rfl⟩
  | @queue token recipient amount words hashes =>
    refine ⟨delay, fun key => ?_⟩
    by_cases same : key = env.keccak256 words
    · subst same
      simp only [Chain.emit, Function.update_self]
      exact (operations _).queue delay
    · simp only [Chain.emit, Function.update_of_ne same]
      refine (operations key).quiet ?_
      exact beq_false_of_ne (Ne.symm same)
  | @approve sender id guardian queued first =>
    have member : sender ∈ holdersOf GUARDIAN_ROLE chain.log := by
      rw [logged GUARDIAN_ROLE]
      exact mem_holders.mpr guardian
    refine ⟨delay, fun key => ?_⟩
    by_cases same : key = id
    · subst same
      simp only [Chain.emit, Function.update_self]
      exact (operations key).approve member first
    · simp only [Chain.emit, Function.update_of_ne same]
      refine (operations key).quiet ?_
      exact beq_false_of_ne (Ne.symm same)
  | @cancelEmergency sender id queued pending =>
    refine ⟨delay, fun key => ?_⟩
    by_cases same : key = id
    · subst same
      simp only [Chain.emit, Function.update_self]
      refine OperationLogged.quiet ((operations key).handled rfl rfl) ?_
      rfl
    · simp only [Chain.emit, Function.update_of_ne same]
      exact (operations key).quiet rfl

theorem EmergencyKept.booked {function : Function} {event : Event}
    (booked : Booked env chain function next event) (kept : EmergencyKept chain) :
    EmergencyKept next := by
  cases booked with
  | refund => exact ⟨kept.delay, kept.operations⟩
  | withdrawal => exact ⟨kept.delay, kept.operations⟩
  | @emergency id =>
    refine ⟨kept.delay, fun key => ?_⟩
    by_cases same : key = id
    · subst same
      simp only [paid, withLocked, Function.update_self]
      exact (kept.operations key).handled rfl rfl
    · simp only [paid, withLocked, Function.update_of_ne same]
      exact kept.operations key

theorem EmergencyKept.recorded (kept : EmergencyKept chain) (depositor : Address)
    (recipient : Bytes32) (token : Address) (amount : Nat) :
    EmergencyKept (chain.recorded env depositor recipient token amount) := by
  refine EmergencyKept.emit ?_ rfl fun _ => rfl
  exact ⟨kept.delay, kept.operations⟩

theorem emergencyKept_invariant : Invariant env (fun _ _ => True)
    (fun chain => RolesLogged chain ∧ EmergencyKept chain) where
  advance _ _ _ kept := ⟨kept.1, kept.2.delay, kept.2.operations⟩
  receive _ _ _ kept := ⟨kept.1, kept.2.delay, kept.2.operations⟩
  free _ _ free kept := ⟨kept.1.free free, kept.2.free free kept.1⟩
  guard _ _ kept := ⟨kept.1, kept.2.delay, kept.2.operations⟩
  ended chain event payout kept := by
    refine ⟨(@rolesLogged_invariant env).ended chain event payout kept.1, ?_⟩
    cases event with
    | DepositCancelled | WithdrawalProcessed | EmergencyWithdrawalExecuted =>
      exact kept.2.emit rfl fun _ => rfl
    | _ => simp [Event.isPayout] at payout
  booked chain function mid event booked good kept :=
    ⟨rolesLogged_invariant.booked chain function mid event booked good kept.1,
      kept.2.booked booked⟩
  recorded before chain depositor recipient token amount covered kept locked grown :=
    ⟨rolesLogged_invariant.recorded before chain depositor recipient token amount covered.1 kept.1
      locked grown, kept.2.recorded depositor recipient token amount⟩

/-- Only its own call executes an operation. -/
theorem unexecuted_invariant (id : Bytes32) :
    Invariant env (fun _ function => function ≠ .executeEmergencyWithdrawal id)
      (fun chain => (chain.bridge.emergencyWithdrawalRequests id).executed = false) where
  advance _ _ _ pending := pending
  receive _ _ _ pending := pending
  guard _ _ pending := pending
  ended _ _ _ pending := pending
  free chain next free pending := by
    cases free with
    | queue | cancelEmergency =>
      simp only [emit, Function.update_apply]
      split
      next same =>
        subst same
        first | rfl | exact pending
      next => exact pending
    | _ => exact pending
  booked chain function mid event booked unlike pending := by
    cases booked with
    | refund | withdrawal => exact pending
    | @emergency other =>
      have apart : id ≠ other := fun same => unlike (same ▸ rfl)
      simpa only [paid, withLocked, Function.update_of_ne apart] using pending
  recorded before chain depositor recipient token amount _ pending _ _ := pending

theorem step_executed {action : Action} {id : Bytes32}
    (pending : (chain.bridge.emergencyWithdrawalRequests id).executed = false)
    (executed : ((step env chain action).bridge.emergencyWithdrawalRequests id).executed = true) :
    ∃ tallies mid event,
      Booked env (chain.opened tallies) (.executeEmergencyWithdrawal id) mid event := by
  by_contra unbooked
  have stays : ((step env chain action).bridge.emergencyWithdrawalRequests id).executed =
      false := by
    by_cases direct : ∃ call, action = .call call ∧
        call.message.function = .executeEmergencyWithdrawal id
    · obtain ⟨⟨⟨sender, value, function⟩, succeeds, delivers, reentries⟩, rfl, rfl⟩ := direct
      simp only [step, Message.apply]
      split
      next after done =>
        simp only [Message.execute, revertIf_bind_eq_ok] at done
        obtain ⟨-, tallies, mid, event, booked, -⟩ := executeEmergencyWithdrawal_eq_ok done.2
        exact absurd ⟨tallies, mid, event, booked⟩ unbooked
      next => exact pending
    · refine (unexecuted_invariant id).step action ?_ pending
      intro call same tallies function
      exact direct ⟨call, same, function⟩
  rw [stays] at executed
  cases executed

end Steps

/- Relayers, votes and requirements as the bridge's log tells them, and how each event changes them. -/

def voters (id : Bytes32) : List Entry → Finset Address
  | [] => ∅
  | ⟨_, .WithdrawalVoted voted relayer _ _⟩ :: rest =>
    if voted = id ∧ relayer ∈ holdersOf RELAYER_ROLE rest then insert relayer (voters id rest)
    else voters id rest
  | _ :: rest => voters id rest

def requirement (initial : Nat) : List Entry → Nat
  | [] => initial
  | ⟨_, .RelayerConfigUpdated _ _ minVotes⟩ :: _ => minVotes
  | _ :: rest => requirement initial rest

def creation (initial : Nat) (id : Bytes32) : List Entry → Option (Nat × Nat)
  | [] => none
  | ⟨block, .WithdrawalProposed proposed _ _ _ _ _⟩ :: rest =>
    if proposed = id then some (block.timestamp, requirement initial rest)
    else creation initial id rest
  | _ :: rest => creation initial id rest

def challengedIn (id : Bytes32) : List Entry → Bool
  | [] => false
  | ⟨_, .WithdrawalChallenged challenged _ _⟩ :: rest => challenged == id || challengedIn id rest
  | _ :: rest => challengedIn id rest

/-- `ceil(count * bps / 10000)`, at least one and at most the count. -/
def quorum (count bps : Nat) : Nat := min (max ((count * bps) ⌈/⌉ 10000) 1) count

theorem calculateMinVotesRequired_eq {count bps minVotes : Nat}
    (done : calculateMinVotesRequired count bps = .ok minVotes) : minVotes = quorum count bps := by
  unfold calculateMinVotesRequired at done
  by_cases empty : count = 0
  · simp only [empty, if_true, Except.ok.injEq] at done
    rw [← done, empty, quorum, Nat.min_zero]
  · simp only [empty, if_false, checkedMul_bind_eq_ok, checkedAdd_bind_eq_ok,
      Except.pure_eq_ok] at done
    rw [← done.2.2, quorum, Nat.ceilDiv_eq_add_pred_div]
    change _ = min (max ((count * bps + 9999) / 10000) 1) count
    generalize (count * bps + 9999) / 10000 = votes
    split_ifs <;> omega

def Event.onRelayers : Event → Bool
  | .RelayerConfigUpdated .. => true
  | _ => false

def Event.onProposal (id : Bytes32) : Event → Bool
  | .WithdrawalProposed proposed _ _ _ _ _ => proposed == id
  | .WithdrawalVoted voted _ _ _ => voted == id
  | .WithdrawalChallenged challenged _ _ => challenged == id
  | _ => false

/-- The relayer count is the size of the role, and the required votes follow from it and are those
of the log. -/
structure RelayersCounted (initial : Nat) (access : AccessControl) (config : RelayerConfig)
    (log : List Entry) : Prop where
  count : config.relayerCount = (access.holders RELAYER_ROLE).card
  required : config.minVotesRequired = quorum config.relayerCount config.consensusThresholdBps
  requirement : AethelredBridge.requirement initial log = config.minVotesRequired

/-- A proposal's votes, creation and challenges are those of the log. -/
structure VotesCounted (initial : Nat) (id : Bytes32) (proposal : WithdrawalProposal)
    (votes : Address → Bool) (log : List Entry) : Prop where
  voted : voters id log = flagged votes
  count : proposal.voteCount = (flagged votes).card
  challenged : challengedIn id log = proposal.challenged
  unused : proposal.createdAt = 0 → flagged votes = ∅ ∧ proposal.challenged = false
  created : proposal.createdAt ≠ 0 →
    creation initial id log = some (proposal.createdAt, proposal.requiredVotesSnapshot) ∧
      proposal.challengeEndTime = proposal.createdAt + CHALLENGE_PERIOD

section Quiet

variable {initial : Nat} {access : AccessControl} {config : RelayerConfig} {log : List Entry}
  {block : Block} {event : Event} {id : Bytes32} {proposal : WithdrawalProposal}
  {votes : Address → Bool}

theorem RelayersCounted.quiet (counted : RelayersCounted initial access config log)
    (quiet : event.onRelayers = false) :
    RelayersCounted initial access config (⟨block, event⟩ :: log) := by
  obtain ⟨count, required, requirement⟩ := counted
  cases event with
  | RelayerConfigUpdated => simp [Event.onRelayers] at quiet
  | _ => exact ⟨count, required, requirement⟩

theorem VotesCounted.quiet (counted : VotesCounted initial id proposal votes log)
    (quiet : event.onProposal id = false) :
    VotesCounted initial id proposal votes (⟨block, event⟩ :: log) := by
  obtain ⟨voted, count, challenged, unused, created⟩ := counted
  cases event with
  | WithdrawalProposed proposed =>
    have other : proposed ≠ id := by simpa [Event.onProposal] using quiet
    refine ⟨voted, count, challenged, unused, ?_⟩
    simpa only [creation, other, if_false] using created
  | WithdrawalVoted judged =>
    have other : judged ≠ id := by simpa [Event.onProposal] using quiet
    refine ⟨?_, count, challenged, unused, created⟩
    simpa only [voters, other, false_and, if_false] using voted
  | WithdrawalChallenged attacked =>
    have other : (attacked == id) = false := quiet
    refine ⟨voted, count, ?_, unused, created⟩
    simpa only [challengedIn, other, Bool.false_or] using challenged
  | _ => exact ⟨voted, count, challenged, unused, created⟩

variable {account sender : Address}

section

variable (counted : RelayersCounted initial access config log)
include counted

theorem RelayersCounted.grantOther {role : Bytes32} (other : role ≠ RELAYER_ROLE) :
    RelayersCounted initial (access.grant role account) config
      (⟨block, .RoleGranted role account sender⟩ :: log) := by
  have same : (access.grant role account).holders RELAYER_ROLE = access.holders RELAYER_ROLE := by
    rw [holders_grant, if_neg other.symm]
  refine ⟨?_, counted.required, counted.requirement⟩
  rw [same]
  exact counted.count

theorem RelayersCounted.revokeOther {role : Bytes32} (other : role ≠ RELAYER_ROLE) :
    RelayersCounted initial (access.revoke role account) config
      (⟨block, .RoleRevoked role account sender⟩ :: log) := by
  have same : (access.revoke role account).holders RELAYER_ROLE = access.holders RELAYER_ROLE := by
    rw [holders_revoke, if_neg other.symm]
  refine ⟨?_, counted.required, counted.requirement⟩
  rw [same]
  exact counted.count

theorem RelayersCounted.grantRelayer {minVotes : Nat}
    (lacking : access.hasRole RELAYER_ROLE account = false)
    (votes : calculateMinVotesRequired (config.relayerCount + 1) config.consensusThresholdBps =
      .ok minVotes) :
    RelayersCounted initial (access.grant RELAYER_ROLE account)
      ⟨config.relayerCount + 1, config.consensusThresholdBps, minVotes⟩
      (⟨block, .RelayerConfigUpdated (config.relayerCount + 1) config.consensusThresholdBps
        minVotes⟩ :: ⟨block, .RoleGranted RELAYER_ROLE account sender⟩ :: log) := by
  have absent : account ∉ access.holders RELAYER_ROLE := by simp [lacking]
  have grown : (access.grant RELAYER_ROLE account).holders RELAYER_ROLE =
      insert account (access.holders RELAYER_ROLE) := by
    rw [holders_grant, if_pos rfl]
  refine ⟨?_, calculateMinVotesRequired_eq votes, rfl⟩
  rw [grown, Finset.card_insert_of_notMem absent, ← counted.count]

theorem RelayersCounted.revokeRelayer {minVotes : Nat}
    (held : access.hasRole RELAYER_ROLE account = true)
    (votes : calculateMinVotesRequired (config.relayerCount - 1) config.consensusThresholdBps =
      .ok minVotes) :
    RelayersCounted initial (access.revoke RELAYER_ROLE account)
      ⟨config.relayerCount - 1, config.consensusThresholdBps, minVotes⟩
      (⟨block, .RelayerConfigUpdated (config.relayerCount - 1) config.consensusThresholdBps
        minVotes⟩ :: ⟨block, .RoleRevoked RELAYER_ROLE account sender⟩ :: log) := by
  have present : account ∈ access.holders RELAYER_ROLE := mem_holders.mpr held
  have shrunk : (access.revoke RELAYER_ROLE account).holders RELAYER_ROLE =
      (access.holders RELAYER_ROLE).erase account := by
    rw [holders_revoke, if_pos rfl]
  refine ⟨?_, calculateMinVotesRequired_eq votes, rfl⟩
  rw [shrunk, Finset.card_erase_of_mem present, ← counted.count]

end

section

variable (counted : VotesCounted initial id proposal votes log)
include counted

/-- A proposal starts with its proposer's vote. -/
theorem VotesCounted.propose
    (fresh : proposal.createdAt = 0) {sender recipient token : Address} {burnTxHash : Bytes32}
    {amount height minVotes : Nat} (relayer : sender ∈ holdersOf RELAYER_ROLE log)
    (required : requirement initial log = minVotes) :
    VotesCounted initial id
      ⟨recipient, token, amount, burnTxHash, height, 1, block.timestamp,
        block.timestamp + CHALLENGE_PERIOD, false, false, minVotes⟩
      (Function.update votes sender true)
      (⟨block, .WithdrawalVoted id sender 1 minVotes⟩ ::
        ⟨block, .WithdrawalProposed id recipient token amount burnTxHash sender⟩ :: log) := by
  obtain ⟨noVotes, unchallenged⟩ := counted.unused fresh
  have only : flagged (Function.update votes sender true) = insert sender ∅ := by
    rw [flagged_update_true, noVotes]
  refine ⟨?_, ?_, ?_, ?_, ?_⟩
  · simp only [voters, holdersOf, relayer, and_self, if_true]
    rw [only, counted.voted, noVotes]
  · rw [only]
    rfl
  · simp only [challengedIn]
    rw [counted.challenged, unchallenged]
  · intro unset
    exact absurd unset block.started.ne'
  · intro _
    simp only [creation, if_true, required, and_self]

theorem VotesCounted.vote
    (created : proposal.createdAt ≠ 0) {sender : Address} (relayer : sender ∈ holdersOf RELAYER_ROLE log)
    (first : votes sender = false) {current required : Nat} :
    VotesCounted initial id { proposal with voteCount := proposal.voteCount + 1 }
      (Function.update votes sender true)
      (⟨block, .WithdrawalVoted id sender current required⟩ :: log) := by
  have absent : sender ∉ flagged votes := by simp [first]
  refine ⟨?_, ?_, counted.challenged, fun unset => absurd unset created, counted.created⟩
  · simp only [voters, relayer, and_self, if_true]
    rw [flagged_update_true, counted.voted]
  · rw [flagged_update_true, Finset.card_insert_of_notMem absent, ← counted.count]

theorem VotesCounted.challenge
    (present : proposal.createdAt ≠ 0) {sender : Address} {reason : String} :
    VotesCounted initial id { proposal with challenged := true } votes
      (⟨block, .WithdrawalChallenged id sender reason⟩ :: log) := by
  refine ⟨counted.voted, counted.count, ?_, fun unset => absurd unset present, counted.created⟩
  simp only [challengedIn, beq_self_eq_true, Bool.true_or]

theorem VotesCounted.processed :
    VotesCounted initial id { proposal with processed := true } votes log :=
  ⟨counted.voted, counted.count, counted.challenged, counted.unused, counted.created⟩

end

end Quiet

end AethelredBridge
