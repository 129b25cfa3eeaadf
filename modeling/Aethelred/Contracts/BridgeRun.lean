import Aethelred.Contracts.AethelredBridge
import Aethelred.Lib.Run

/- Runs of the bridge: calls from any sender in any block, and what a callee that holds control in
the middle of one can make happen. -/
namespace AethelredBridge

open Evm AccessControl Function Except Chain

/-- The functions of the bridge that change its state, with their arguments. -/
inductive Function where
  | depositETH (aethelredRecipient : Bytes32)
  | depositERC20 (token : Address) (amount : Nat) (aethelredRecipient : Bytes32)
  | cancelDeposit (depositId : Bytes32)
  | finalizeDeposit (depositId : Bytes32)
  | proposeWithdrawal (proposalId : Bytes32) (recipient token : Address) (amount : Nat)
      (burnTxHash : Bytes32) (aethelredBlockHeight : Nat)
  | voteWithdrawal (proposalId : Bytes32)
  | processWithdrawal (proposalId : Bytes32)
  | challengeWithdrawal (proposalId : Bytes32) (reason : String)
  | addSupportedToken (token : Address)
  | removeSupportedToken (token : Address)
  | updateRelayerConfig (relayerCount consensusThresholdBps : Nat)
  | updateRateLimitConfig (maxDeposit maxWithdrawal : Nat) (enabled : Bool)
  | clearExpiredRateLimitState (periodKeys : List Nat)
  | setAddressBlocked (addr : Address) (blocked : Bool)
  | setEmergencyWithdrawalDelay (newDelay : Nat)
  | setMintCeilingPerBlock (newCeiling : Nat)
  | pause
  | unpause
  | queueEmergencyWithdrawal (token : Address) (amount : Nat) (recipient : Address)
  | emergencyWithdraw (token : Address) (amount : Nat) (recipient : Address)
  | approveEmergencyWithdrawal (operationId : Bytes32)
  | executeEmergencyWithdrawal (operationId : Bytes32)
  | cancelEmergencyWithdrawal (operationId : Bytes32)
  | grantRole (role : Bytes32) (account : Address)
  | revokeRole (role : Bytes32) (account : Address)
  | renounceRole (role : Bytes32) (callerConfirmation : Address)

def Function.payable : Function → Bool
  | .depositETH _ => true
  | _ => false

structure Message where
  sender : Address
  value : Nat
  function : Function

variable (env : Environment)

/-- Executes a message; `callee` is the contract the function calls, if it calls one. -/
def Message.execute (callee : Callee) (message : Message) (chain : Chain) : Except Error Chain := do
  revertIf (message.value ≠ 0 ∧ message.function.payable = false) .nonPayable
  let sender := message.sender
  match message.function with
  | .depositETH recipient => depositETH env sender message.value recipient chain
  | .depositERC20 token amount recipient =>
    depositERC20 env callee sender token amount recipient chain
  | .cancelDeposit id => cancelDeposit env callee sender id chain
  | .finalizeDeposit id => finalizeDeposit sender id chain
  | .proposeWithdrawal id recipient token amount burnTxHash height =>
    proposeWithdrawal sender id recipient token amount burnTxHash height chain
  | .voteWithdrawal id => voteWithdrawal sender id chain
  | .processWithdrawal id => processWithdrawal env callee id chain
  | .challengeWithdrawal id reason => challengeWithdrawal sender id reason chain
  | .addSupportedToken token => addSupportedToken sender token chain
  | .removeSupportedToken token => removeSupportedToken sender token chain
  | .updateRelayerConfig count bps => updateRelayerConfig sender count bps chain
  | .updateRateLimitConfig maxDeposit maxWithdrawal enabled =>
    updateRateLimitConfig sender maxDeposit maxWithdrawal enabled chain
  | .clearExpiredRateLimitState keys => clearExpiredRateLimitState sender keys chain
  | .setAddressBlocked addr blocked => setAddressBlocked sender addr blocked chain
  | .setEmergencyWithdrawalDelay delay => setEmergencyWithdrawalDelay sender delay chain
  | .setMintCeilingPerBlock ceiling => setMintCeilingPerBlock sender ceiling chain
  | .pause => pause sender chain
  | .unpause => unpause sender chain
  | .queueEmergencyWithdrawal token amount recipient =>
    queueEmergencyWithdrawal env sender token amount recipient chain
  | .emergencyWithdraw token amount recipient =>
    emergencyWithdraw env sender token amount recipient chain
  | .approveEmergencyWithdrawal id => approveEmergencyWithdrawal sender id chain
  | .executeEmergencyWithdrawal id => executeEmergencyWithdrawal env callee sender id chain
  | .cancelEmergencyWithdrawal id => cancelEmergencyWithdrawal sender id chain
  | .grantRole role account => grantRole sender role account chain
  | .revokeRole role account => revokeRole sender role account chain
  | .renounceRole role account => renounceRole sender role account chain

/-- What a callee can do to the chain before it returns to the bridge. A message it sends finds the
reentrancy guard set, so no function that would hand over control once more gets through. -/
inductive Reentry where
  | message (sent : Message)
  | receiveFunds (token : Address) (amount : Nat)

def Callee.idle : Callee := ⟨false, 0, id⟩

def Message.apply (callee : Callee) (chain : Chain) (message : Message) : Chain :=
  match message.execute env callee chain with
  | .ok next => next
  | .error _ => chain

def Reentry.apply (chain : Chain) : Reentry → Chain
  | .message sent => sent.apply env Callee.idle chain
  | .receiveFunds token amount => chain.receiveFunds token amount

/-- A transaction to the bridge and what the contract it calls does meanwhile. -/
structure Call where
  message : Message
  succeeds : Bool
  delivers : Nat
  reentries : List Reentry

def Call.callee (call : Call) : Callee where
  succeeds := call.succeeds
  delivers := call.delivers
  reenters := fun chain => call.reentries.foldl (Reentry.apply env) chain

/-- Blocks pass, tokens arrive, and anyone calls the bridge. -/
inductive Action where
  | advance (blocks seconds : Nat)
  | receiveFunds (token : Address) (amount : Nat)
  | call (call : Call)

def step (chain : Chain) : Action → Chain
  | .advance blocks seconds => { chain with block := chain.block.advance blocks seconds }
  | .receiveFunds token amount => chain.receiveFunds token amount
  | .call call => call.message.apply env (call.callee env) chain

def run : Chain → List Action → Chain := Run.exec (step env)

def Action.plain (sender : Address) (function : Function) : Action :=
  .call ⟨⟨sender, 0, function⟩, true, 0, []⟩

inductive Initialized (env : Environment) (initialRelayers : List Address) : Chain → Prop where
  | legacy {sender block balance admin bps chain}
      (done : legacyInitialize env sender block balance admin initialRelayers bps = .ok chain) :
      Initialized env initialRelayers chain
  | timelock {sender block balance admin upgraderTimelock bps chain}
      (done : initializeWithTimelock env sender block balance admin upgraderTimelock
        initialRelayers bps = .ok chain) :
      Initialized env initialRelayers chain

/-- A deployment to run examples on: chain 1, admin and timelock are contracts at 0xa and 0xb. -/
def mainnet : Environment where
  keccak256 := fun words =>
    if words = [7, 9, 0, 10 ^ 18, 0, 1]
    then 0x2ea5f6e6e1eb86466b26a6a668c594a6ab76d6687a4edec2ba6fab7bb8da3be5 else 0
  self := 0xc
  chainid := 1
  codeLength := fun address => if address = 0xa ∨ address = 0xb then 171 else 0
  getMinDelay := fun address => if address = 0xb then some MIN_UPGRADER_TIMELOCK_DELAY else none

def genesis : Block := ⟨20000000, 1719000000, Evm.launched⟩

/-- The bridge account 0xd deploys with these relayers and a threshold of 67 percent. -/
def deployed (relayers : List Address) : Except Error Chain :=
  initializeWithTimelock mainnet 0xd genesis (fun _ => 0) 0xa 0xb relayers 6700

/-- Address 7 deposits one ETH for recipient 9. -/
def depositOne : Action := .call ⟨⟨7, 10 ^ 18, .depositETH 9⟩, true, 0, []⟩

theorem deployed_initialized (relayers : List Address) {start : Chain}
    (done : deployed relayers = .ok start) : Initialized mainnet relayers start :=
  .timelock done

/- What the functions of the bridge outside the reentrancy guard can do, said once. -/

def Function.guarded : Function → Bool
  | .depositETH _ => true
  | .depositERC20 .. => true
  | .cancelDeposit _ => true
  | .processWithdrawal _ => true
  | .executeEmergencyWithdrawal _ => true
  | _ => false

def Event.isSetting : Event → Bool
  | .TokenSupportUpdated .. => true
  | .RateLimitConfigUpdated .. => true
  | .AddressBlockStatusChanged .. => true
  | .Paused _ => true
  | .Unpaused _ => true
  | _ => false

/-- What a function outside the guard can do. -/
inductive Free (env : Environment) (chain : Chain) : Chain → Prop where
  | finalize {id : Bytes32}
      (known : (chain.bridge.deposits id).depositor ≠ 0)
      (kept : (chain.bridge.deposits id).cancelled = false)
      (pending : (chain.bridge.deposits id).finalized = false)
      (confirmed : (chain.bridge.deposits id).blockNumber + MIN_ETH_CONFIRMATIONS ≤
        chain.block.number) :
      Free env chain (emit
        { chain with
          bridge.deposits := update chain.bridge.deposits id
            { chain.bridge.deposits id with finalized := true } }
        (.DepositFinalized id (chain.bridge.deposits id).depositor (chain.bridge.deposits id).amount))
  | propose {sender recipient token : Address} {id burnTxHash : Bytes32} {amount height : Nat}
      (relayer : chain.bridge.access.hasRole RELAYER_ROLE sender = true)
      (fresh : (chain.bridge.withdrawalProposals id).createdAt = 0)
      (unmarked : chain.bridge.processedWithdrawals burnTxHash = false) :
      Free env chain (emit (emit
        { chain with
          bridge.withdrawalProposals := update chain.bridge.withdrawalProposals id
            ⟨recipient, token, amount, burnTxHash, height, 1, chain.block.timestamp,
              chain.block.timestamp + CHALLENGE_PERIOD, false, false,
              chain.bridge.relayerConfig.minVotesRequired⟩
          bridge.withdrawalVotes := update chain.bridge.withdrawalVotes id
            (update (chain.bridge.withdrawalVotes id) sender true) }
        (.WithdrawalProposed id recipient token amount burnTxHash sender))
        (.WithdrawalVoted id sender 1 chain.bridge.relayerConfig.minVotesRequired))
  | vote {sender : Address} {id : Bytes32}
      (relayer : chain.bridge.access.hasRole RELAYER_ROLE sender = true)
      (created : (chain.bridge.withdrawalProposals id).createdAt ≠ 0)
      (pending : (chain.bridge.withdrawalProposals id).processed = false)
      (unchallenged : (chain.bridge.withdrawalProposals id).challenged = false)
      (first : chain.bridge.withdrawalVotes id sender = false) :
      Free env chain (emit
        { chain with
          bridge.withdrawalVotes := update chain.bridge.withdrawalVotes id
            (update (chain.bridge.withdrawalVotes id) sender true)
          bridge.withdrawalProposals := update chain.bridge.withdrawalProposals id
            { chain.bridge.withdrawalProposals id with
              voteCount := (chain.bridge.withdrawalProposals id).voteCount + 1 } }
        (.WithdrawalVoted id sender ((chain.bridge.withdrawalProposals id).voteCount + 1)
          (chain.bridge.withdrawalProposals id).requiredVotesSnapshot))
  | challenge {sender : Address} {id : Bytes32} {reason : String}
      (created : (chain.bridge.withdrawalProposals id).createdAt ≠ 0)
      (pending : (chain.bridge.withdrawalProposals id).processed = false) :
      Free env chain (emit
        { chain with
          bridge.withdrawalProposals := update chain.bridge.withdrawalProposals id
            { chain.bridge.withdrawalProposals id with challenged := true } }
        (.WithdrawalChallenged id sender reason))
  | queue {token recipient : Address} {amount : Nat} {words : List Nat}
      (hashes : words = operationWords env token amount recipient
        chain.bridge.emergencyWithdrawalNonce) :
      Free env chain (emit
        { chain with
          hashed := words :: chain.hashed
          bridge.emergencyWithdrawalRequests :=
            update chain.bridge.emergencyWithdrawalRequests (env.keccak256 words)
              ⟨token, amount, recipient, chain.block.timestamp,
                chain.block.timestamp + chain.bridge.emergencyWithdrawalDelay, false, false⟩
          bridge.emergencyWithdrawalNonce := chain.bridge.emergencyWithdrawalNonce + 1 }
        (.EmergencyWithdrawalQueued (env.keccak256 words) token recipient amount
          (chain.block.timestamp + chain.bridge.emergencyWithdrawalDelay)))
  | approve {sender : Address} {id : Bytes32}
      (guardian : chain.bridge.access.hasRole GUARDIAN_ROLE sender = true)
      (queued : (chain.bridge.emergencyWithdrawalRequests id).queuedAt ≠ 0)
      (first : chain.bridge.guardianApprovals id sender = false) :
      Free env chain (emit
        { chain with
          bridge.guardianApprovals := update chain.bridge.guardianApprovals id
            (update (chain.bridge.guardianApprovals id) sender true)
          bridge.guardianApprovalCount := update chain.bridge.guardianApprovalCount id
            (chain.bridge.guardianApprovalCount id + 1) }
        (.GuardianApprovalSubmitted id sender (chain.bridge.guardianApprovalCount id + 1)
          REQUIRED_GUARDIAN_APPROVALS))
  | cancelEmergency {sender : Address} {id : Bytes32}
      (queued : (chain.bridge.emergencyWithdrawalRequests id).queuedAt ≠ 0)
      (pending : (chain.bridge.emergencyWithdrawalRequests id).executed = false) :
      Free env chain (emit
        { chain with
          bridge.emergencyWithdrawalRequests :=
            update chain.bridge.emergencyWithdrawalRequests id
              { chain.bridge.emergencyWithdrawalRequests id with cancelled := true } }
        (.EmergencyWithdrawalCancelled id sender))
  | same : Free env chain chain
  | grantOther {role : Bytes32} {account sender : Address} (other : role ≠ RELAYER_ROLE)
      (lacking : chain.bridge.access.hasRole role account = false) :
      Free env chain (emit
        { chain with bridge.access := chain.bridge.access.grant role account }
        (.RoleGranted role account sender))
  | revokeOther {role : Bytes32} {account sender : Address} (other : role ≠ RELAYER_ROLE)
      (held : chain.bridge.access.hasRole role account = true) :
      Free env chain (emit
        { chain with bridge.access := chain.bridge.access.revoke role account }
        (.RoleRevoked role account sender))
  | grantRelayer {account sender : Address} {minVotes : Nat}
      (lacking : chain.bridge.access.hasRole RELAYER_ROLE account = false)
      (counted : calculateMinVotesRequired (chain.bridge.relayerConfig.relayerCount + 1)
        chain.bridge.relayerConfig.consensusThresholdBps = .ok minVotes) :
      Free env chain (emit (emit
        { chain with
          bridge.access := chain.bridge.access.grant RELAYER_ROLE account
          bridge.relayerConfig := ⟨chain.bridge.relayerConfig.relayerCount + 1,
            chain.bridge.relayerConfig.consensusThresholdBps, minVotes⟩ }
        (.RoleGranted RELAYER_ROLE account sender))
        (.RelayerConfigUpdated (chain.bridge.relayerConfig.relayerCount + 1)
          chain.bridge.relayerConfig.consensusThresholdBps minVotes))
  | revokeRelayer {account sender : Address} {minVotes : Nat}
      (held : chain.bridge.access.hasRole RELAYER_ROLE account = true)
      (counted : calculateMinVotesRequired (chain.bridge.relayerConfig.relayerCount - 1)
        chain.bridge.relayerConfig.consensusThresholdBps = .ok minVotes) :
      Free env chain (emit (emit
        { chain with
          bridge.access := chain.bridge.access.revoke RELAYER_ROLE account
          bridge.relayerConfig := ⟨chain.bridge.relayerConfig.relayerCount - 1,
            chain.bridge.relayerConfig.consensusThresholdBps, minVotes⟩ }
        (.RoleRevoked RELAYER_ROLE account sender))
        (.RelayerConfigUpdated (chain.bridge.relayerConfig.relayerCount - 1)
          chain.bridge.relayerConfig.consensusThresholdBps minVotes))
  | relayerConfig {bps minVotes : Nat}
      (counted : calculateMinVotesRequired chain.bridge.relayerConfig.relayerCount bps =
        .ok minVotes) :
      Free env chain (emit
        { chain with
          bridge.relayerConfig := ⟨chain.bridge.relayerConfig.relayerCount, bps, minVotes⟩ }
        (.RelayerConfigUpdated chain.bridge.relayerConfig.relayerCount bps minVotes))
  | ceiling {newCeiling : Nat} (positive : newCeiling ≠ 0) :
      Free env chain (emit { chain with bridge.mintCeilingPerBlock := newCeiling }
        (.MintCeilingUpdated chain.bridge.mintCeilingPerBlock newCeiling))
  | delay {newDelay : Nat} (atLeast : MIN_EMERGENCY_TIMELOCK ≤ newDelay)
      (atMost : newDelay ≤ MAX_EMERGENCY_TIMELOCK) :
      Free env chain (emit { chain with bridge.emergencyWithdrawalDelay := newDelay }
        (.EmergencyWithdrawalDelayUpdated chain.bridge.emergencyWithdrawalDelay newDelay))
  | settings {paused : Bool} {tokens blocked : Address → Bool} {limits : RateLimitConfig}
      {tallies : Nat → RateLimitState} {e : List Event}
      (plain : ∀ event ∈ e, event.isSetting = true) :
      Free env chain { chain with
        bridge.paused := paused
        bridge.supportedTokens := tokens
        bridge.blockedAddresses := blocked
        bridge.rateLimitConfig := limits
        bridge.rateLimitState := tallies
        log := e.map (⟨chain.block, ·⟩) ++ chain.log }

section Inversion

variable {env : Environment} {chain next : Chain} {sender : Address}

variable {rest : Unit → Except Error Chain} {role : Bytes32}

theorem onlyRole_bind_eq_ok :
    (onlyRole chain role sender >>= rest) = .ok next ↔
      chain.bridge.access.hasRole role sender = true ∧ rest () = .ok next := by
  simp [onlyRole]

theorem whenNotPaused_bind_eq_ok :
    (whenNotPaused chain >>= rest) = .ok next ↔ chain.bridge.paused = false ∧ rest () = .ok next := by
  simp [whenNotPaused]

theorem notBlocked_bind_eq_ok {addr : Address} :
    (notBlocked chain addr >>= rest) = .ok next ↔
      chain.bridge.blockedAddresses addr = false ∧ rest () = .ok next := by
  simp [notBlocked]

variable {id : Bytes32}

theorem finalizeDeposit_free (done : finalizeDeposit sender id chain = .ok next) :
    Free env chain next := by
  simp only [finalizeDeposit, onlyRole_bind_eq_ok, whenNotPaused_bind_eq_ok, revertIf_bind_eq_ok,
    checkedAdd_bind_eq_ok, pure_eq_ok] at done
  obtain ⟨-, -, known, kept, pending, -, confirmed, rfl⟩ := done
  exact .finalize known (by simpa using kept) (by simpa using pending) (by omega)

theorem proposeWithdrawal_free {id burnTxHash : Bytes32} {recipient token : Address}
    {amount height : Nat}
    (done : proposeWithdrawal sender id recipient token amount burnTxHash height chain = .ok next) :
    Free env chain next := by
  simp only [proposeWithdrawal, onlyRole_bind_eq_ok, whenNotPaused_bind_eq_ok,
    notBlocked_bind_eq_ok, revertIf_bind_eq_ok, checkedAdd_bind_eq_ok, pure_eq_ok] at done
  obtain ⟨relayer, -, -, fresh, unmarked, -, -, -, -, rfl⟩ := done
  exact .propose relayer (by simpa using fresh) (by simpa using unmarked)

theorem voteWithdrawal_free (done : voteWithdrawal sender id chain = .ok next) :
    Free env chain next := by
  simp only [voteWithdrawal, onlyRole_bind_eq_ok, whenNotPaused_bind_eq_ok, revertIf_bind_eq_ok,
    checkedAdd_bind_eq_ok, pure_eq_ok] at done
  obtain ⟨relayer, -, created, pending, unchallenged, first, -, rfl⟩ := done
  exact .vote relayer created (by simpa using pending) (by simpa using unchallenged)
    (by simpa using first)

theorem challengeWithdrawal_free {reason : String}
    (done : challengeWithdrawal sender id reason chain = .ok next) : Free env chain next := by
  simp only [challengeWithdrawal, onlyRole_bind_eq_ok, revertIf_bind_eq_ok,
    pure_eq_ok] at done
  obtain ⟨-, created, pending, rfl⟩ := done
  exact .challenge created (by simpa using pending)

theorem queueEmergencyWithdrawal_free {token recipient : Address} {amount : Nat}
    (done : queueEmergencyWithdrawal env sender token amount recipient chain = .ok next) :
    Free env chain next := by
  simp only [queueEmergencyWithdrawal, onlyRole_bind_eq_ok, whenNotPaused_bind_eq_ok,
    revertIf_bind_eq_ok, checkedAdd_bind_eq_ok, pure_eq_ok] at done
  obtain ⟨-, -, -, -, -, -, -, -, rfl⟩ := done
  exact .queue rfl

theorem approveEmergencyWithdrawal_free
    (done : approveEmergencyWithdrawal sender id chain = .ok next) : Free env chain next := by
  simp only [approveEmergencyWithdrawal, onlyRole_bind_eq_ok, revertIf_bind_eq_ok,
    checkedAdd_bind_eq_ok, pure_eq_ok] at done
  obtain ⟨guardian, queued, -, first, -, rfl⟩ := done
  exact .approve guardian queued (by simpa using first)

theorem cancelEmergencyWithdrawal_free
    (done : cancelEmergencyWithdrawal sender id chain = .ok next) : Free env chain next := by
  simp only [cancelEmergencyWithdrawal, onlyRole_bind_eq_ok, revertIf_bind_eq_ok,
    pure_eq_ok, not_or] at done
  obtain ⟨-, queued, ⟨pending, -⟩, rfl⟩ := done
  exact .cancelEmergency queued (by simpa using pending)

theorem updateRelayerConfig_free {count bps : Nat}
    (done : updateRelayerConfig sender count bps chain = .ok next) : Free env chain next := by
  simp only [updateRelayerConfig, onlyRole_bind_eq_ok, revertIf_bind_eq_ok, not_not] at done
  obtain ⟨-, rfl, done⟩ := done
  obtain ⟨minVotes, counted, done⟩ := bind_eq_ok.mp done
  rw [← pure_eq_ok.mp done]
  exact .relayerConfig counted

theorem changedCount_eq_ok {count changed : Nat} {increment : Bool}
    (done : changedCount count increment = .ok changed) :
    changed = if increment then count + 1 else count - 1 := by
  unfold changedCount at done
  cases increment with
  | true => simpa using (checkedAdd_eq_ok.mp done).2.symm
  | false =>
    by_cases positive : 0 < count
    · simp only [Bool.false_eq_true, if_false, positive, if_true, checkedSub_eq_ok] at done
      simpa using done.2.symm
    · simp only [Bool.false_eq_true, if_false, positive, ok.injEq] at done
      simp only [Bool.false_eq_true, if_false]
      omega

theorem syncRelayerVoteThreshold_eq_ok {increment : Bool}
    (done : syncRelayerVoteThreshold chain increment = .ok next) :
    ∃ count minVotes,
      count = (if increment then chain.bridge.relayerConfig.relayerCount + 1
        else chain.bridge.relayerConfig.relayerCount - 1) ∧
      calculateMinVotesRequired count chain.bridge.relayerConfig.consensusThresholdBps =
        .ok minVotes ∧
      next = emit
        { chain with
          bridge.relayerConfig :=
            ⟨count, chain.bridge.relayerConfig.consensusThresholdBps, minVotes⟩ }
        (.RelayerConfigUpdated count chain.bridge.relayerConfig.consensusThresholdBps minVotes) := by
  simp only [syncRelayerVoteThreshold, bind_eq_ok, pure_eq_ok] at done
  obtain ⟨count, counting, minVotes, counted, rfl⟩ := done
  exact ⟨count, minVotes, changedCount_eq_ok counting, counted, rfl⟩

variable {account : Address}

theorem grantRole_free
    (done : grantRole sender role account chain = .ok next) : Free env chain next := by
  simp only [grantRole, onlyRole_bind_eq_ok] at done
  obtain ⟨-, done⟩ := done
  cases held : chain.bridge.access.hasRole role account with
  | true =>
    simp only [accessGrant, held, if_true, Bool.true_eq_false, and_false, if_false,
      ok.injEq] at done
    exact done ▸ .same
  | false =>
    by_cases relayer : role = RELAYER_ROLE
    · subst relayer
      simp only [accessGrant, held, Bool.false_eq_true, if_false, and_self, if_true] at done
      obtain ⟨count, minVotes, rfl, counted, rfl⟩ := syncRelayerVoteThreshold_eq_ok done
      exact .grantRelayer held counted
    · simp only [accessGrant, held, Bool.false_eq_true, if_false, relayer, false_and,
        ok.injEq] at done
      exact done ▸ .grantOther relayer held

theorem accessRevoke_free
    (done : (if role = RELAYER_ROLE ∧ chain.bridge.access.hasRole role account = true then
        syncRelayerVoteThreshold (accessRevoke chain role account sender) false
      else .ok (accessRevoke chain role account sender)) = .ok next) : Free env chain next := by
  cases held : chain.bridge.access.hasRole role account with
  | false =>
    simp only [accessRevoke, held, Bool.false_eq_true, and_false, if_false,
      ok.injEq] at done
    exact done ▸ .same
  | true =>
    by_cases relayer : role = RELAYER_ROLE
    · subst relayer
      simp only [accessRevoke, held, if_true, and_self] at done
      obtain ⟨count, minVotes, rfl, counted, rfl⟩ := syncRelayerVoteThreshold_eq_ok done
      exact .revokeRelayer held counted
    · simp only [accessRevoke, held, if_true, relayer, false_and, if_false,
        ok.injEq] at done
      exact done ▸ .revokeOther relayer held

theorem revokeRole_free
    (done : revokeRole sender role account chain = .ok next) : Free env chain next := by
  simp only [revokeRole, onlyRole_bind_eq_ok] at done
  exact accessRevoke_free done.2

theorem renounceRole_free
    (done : renounceRole sender role account chain = .ok next) : Free env chain next := by
  simp only [renounceRole, revertIf_bind_eq_ok] at done
  exact accessRevoke_free done.2

theorem setTokenSupport_free {supported : Bool} {token : Address}
    (done : setTokenSupport sender supported token chain = .ok next) : Free env chain next := by
  simp only [setTokenSupport, onlyRole_bind_eq_ok, pure_eq_ok] at done
  obtain ⟨-, rfl⟩ := done
  exact .settings (e := [.TokenSupportUpdated token supported]) (by simp [Event.isSetting])

theorem updateRateLimitConfig_free {maxDeposit maxWithdrawal : Nat} {enabled : Bool}
    (done : updateRateLimitConfig sender maxDeposit maxWithdrawal enabled chain = .ok next) :
    Free env chain next := by
  simp only [updateRateLimitConfig, onlyRole_bind_eq_ok, pure_eq_ok] at done
  obtain ⟨-, rfl⟩ := done
  exact .settings (e := [.RateLimitConfigUpdated maxDeposit maxWithdrawal enabled])
    (by simp [Event.isSetting])

theorem clearExpiredRateLimitState_free {periodKeys : List Nat}
    (done : clearExpiredRateLimitState sender periodKeys chain = .ok next) :
    Free env chain next := by
  simp only [clearExpiredRateLimitState, onlyRole_bind_eq_ok, revertIf_bind_eq_ok,
    pure_eq_ok] at done
  obtain ⟨-, -, -, rfl⟩ := done
  exact .settings (e := []) (by simp)

theorem setAddressBlocked_free {addr : Address} {blocked : Bool}
    (done : setAddressBlocked sender addr blocked chain = .ok next) : Free env chain next := by
  simp only [setAddressBlocked, onlyRole_bind_eq_ok, pure_eq_ok] at done
  obtain ⟨-, rfl⟩ := done
  exact .settings (e := [.AddressBlockStatusChanged addr blocked]) (by simp [Event.isSetting])

theorem setEmergencyWithdrawalDelay_free {newDelay : Nat}
    (done : setEmergencyWithdrawalDelay sender newDelay chain = .ok next) : Free env chain next := by
  simp only [setEmergencyWithdrawalDelay, onlyRole_bind_eq_ok, revertIf_bind_eq_ok,
    pure_eq_ok, not_or, not_lt] at done
  obtain ⟨-, ⟨atLeast, atMost⟩, rfl⟩ := done
  exact .delay atLeast atMost

theorem setMintCeilingPerBlock_free {newCeiling : Nat}
    (done : setMintCeilingPerBlock sender newCeiling chain = .ok next) : Free env chain next := by
  simp only [setMintCeilingPerBlock, onlyRole_bind_eq_ok, revertIf_bind_eq_ok,
    pure_eq_ok] at done
  obtain ⟨-, positive, rfl⟩ := done
  exact .ceiling positive

theorem pause_free (done : pause sender chain = .ok next) : Free env chain next := by
  simp only [pause, onlyRole_bind_eq_ok, revertIf_bind_eq_ok, pure_eq_ok] at done
  obtain ⟨-, -, rfl⟩ := done
  exact .settings (e := [.Paused sender]) (by simp [Event.isSetting])

theorem unpause_free (done : unpause sender chain = .ok next) : Free env chain next := by
  simp only [unpause, onlyRole_bind_eq_ok, revertIf_bind_eq_ok, pure_eq_ok] at done
  obtain ⟨-, -, rfl⟩ := done
  exact .settings (e := [.Unpaused sender]) (by simp [Event.isSetting])

/-- Everything a function outside the guard can do. -/
theorem execute_free {callee : Callee} {message : Message}
    (outside : message.function.guarded = false)
    (done : message.execute env callee chain = .ok next) : Free env chain next := by
  obtain ⟨sender, value, function⟩ := message
  simp only [Message.execute, revertIf_bind_eq_ok] at done
  replace done := done.2
  cases function with
  | depositETH | depositERC20 | cancelDeposit | processWithdrawal | executeEmergencyWithdrawal =>
    simp [Function.guarded] at outside
  | finalizeDeposit => exact finalizeDeposit_free done
  | proposeWithdrawal => exact proposeWithdrawal_free done
  | voteWithdrawal => exact voteWithdrawal_free done
  | challengeWithdrawal => exact challengeWithdrawal_free done
  | addSupportedToken => exact setTokenSupport_free done
  | removeSupportedToken => exact setTokenSupport_free done
  | updateRelayerConfig => exact updateRelayerConfig_free done
  | updateRateLimitConfig => exact updateRateLimitConfig_free done
  | clearExpiredRateLimitState => exact clearExpiredRateLimitState_free done
  | setAddressBlocked => exact setAddressBlocked_free done
  | setEmergencyWithdrawalDelay => exact setEmergencyWithdrawalDelay_free done
  | setMintCeilingPerBlock => exact setMintCeilingPerBlock_free done
  | pause => exact pause_free done
  | unpause => exact unpause_free done
  | queueEmergencyWithdrawal => exact queueEmergencyWithdrawal_free done
  | emergencyWithdraw =>
    simp only [emergencyWithdraw, onlyRole_bind_eq_ok] at done
    exact queueEmergencyWithdrawal_free done.2
  | approveEmergencyWithdrawal => exact approveEmergencyWithdrawal_free done
  | cancelEmergencyWithdrawal => exact cancelEmergencyWithdrawal_free done
  | grantRole => exact grantRole_free done
  | revokeRole => exact revokeRole_free done
  | renounceRole => exact renounceRole_free done

end Inversion

end AethelredBridge
