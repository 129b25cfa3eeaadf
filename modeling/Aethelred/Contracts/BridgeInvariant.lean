import Aethelred.Contracts.BridgeRun

/- The functions behind the reentrancy guard, cut where they hand over control, and the rule that
carries an invariant through a call with everything its callee does. -/
namespace AethelredBridge

open Evm AccessControl Except Storage

section Guarded

variable {env : Environment} {callee : Callee} {chain next : Chain}

def Chain.withLocked (chain : Chain) (token : Address) (amount : Nat) : Chain :=
  { chain with
    bridge.totalLockedETH := if token = 0 then amount else chain.bridge.totalLockedETH
    bridge.totalLockedERC20 := if token = 0 then chain.bridge.totalLockedERC20
      else Function.update chain.bridge.totalLockedERC20 token amount }

def Chain.recorded (env : Environment) (depositor : Address) (recipient : Bytes32)
    (token : Address) (amount : Nat) (chain : Chain) : Chain :=
  let words := depositWords env depositor recipient token amount chain.bridge.depositNonce
  Chain.emit
    { chain.withLocked token (chain.totalLocked token + amount) with
      hashed := words :: chain.hashed
      bridge.deposits := Function.update chain.bridge.deposits (env.keccak256 words)
        ⟨depositor, recipient, token, amount, chain.block.number, chain.block.timestamp, false,
          false⟩
      bridge.depositNonce := chain.bridge.depositNonce + 1 }
    (.DepositInitiated (env.keccak256 words) depositor recipient token amount
      chain.bridge.depositNonce chain.block.timestamp)

def Chain.paid (env : Environment) (purpose : Purpose) (token recipient : Address) (amount : Nat)
    (chain : Chain) : Chain :=
  { chain.withLocked token (chain.totalLocked token - amount) with
    balance := if recipient = env.self then chain.balance
      else Function.update chain.balance token (chain.balance token - amount)
    payments := ⟨chain.block, purpose, token, recipient, amount⟩ :: chain.payments }

theorem Chain.totalLocked_withLocked (token other : Address) (amount : Nat) :
    (chain.withLocked token amount).totalLocked other =
      if other = token then amount else chain.totalLocked other := by
  unfold Chain.totalLocked Chain.withLocked
  by_cases ether : token = 0
  · subst ether
    by_cases same : other = 0 <;> simp only [same, if_true, if_false]
  · by_cases same : other = token
    · subst same
      simp only [ether, if_false, if_true, Function.update_self]
    · simp only [ether, same, if_false, ne_eq, not_false_eq_true, Function.update_of_ne]

variable {amount : Nat}

theorem lock_eq_ok {token : Address} (done : lock chain token amount = .ok next) :
    next = chain.withLocked token (chain.totalLocked token + amount) := by
  unfold lock at done
  by_cases ether : token = 0
  · simp only [ether, if_true, checkedAdd_bind_eq_ok, pure_eq_ok] at done
    simpa only [Chain.withLocked, Chain.totalLocked, ether, if_true] using done.2.symm
  · simp only [ether, if_false, checkedAdd_bind_eq_ok, pure_eq_ok] at done
    simpa only [Chain.withLocked, Chain.totalLocked, ether, if_false] using done.2.symm

variable {recipient : Bytes32}

theorem recordDeposit_eq_ok {depositor token : Address}
    (done : recordDeposit env depositor recipient token amount chain = .ok next) :
    next = chain.recorded env depositor recipient token amount := by
  simp only [recordDeposit] at done
  obtain ⟨locked, locking, done⟩ := bind_eq_ok.mp done
  simp only [checkedAdd_bind_eq_ok, pure_eq_ok] at done
  rw [lock_eq_ok locking] at done
  rw [← done.2]
  unfold Chain.recorded Chain.withLocked Chain.totalLocked
  by_cases ether : token = 0 <;> simp only [ether, if_true, if_false]

theorem payOut_eq_ok {purpose : Purpose} {token recipient : Address}
    (done : payOut env callee purpose token recipient amount chain = .ok next) :
    amount ≤ chain.totalLocked token ∧ amount ≤ chain.balance token ∧
      next = callee.reenters (chain.paid env purpose token recipient amount) := by
  unfold payOut at done
  by_cases ether : token = 0
  · simp only [ether, if_true, checkedSub_bind_eq_ok, revertIf_bind_eq_ok, pure_eq_ok,
      not_or, not_lt] at done
    obtain ⟨covered, ⟨-, stranger, funded⟩, rfl⟩ := done
    simp only [ether, Chain.totalLocked, Chain.paid, Chain.withLocked, if_true, stranger, if_false]
    exact ⟨covered, funded, trivial⟩
  · simp only [ether, if_false, checkedSub_bind_eq_ok, revertIf_bind_eq_ok, pure_eq_ok,
      not_or, not_lt] at done
    obtain ⟨covered, ⟨-, funded⟩, rfl⟩ := done
    simp only [ether, Chain.totalLocked, Chain.paid, Chain.withLocked, if_false]
    exact ⟨covered, funded, trivial⟩

def Chain.opened (chain : Chain) (tallies : Nat → RateLimitState) : Chain :=
  { chain with
    bridge.entered := true
    bridge.rateLimitState := tallies }

def Chain.closed (chain : Chain) : Chain := { chain with bridge.entered := false }

/-- The state the mint ceiling check leaves: unchanged without a ceiling, else within it. -/
def Ceiled (chain : Chain) (amount last minted : Nat) : Prop :=
  (chain.bridge.mintCeilingPerBlock = 0 ∧ last = chain.bridge.lastMintBlock ∧
    minted = chain.bridge.mintedThisBlock) ∨
  (last = chain.block.number ∧ minted ≤ chain.bridge.mintCeilingPerBlock ∧
    minted = (if chain.block.number ≠ chain.bridge.lastMintBlock then 0
      else chain.bridge.mintedThisBlock) + amount)

/-- What a payout has booked when it hands over control, and the event it will end with. -/
inductive Booked (env : Environment) (chain : Chain) : Function → Chain → Event → Prop where
  | refund {sender : Address} {id : Bytes32}
      (known : (chain.bridge.deposits id).depositor ≠ 0)
      (owner : (chain.bridge.deposits id).depositor = sender)
      (unfinalized : (chain.bridge.deposits id).finalized = false)
      (kept : (chain.bridge.deposits id).cancelled = false)
      (inTime : chain.block.timestamp ≤
        (chain.bridge.deposits id).timestamp + DEPOSIT_CANCELLATION_WINDOW)
      (unconfirmed : chain.block.number <
        (chain.bridge.deposits id).blockNumber + MIN_ETH_CONFIRMATIONS)
      (covered : (chain.bridge.deposits id).amount ≤
        chain.totalLocked (chain.bridge.deposits id).token)
      (funded : (chain.bridge.deposits id).amount ≤
        chain.balance (chain.bridge.deposits id).token) :
      Booked env chain (.cancelDeposit id)
        (Chain.paid env (.refund id) (chain.bridge.deposits id).token sender
          (chain.bridge.deposits id).amount
          { chain with
            bridge.deposits := Function.update chain.bridge.deposits id
              { chain.bridge.deposits id with cancelled := true } })
        (.DepositCancelled id sender (chain.bridge.deposits id).amount)
  | withdrawal {id : Bytes32} {last minted : Nat}
      (created : (chain.bridge.withdrawalProposals id).createdAt ≠ 0)
      (pending : (chain.bridge.withdrawalProposals id).processed = false)
      (unchallenged : (chain.bridge.withdrawalProposals id).challenged = false)
      (snapshot : (chain.bridge.withdrawalProposals id).requiredVotesSnapshot ≤
        (chain.bridge.withdrawalProposals id).voteCount)
      (quorum : chain.bridge.relayerConfig.minVotesRequired ≤
        (chain.bridge.withdrawalProposals id).voteCount)
      (ended : (chain.bridge.withdrawalProposals id).challengeEndTime ≤ chain.block.timestamp)
      (unblocked : chain.bridge.blockedAddresses
        (chain.bridge.withdrawalProposals id).recipient = false)
      (ceiled : Ceiled chain (chain.bridge.withdrawalProposals id).amount last minted)
      (covered : (chain.bridge.withdrawalProposals id).amount ≤
        chain.totalLocked (chain.bridge.withdrawalProposals id).token)
      (funded : (chain.bridge.withdrawalProposals id).amount ≤
        chain.balance (chain.bridge.withdrawalProposals id).token) :
      Booked env chain (.processWithdrawal id)
        (Chain.paid env (.withdrawal id) (chain.bridge.withdrawalProposals id).token
          (chain.bridge.withdrawalProposals id).recipient
          (chain.bridge.withdrawalProposals id).amount
          { chain with
            bridge.lastMintBlock := last
            bridge.mintedThisBlock := minted
            bridge.withdrawalProposals := Function.update chain.bridge.withdrawalProposals id
              { chain.bridge.withdrawalProposals id with processed := true }
            bridge.processedWithdrawals := Function.update chain.bridge.processedWithdrawals
              (chain.bridge.withdrawalProposals id).burnTxHash true })
        (.WithdrawalProcessed id (chain.bridge.withdrawalProposals id).recipient
          (chain.bridge.withdrawalProposals id).token (chain.bridge.withdrawalProposals id).amount
          (chain.bridge.withdrawalProposals id).burnTxHash)
  | emergency {id : Bytes32}
      (queued : (chain.bridge.emergencyWithdrawalRequests id).queuedAt ≠ 0)
      (pending : (chain.bridge.emergencyWithdrawalRequests id).executed = false)
      (kept : (chain.bridge.emergencyWithdrawalRequests id).cancelled = false)
      (ready : (chain.bridge.emergencyWithdrawalRequests id).executeAfter ≤ chain.block.timestamp)
      (approved : REQUIRED_GUARDIAN_APPROVALS ≤ chain.bridge.guardianApprovalCount id)
      (covered : (chain.bridge.emergencyWithdrawalRequests id).amount ≤
        chain.totalLocked (chain.bridge.emergencyWithdrawalRequests id).token)
      (funded : (chain.bridge.emergencyWithdrawalRequests id).amount ≤
        chain.balance (chain.bridge.emergencyWithdrawalRequests id).token) :
      Booked env chain (.executeEmergencyWithdrawal id)
        (Chain.paid env (.emergency id) (chain.bridge.emergencyWithdrawalRequests id).token
          (chain.bridge.emergencyWithdrawalRequests id).recipient
          (chain.bridge.emergencyWithdrawalRequests id).amount
          { chain with
            bridge.emergencyWithdrawalRequests :=
              Function.update chain.bridge.emergencyWithdrawalRequests id
                { chain.bridge.emergencyWithdrawalRequests id with executed := true } })
        (.EmergencyWithdrawalExecuted id (chain.bridge.emergencyWithdrawalRequests id).token
          (chain.bridge.emergencyWithdrawalRequests id).recipient
          (chain.bridge.emergencyWithdrawalRequests id).amount)

theorem nonReentrant_eq_ok {body : Chain → Except Error Chain}
    (done : nonReentrant chain body = .ok next) :
    chain.bridge.entered = false ∧
      ∃ inside, body { chain with bridge.entered := true } = .ok inside ∧ next = inside.closed := by
  simp only [nonReentrant, revertIf_bind_eq_ok] at done
  obtain ⟨outside, done⟩ := done
  obtain ⟨inside, running, done⟩ := bind_eq_ok.mp done
  exact ⟨by simpa using outside, inside, running, (pure_eq_ok.mp done).symm⟩

theorem withinRateLimit_eq_ok {isDeposit : Bool}
    (done : withinRateLimit chain amount isDeposit = .ok next) :
    ∃ tallies, next = { chain with bridge.rateLimitState := tallies } := by
  unfold withinRateLimit at done
  split at done
  · cases isDeposit with
    | true =>
      simp only [if_true, checkedAdd_bind_eq_ok, revertIf_bind_eq_ok,
        pure_eq_ok] at done
      exact ⟨_, done.2.2.symm⟩
    | false =>
      simp only [Bool.false_eq_true, if_false, checkedAdd_bind_eq_ok, revertIf_bind_eq_ok,
        pure_eq_ok] at done
      exact ⟨_, done.2.2.symm⟩
  · exact ⟨chain.bridge.rateLimitState, (ok.inj done).symm⟩

theorem enforceMintCeiling_eq_ok (done : enforceMintCeiling amount chain = .ok next) :
    ∃ last minted, Ceiled chain amount last minted ∧ next = { chain with
      bridge.lastMintBlock := last
      bridge.mintedThisBlock := minted } := by
  unfold enforceMintCeiling at done
  by_cases disabled : chain.bridge.mintCeilingPerBlock = 0
  · simp only [disabled, if_true, ok.injEq] at done
    exact ⟨chain.bridge.lastMintBlock, chain.bridge.mintedThisBlock, .inl ⟨disabled, rfl, rfl⟩,
      done.symm⟩
  · simp only [disabled, if_false, checkedAdd_bind_eq_ok, revertIf_bind_eq_ok, pure_eq_ok,
      not_lt] at done
    obtain ⟨-, within, rfl⟩ := done
    exact ⟨_, _, .inr ⟨rfl, within, rfl⟩, rfl⟩

variable {sender : Address}

theorem depositETH_eq_ok {value : Nat}
    (done : depositETH env sender value recipient chain = .ok next) :
    chain.bridge.entered = false ∧ ∃ tallies, next =
      (((chain.opened tallies).receiveFunds 0 value).recorded env sender recipient 0 value).closed := by
  obtain ⟨outside, inside, running, rfl⟩ := nonReentrant_eq_ok done
  simp only [whenNotPaused_bind_eq_ok, notBlocked_bind_eq_ok] at running
  obtain ⟨limited, limiting, running⟩ := bind_eq_ok.mp running.2.2
  obtain ⟨tallies, rfl⟩ := withinRateLimit_eq_ok limiting
  obtain ⟨-, -, running⟩ := bind_eq_ok.mp running
  rw [recordDeposit_eq_ok running]
  exact ⟨outside, tallies, rfl⟩

theorem depositERC20_eq_ok {sender token : Address}
    (done : depositERC20 env callee sender token amount recipient chain = .ok next) :
    chain.bridge.entered = false ∧ ∃ tallies received, token ≠ 0 ∧
      chain.balance token + received =
        ((callee.reenters (chain.opened tallies)).receiveFunds token callee.delivers).balance token ∧
      next = (((callee.reenters (chain.opened tallies)).receiveFunds token
        callee.delivers).recorded env sender recipient token received).closed := by
  obtain ⟨outside, inside, running, rfl⟩ := nonReentrant_eq_ok done
  simp only [whenNotPaused_bind_eq_ok, notBlocked_bind_eq_ok] at running
  obtain ⟨limited, limiting, running⟩ := bind_eq_ok.mp running.2.2
  obtain ⟨tallies, rfl⟩ := withinRateLimit_eq_ok limiting
  simp only [revertIf_bind_eq_ok] at running
  obtain ⟨-, -, running⟩ := bind_eq_ok.mp running.2
  simp only [revertIf_bind_eq_ok, checkedSub_bind_eq_ok] at running
  obtain ⟨token_ne, -, grown, running⟩ := running
  rw [recordDeposit_eq_ok running]
  exact ⟨outside, tallies, _, token_ne, Nat.add_sub_cancel' grown, rfl⟩

theorem cancelDeposit_eq_ok {id : Bytes32}
    (done : cancelDeposit env callee sender id chain = .ok next) :
    chain.bridge.entered = false ∧ ∃ tallies mid event,
      Booked env (chain.opened tallies) (.cancelDeposit id) mid event ∧
        next = ((callee.reenters mid).emit event).closed := by
  obtain ⟨outside, inside, running, rfl⟩ := nonReentrant_eq_ok done
  simp only [revertIf_bind_eq_ok, checkedAdd_bind_eq_ok, not_lt, not_le] at running
  obtain ⟨known, owner, unfinalized, kept, -, inTime, -, unconfirmed, running⟩ := running
  obtain ⟨paid, paying, running⟩ := bind_eq_ok.mp running
  obtain ⟨covered, funded, rfl⟩ := payOut_eq_ok paying
  rw [← pure_eq_ok.mp running]
  exact ⟨outside, chain.bridge.rateLimitState, _, _,
    .refund known (not_not.mp owner) (Bool.eq_false_of_not_eq_true unfinalized)
      (Bool.eq_false_of_not_eq_true kept) inTime unconfirmed covered funded, rfl⟩

theorem effective_le {snapshot required votes : Nat}
    (enough : (if snapshot < required then required else snapshot) ≤ votes) :
    snapshot ≤ votes ∧ required ≤ votes := by
  split at enough <;> omega

theorem processWithdrawal_eq_ok {id : Bytes32}
    (done : processWithdrawal env callee id chain = .ok next) :
    chain.bridge.entered = false ∧ ∃ tallies mid event,
      Booked env (chain.opened tallies) (.processWithdrawal id) mid event ∧
        next = ((callee.reenters mid).emit event).closed := by
  obtain ⟨outside, inside, running, rfl⟩ := nonReentrant_eq_ok done
  simp only [whenNotPaused_bind_eq_ok] at running
  obtain ⟨limited, limiting, running⟩ := bind_eq_ok.mp running.2
  obtain ⟨tallies, rfl⟩ := withinRateLimit_eq_ok limiting
  simp only [revertIf_bind_eq_ok, not_lt] at running
  obtain ⟨created, pending, unchallenged, votes, ended, unblocked, running⟩ := running
  obtain ⟨ceiled, ceiling, running⟩ := bind_eq_ok.mp running
  obtain ⟨last, minted, within, rfl⟩ := enforceMintCeiling_eq_ok ceiling
  obtain ⟨paid, paying, running⟩ := bind_eq_ok.mp running
  obtain ⟨covered, funded, rfl⟩ := payOut_eq_ok paying
  rw [← pure_eq_ok.mp running]
  obtain ⟨snapshot, quorum⟩ := effective_le votes
  exact ⟨outside, tallies, _, _, @Booked.withdrawal _ _ _ last minted created
    (Bool.eq_false_of_not_eq_true pending) (Bool.eq_false_of_not_eq_true unchallenged) snapshot
    quorum ended (Bool.eq_false_of_not_eq_true unblocked) within covered funded, rfl⟩

theorem executeEmergencyWithdrawal_eq_ok {id : Bytes32}
    (done : executeEmergencyWithdrawal env callee sender id chain = .ok next) :
    chain.bridge.entered = false ∧ ∃ tallies mid event,
      Booked env (chain.opened tallies) (.executeEmergencyWithdrawal id) mid event ∧
        next = ((callee.reenters mid).emit event).closed := by
  obtain ⟨outside, inside, running, rfl⟩ := nonReentrant_eq_ok done
  simp only [onlyRole_bind_eq_ok, whenNotPaused_bind_eq_ok, revertIf_bind_eq_ok, not_lt,
    not_or] at running
  obtain ⟨-, -, queued, ⟨pending, kept⟩, ready, approved, -, running⟩ := running
  obtain ⟨paid, paying, running⟩ := bind_eq_ok.mp running
  obtain ⟨covered, funded, rfl⟩ := payOut_eq_ok paying
  rw [← pure_eq_ok.mp running]
  exact ⟨outside, chain.bridge.rateLimitState, _, _,
    .emergency queued (Bool.eq_false_of_not_eq_true pending) (Bool.eq_false_of_not_eq_true kept)
      ready approved covered funded, rfl⟩

end Guarded

/- How an invariant of the bridge is carried through a run. -/

variable {env : Environment} {chain next : Chain}

def Event.isPayout : Event → Bool
  | .DepositCancelled .. => true
  | .WithdrawalProcessed .. => true
  | .EmergencyWithdrawalExecuted .. => true
  | _ => false

/-- An invariant of the bridge, where the function of each call meets a condition: what the parts
of a call have to keep of it. -/
structure Invariant (env : Environment) (good : Chain → Function → Prop) (inv : Chain → Prop) :
    Prop where
  advance : ∀ chain blocks seconds, inv chain →
    inv { chain with block := chain.block.advance blocks seconds }
  receive : ∀ chain token amount, inv chain → inv (chain.receiveFunds token amount)
  free : ∀ chain next, Free env chain next → inv chain → inv next
  guard : ∀ chain entered, inv chain → inv { chain with bridge.entered := entered }
  booked : ∀ chain function mid event, Booked env chain function mid event → good chain function →
    inv chain → inv mid
  ended : ∀ chain event, event.isPayout = true → inv chain → inv (chain.emit event)
  recorded : ∀ before chain depositor recipient token amount, inv before → inv chain →
    chain.totalLocked token = before.totalLocked token →
    before.balance token + amount = chain.balance token →
    inv (chain.recorded env depositor recipient token amount)

section

variable (free : Free env chain next)
include free

theorem Free.entered : next.bridge.entered = chain.bridge.entered := by
  cases free <;> rfl

theorem Free.totalLocked (token : Address) :
    next.totalLocked token = chain.totalLocked token := by
  cases free <;> rfl

theorem Free.balance : next.balance = chain.balance := by
  cases free <;> rfl

end

section

variable {function : Function} {event : Event} (booked : Booked env chain function next event)
include booked

theorem Booked.isPayout : event.isPayout = true := by
  cases booked <;> rfl

theorem Booked.entered :
    next.bridge.entered = chain.bridge.entered := by
  cases booked <;> rfl

end

theorem execute_entered {callee : Callee} {message : Message}
    (guarded : message.function.guarded = true) (entered : chain.bridge.entered = true) :
    message.execute env callee chain ≠ .ok next := by
  intro done
  obtain ⟨sender, value, function⟩ := message
  simp only [Message.execute, revertIf_bind_eq_ok] at done
  replace done := done.2
  have outside : chain.bridge.entered = false := by
    cases function with
    | depositETH => exact (depositETH_eq_ok done).1
    | depositERC20 => exact (depositERC20_eq_ok done).1
    | cancelDeposit => exact (cancelDeposit_eq_ok done).1
    | processWithdrawal => exact (processWithdrawal_eq_ok done).1
    | executeEmergencyWithdrawal => exact (executeEmergencyWithdrawal_eq_ok done).1
    | _ => simp [Function.guarded] at guarded
  rw [entered] at outside
  cases outside

section

variable {P : Chain → Prop}
  (receive : ∀ chain token amount, P chain → P (chain.receiveFunds token amount))
  (free : ∀ chain next, Free env chain next → P chain → P next)
include receive free

theorem Reentry.apply_keeps (reentry : Reentry)
    (entered : chain.bridge.entered = true) (holds : P chain) :
    (reentry.apply env chain).bridge.entered = true ∧ P (reentry.apply env chain) := by
  cases reentry with
  | receiveFunds token amount => exact ⟨entered, receive chain token amount holds⟩
  | message sent =>
    simp only [Reentry.apply, Message.apply]
    split
    next after done =>
      cases outside : sent.function.guarded with
      | true => exact absurd done (execute_entered outside entered)
      | false =>
        have step := execute_free outside done
        exact ⟨step.entered.trans entered, free chain after step holds⟩
    next => exact ⟨entered, holds⟩

theorem Call.reenters_keeps (call : Call) (entered : chain.bridge.entered = true)
    (holds : P chain) : P ((call.callee env).reenters chain) := by
  have fold : ∀ (reentries : List Reentry) (chain : Chain), chain.bridge.entered = true → P chain →
      P (reentries.foldl (Reentry.apply env) chain) := by
    intro reentries
    induction reentries with
    | nil => exact fun _ _ holds => holds
    | cons first rest ih =>
      intro chain entered holds
      obtain ⟨entered, holds⟩ := Reentry.apply_keeps receive free first entered holds
      exact ih _ entered holds
  exact fold call.reentries chain entered holds

end

theorem Call.reenters_funds (call : Call) (entered : chain.bridge.entered = true)
    (token : Address) :
    ((call.callee env).reenters chain).totalLocked token = chain.totalLocked token ∧
      chain.balance token ≤ ((call.callee env).reenters chain).balance token := by
  refine Call.reenters_keeps (P := fun c => c.totalLocked token = chain.totalLocked token ∧
    chain.balance token ≤ c.balance token) ?_ ?_ call entered ⟨rfl, le_rfl⟩
  · rintro c receiving amount ⟨locked, grown⟩
    refine ⟨locked, grown.trans ?_⟩
    unfold Chain.receiveFunds
    by_cases same : token = receiving
    · subst same
      simp
    · simp [same]
  · rintro c after free ⟨locked, grown⟩
    exact ⟨(free.totalLocked token).trans locked, by rw [free.balance]; exact grown⟩

namespace Invariant

variable {good : Chain → Function → Prop} {inv : Chain → Prop}

section

variable (rules : Invariant env good inv)
include rules

theorem opened (tallies : Nat → RateLimitState)
    (holds : inv chain) : inv (chain.opened tallies) := by
  have settled := rules.free chain { chain with bridge.rateLimitState := tallies }
    (.settings (e := []) (by simp)) holds
  exact rules.guard _ true settled

theorem closed (holds : inv chain) : inv chain.closed :=
  rules.guard chain false holds

variable (call : Call)

theorem reenters (entered : chain.bridge.entered = true) (holds : inv chain) :
    inv ((call.callee env).reenters chain) :=
  Call.reenters_keeps rules.receive rules.free call entered holds

theorem payout {tallies : Nat → RateLimitState} {function : Function} {mid : Chain}
    {event : Event} (booked : Booked env (chain.opened tallies) function mid event)
    (permitted : good (chain.opened tallies) function) (holds : inv chain) :
    inv ((((call.callee env).reenters mid).emit event).closed) := by
  have inMiddle := rules.booked _ _ _ _ booked permitted (rules.opened tallies holds)
  exact rules.closed (rules.ended _ _ booked.isPayout
    (rules.reenters call booked.entered inMiddle))

/-- What each part of a message keeps, the message keeps. -/
theorem execute {message : Message}
    (permitted : ∀ tallies, good (chain.opened tallies) message.function)
    (done : message.execute env (call.callee env) chain = .ok next) (holds : inv chain) :
    inv next := by
  cases outside : message.function.guarded with
  | false => exact rules.free _ _ (execute_free outside done) holds
  | true =>
    obtain ⟨sender, value, function⟩ := message
    simp only [Message.execute, revertIf_bind_eq_ok] at done
    replace done := done.2
    cases function with
    | depositETH =>
      obtain ⟨-, tallies, rfl⟩ := depositETH_eq_ok done
      have before := rules.opened tallies holds
      refine rules.closed (rules.recorded _ _ _ _ _ _ before
        (rules.receive _ 0 value before) rfl ?_)
      simp [Chain.receiveFunds]
    | depositERC20 token =>
      obtain ⟨-, tallies, received, -, grown, rfl⟩ := depositERC20_eq_ok done
      have before := rules.opened tallies holds
      have inMiddle := rules.reenters call rfl before
      exact rules.closed (rules.recorded _ _ _ _ _ _ before (rules.receive _ token _ inMiddle)
        (call.reenters_funds rfl token).1 grown)
    | cancelDeposit =>
      obtain ⟨-, tallies, mid, event, booked, rfl⟩ := cancelDeposit_eq_ok done
      exact rules.payout call booked (permitted tallies) holds
    | processWithdrawal =>
      obtain ⟨-, tallies, mid, event, booked, rfl⟩ := processWithdrawal_eq_ok done
      exact rules.payout call booked (permitted tallies) holds
    | executeEmergencyWithdrawal =>
      obtain ⟨-, tallies, mid, event, booked, rfl⟩ := executeEmergencyWithdrawal_eq_ok done
      exact rules.payout call booked (permitted tallies) holds
    | _ => simp [Function.guarded] at outside

theorem step (action : Action) (permitted : ∀ call, action = .call call →
      ∀ tallies, good (chain.opened tallies) call.message.function) (holds : inv chain) :
    inv (step env chain action) := by
  cases action with
  | advance blocks seconds => exact rules.advance chain blocks seconds holds
  | receiveFunds token amount => exact rules.receive chain token amount holds
  | call call =>
    simp only [AethelredBridge.step, Message.apply]
    split
    next after done => exact rules.execute call (permitted call rfl) done holds
    next => exact holds

end

theorem run (rules : Invariant env (fun _ _ => True) inv) (actions : List Action)
    (holds : inv chain) : inv (AethelredBridge.run env chain actions) := by
  induction actions generalizing chain with
  | nil => exact holds
  | cons action rest ih => exact ih (rules.step action (fun _ _ _ => trivial) holds)

end Invariant

theorem accessGrant_eq (role : Bytes32) (account sender : Address) :
    ∃ access log, accessGrant chain role account sender =
      { chain with bridge.access := access, log := log } := by
  unfold accessGrant
  split
  · exact ⟨chain.bridge.access, chain.log, rfl⟩
  · exact ⟨_, _, rfl⟩

theorem foldl_accessGrant_eq (role : Bytes32) (accounts : List Address) (sender : Address)
    (chain : Chain) :
    ∃ access log, accounts.foldl (fun c account => accessGrant c role account sender) chain =
      { chain with bridge.access := access, log := log } := by
  induction accounts generalizing chain with
  | nil => exact ⟨chain.bridge.access, chain.log, rfl⟩
  | cons account rest ih =>
    obtain ⟨access, log, granted⟩ := @accessGrant_eq chain role account sender
    obtain ⟨access', log', folded⟩ := ih (accessGrant chain role account sender)
    refine ⟨access', log', ?_⟩
    rw [List.foldl_cons, folded, granted]

def initialGrants (sender : Address) (block : Block) (balance : Address → Nat)
    (admin upgraderTimelock : Address) (initialRelayers : List Address) : Chain :=
  let start : Chain := ⟨block, blank, balance, [], [], []⟩
  let chain := accessGrant start DEFAULT_ADMIN_ROLE admin sender
  let chain := accessGrant chain GUARDIAN_ROLE admin sender
  let chain : Chain := { chain with
    bridge.access := chain.bridge.access.setRoleAdmin UPGRADER_ROLE UPGRADER_ROLE }
  let chain := accessGrant chain UPGRADER_ROLE upgraderTimelock sender
  initialRelayers.foldl (fun c relayer => accessGrant c RELAYER_ROLE relayer sender) chain

/-- A deployment is its grants and the configuration set after them. -/
theorem Initialized.eq {relayers : List Address} (start : Initialized env relayers chain) :
    ∃ sender block balance admin upgrader bps minVotes,
      calculateMinVotesRequired relayers.length bps = .ok minVotes ∧
      chain = { initialGrants sender block balance admin upgrader relayers with
        bridge.relayerConfig := ⟨relayers.length, bps, minVotes⟩
        bridge.rateLimitConfig := ⟨1000 * 10 ^ 18, 1000 * 10 ^ 18, true⟩
        bridge.emergencyWithdrawalDelay := DEFAULT_EMERGENCY_TIMELOCK
        bridge.mintCeilingPerBlock := DEFAULT_MINT_CEILING_PER_BLOCK } := by
  have bridge : ∀ {sender block balance admin upgrader bps},
      initializeBridge env sender block balance admin upgrader relayers bps = .ok chain →
      ∃ minVotes, calculateMinVotesRequired relayers.length bps = .ok minVotes ∧ chain =
        { initialGrants sender block balance admin upgrader relayers with
          bridge.relayerConfig := ⟨relayers.length, bps, minVotes⟩
          bridge.rateLimitConfig := ⟨1000 * 10 ^ 18, 1000 * 10 ^ 18, true⟩
          bridge.emergencyWithdrawalDelay := DEFAULT_EMERGENCY_TIMELOCK
          bridge.mintCeilingPerBlock := DEFAULT_MINT_CEILING_PER_BLOCK } := by
    intro sender block balance admin upgrader bps done
    simp only [initializeBridge] at done
    obtain ⟨-, -, done⟩ := bind_eq_ok.mp done
    obtain ⟨-, -, done⟩ := bind_eq_ok.mp done
    obtain ⟨minVotes, counted, done⟩ := bind_eq_ok.mp done
    exact ⟨minVotes, counted, (pure_eq_ok.mp done).symm⟩
  cases start with
  | legacy done =>
    simp only [legacyInitialize, revertIf_bind_eq_ok] at done
    obtain ⟨minVotes, counted, eq⟩ := bridge done.2
    exact ⟨_, _, _, _, _, _, minVotes, counted, eq⟩
  | timelock done =>
    simp only [initializeWithTimelock] at done
    obtain ⟨-, -, done⟩ := bind_eq_ok.mp done
    obtain ⟨minVotes, counted, eq⟩ := bridge done
    exact ⟨_, _, _, _, _, _, minVotes, counted, eq⟩

theorem initialGrants_eq (sender : Address) (block : Block) (balance : Address → Nat)
    (admin upgraderTimelock : Address) (initialRelayers : List Address) :
    ∃ access log, initialGrants sender block balance admin upgraderTimelock initialRelayers =
      ⟨block, { blank with access := access }, balance, log, [], []⟩ := by
  unfold initialGrants
  obtain ⟨access, log, folded⟩ := foldl_accessGrant_eq RELAYER_ROLE initialRelayers sender
    (accessGrant { accessGrant (accessGrant ⟨block, blank, balance, [], [], []⟩
      DEFAULT_ADMIN_ROLE admin sender) GUARDIAN_ROLE admin sender with
        bridge.access := (accessGrant (accessGrant ⟨block, blank, balance, [], [], []⟩
          DEFAULT_ADMIN_ROLE admin sender) GUARDIAN_ROLE admin sender).bridge.access.setRoleAdmin
            UPGRADER_ROLE UPGRADER_ROLE } UPGRADER_ROLE upgraderTimelock sender)
  refine ⟨access, log, ?_⟩
  simp only [folded]
  obtain ⟨_, _, first⟩ := @accessGrant_eq ⟨block, blank, balance, [], [], []⟩
    DEFAULT_ADMIN_ROLE admin sender
  obtain ⟨_, _, second⟩ := @accessGrant_eq (accessGrant ⟨block, blank, balance, [], [], []⟩
    DEFAULT_ADMIN_ROLE admin sender) GUARDIAN_ROLE admin sender
  obtain ⟨_, _, third⟩ := @accessGrant_eq { accessGrant (accessGrant ⟨block, blank, balance,
      [], [], []⟩ DEFAULT_ADMIN_ROLE admin sender) GUARDIAN_ROLE admin sender with
        bridge.access := (accessGrant (accessGrant ⟨block, blank, balance, [], [], []⟩
          DEFAULT_ADMIN_ROLE admin sender) GUARDIAN_ROLE admin sender).bridge.access.setRoleAdmin
            UPGRADER_ROLE UPGRADER_ROLE } UPGRADER_ROLE upgraderTimelock sender
  rw [third, second, first]

end AethelredBridge
