import Aethelred.Contracts.BridgeInvariant

/- The per-block ceiling on withdrawals, over whole blocks. -/
namespace AethelredBridge

open Evm AccessControl Chain

def Purpose.isWithdrawal : Purpose → Bool
  | .withdrawal _ => true
  | _ => false

def Payment.withdrawnIn (number : Nat) (payment : Payment) : Nat :=
  if payment.block.number = number ∧ payment.purpose.isWithdrawal = true then payment.amount else 0

def processedIn (number : Nat) (payments : List Payment) : Nat :=
  (payments.map (Payment.withdrawnIn number)).sum

def ceilingsIn (number : Nat) : List Entry → List Nat
  | [] => [DEFAULT_MINT_CEILING_PER_BLOCK]
  | ⟨block, .MintCeilingUpdated _ newCeiling⟩ :: rest =>
    if block.number < number then [newCeiling]
    else if block.number = number then newCeiling :: ceilingsIn number rest
    else ceilingsIn number rest
  | _ :: rest => ceilingsIn number rest

def Event.onCeiling : Event → Bool
  | .MintCeilingUpdated .. => true
  | _ => false

/-- What is minted in the last block with a withdrawal is on record, and each block's withdrawals
stay within a ceiling in force during it. -/
structure CeilingKept (chain : Chain) : Prop where
  positive : chain.bridge.mintCeilingPerBlock ≠ 0
  inForce : ∀ number, chain.block.number ≤ number →
    chain.bridge.mintCeilingPerBlock ∈ ceilingsIn number chain.log
  past : chain.bridge.lastMintBlock ≤ chain.block.number
  minted : processedIn chain.bridge.lastMintBlock chain.payments = chain.bridge.mintedThisBlock
  later : ∀ number, chain.bridge.lastMintBlock < number → processedIn number chain.payments = 0
  within : ∀ number, ∃ ceiling ∈ ceilingsIn number chain.log,
    processedIn number chain.payments ≤ ceiling

section Steps

variable {env : Environment} {chain next : Chain}

theorem ceilingsIn_quiet {block : Block} {event : Event} {log : List Entry}
    (quiet : event.onCeiling = false) (number : Nat) :
    ceilingsIn number (⟨block, event⟩ :: log) = ceilingsIn number log := by
  cases event with
  | MintCeilingUpdated => simp [Event.onCeiling] at quiet
  | _ => rfl

section

variable (kept : CeilingKept chain)
include kept

theorem CeilingKept.emit {event : Event}
    (quiet : event.onCeiling = false) : CeilingKept (chain.emit event) := by
  refine ⟨kept.positive, fun number reached => ?_, kept.past, kept.minted, kept.later,
    fun number => ?_⟩
  · rw [Chain.emit, ceilingsIn_quiet quiet]
    exact kept.inForce number reached
  · rw [Chain.emit, ceilingsIn_quiet quiet]
    exact kept.within number

theorem CeilingKept.settings {events : List Event}
    (plain : ∀ event ∈ events, event.isSetting = true) :
    CeilingKept { chain with log := events.map (⟨chain.block, ·⟩) ++ chain.log } := by
  induction events with
  | nil => exact kept
  | cons event rest ih =>
    have later := ih fun other member => plain other (List.mem_cons_of_mem _ member)
    have setting := plain event (List.mem_cons_self ..)
    refine @CeilingKept.emit _ later event ?_
    cases event with
    | MintCeilingUpdated => simp [Event.isSetting] at setting
    | _ => rfl

theorem CeilingKept.ceiling {newCeiling : Nat}
    (positive : newCeiling ≠ 0) :
    CeilingKept (Chain.emit { chain with bridge.mintCeilingPerBlock := newCeiling }
      (.MintCeilingUpdated chain.bridge.mintCeilingPerBlock newCeiling)) := by
  refine ⟨positive, fun number reached => ?_, kept.past, kept.minted, kept.later,
    fun number => ?_⟩
  · change chain.block.number ≤ number at reached
    simp only [Chain.emit, ceilingsIn]
    rcases Nat.lt_or_eq_of_le reached with before | same
    · rw [if_pos before]
      exact List.mem_singleton.mpr rfl
    · rw [if_neg (by omega), if_pos same]
      exact List.mem_cons_self ..
  · simp only [Chain.emit, ceilingsIn]
    obtain ⟨ceiling, member, bound⟩ := kept.within number
    split_ifs with before same
    · -- nothing is processed yet in a block to come
      refine ⟨newCeiling, List.mem_singleton.mpr rfl, ?_⟩
      rw [kept.later number (lt_of_le_of_lt kept.past before)]
      exact Nat.zero_le _
    · exact ⟨ceiling, List.mem_cons_of_mem _ member, bound⟩
    · exact ⟨ceiling, member, bound⟩

end

theorem CeilingKept.free (free : Free env chain next) (kept : CeilingKept chain) :
    CeilingKept next := by
  cases free with
  | same => exact kept
  | ceiling positive => exact kept.ceiling positive
  | settings plain =>
    obtain ⟨positive, inForce, past, minted, later, within⟩ := kept.settings plain
    exact ⟨positive, inForce, past, minted, later, within⟩
  | finalize | vote | challenge | queue | approve | cancelEmergency | relayerConfig | delay
  | grantOther | revokeOther =>
    refine CeilingKept.emit ?_ rfl
    exact ⟨kept.positive, kept.inForce, kept.past, kept.minted, kept.later, kept.within⟩
  | propose | grantRelayer | revokeRelayer =>
    refine CeilingKept.emit (CeilingKept.emit ?_ rfl) rfl
    exact ⟨kept.positive, kept.inForce, kept.past, kept.minted, kept.later, kept.within⟩

theorem processedIn_cons (number : Nat) (payment : Payment) (payments : List Payment) :
    processedIn number (payment :: payments) =
      payment.withdrawnIn number + processedIn number payments := by
  simp [processedIn]

theorem CeilingKept.paid (kept : CeilingKept chain) {purpose : Purpose}
    (other : purpose.isWithdrawal = false) {token recipient : Address} {amount : Nat} :
    CeilingKept (chain.paid env purpose token recipient amount) := by
  have uncounted : ∀ number, processedIn number
      (chain.paid env purpose token recipient amount).payments =
        processedIn number chain.payments := by
    intro number
    simp [Chain.paid, processedIn_cons, Payment.withdrawnIn, other]
  refine ⟨kept.positive, kept.inForce, kept.past, ?_, ?_, ?_⟩
  · rw [uncounted]
    exact kept.minted
  · intro number after
    rw [uncounted]
    exact kept.later number after
  · intro number
    rw [uncounted]
    exact kept.within number

/-- A payout below the ceiling keeps the block's sum below it. -/
theorem CeilingKept.withdrawal (kept : CeilingKept chain) {id : Bytes32} {token recipient : Address}
    {amount last minted : Nat} (ceiled : Ceiled chain amount last minted)
    (lastly : next.bridge.lastMintBlock = last) (counted : next.bridge.mintedThisBlock = minted)
    (block : next.block = chain.block) (log : next.log = chain.log)
    (ceiling : next.bridge.mintCeilingPerBlock = chain.bridge.mintCeilingPerBlock)
    (payments : next.payments =
      ⟨chain.block, .withdrawal id, token, recipient, amount⟩ :: chain.payments) :
    CeilingKept next := by
  obtain ⟨disabled, -, -⟩ | ⟨lastBlock, bounded, sum⟩ := ceiled
  · exact absurd disabled kept.positive
  have here : processedIn chain.block.number next.payments = minted := by
    rw [payments, processedIn_cons, sum]
    simp only [Payment.withdrawnIn, Purpose.isWithdrawal, and_self, if_true]
    split
    next moved =>
      rw [kept.later _ (lt_of_le_of_ne kept.past (Ne.symm moved))]
      omega
    next same =>
      rw [not_not.mp same, kept.minted]
      omega
  have elsewhere : ∀ number, number ≠ chain.block.number →
      processedIn number next.payments = processedIn number chain.payments := by
    intro number other
    rw [payments, processedIn_cons]
    simp [Payment.withdrawnIn, Ne.symm other]
  refine ⟨?_, ?_, ?_, ?_, ?_, ?_⟩
  · rw [ceiling]
    exact kept.positive
  · rw [block, log, ceiling]
    exact kept.inForce
  · rw [lastly, lastBlock, block]
  · rw [lastly, counted, lastBlock]
    exact here
  · intro number after
    rw [lastly, lastBlock] at after
    rw [elsewhere number after.ne']
    exact kept.later number (lt_of_le_of_lt kept.past after)
  · intro number
    rw [log]
    by_cases current : number = chain.block.number
    · subst current
      refine ⟨_, kept.inForce _ le_rfl, ?_⟩
      rw [here]
      exact bounded
    · rw [elsewhere number current]
      exact kept.within number

/-- No block pays out more than a ceiling of its own. -/
theorem ceilingKept_invariant : Invariant env (fun _ _ => True) CeilingKept where
  advance chain blocks seconds kept := by
    refine ⟨kept.positive, fun number reached => ?_, ?_, kept.minted, kept.later, kept.within⟩
    · exact kept.inForce number (le_trans (Nat.le_add_right ..) reached)
    · exact le_trans kept.past (Nat.le_add_right ..)
  receive _ _ _ kept := ⟨kept.positive, kept.inForce, kept.past, kept.minted, kept.later, kept.within⟩
  free _ _ free kept := kept.free free
  guard _ _ kept := ⟨kept.positive, kept.inForce, kept.past, kept.minted, kept.later, kept.within⟩
  ended chain event payout kept := by
    refine kept.emit ?_
    cases event with
    | MintCeilingUpdated => simp [Event.isPayout] at payout
    | _ => rfl
  booked chain function mid event booked _ kept := by
    cases booked with
    | refund =>
      refine CeilingKept.paid ?_ rfl
      exact ⟨kept.positive, kept.inForce, kept.past, kept.minted, kept.later, kept.within⟩
    | emergency =>
      refine CeilingKept.paid ?_ rfl
      exact ⟨kept.positive, kept.inForce, kept.past, kept.minted, kept.later, kept.within⟩
    | withdrawal created pending unchallenged snapshot quorum ended unblocked ceiled =>
      exact kept.withdrawal ceiled rfl rfl rfl rfl rfl rfl
  recorded before chain depositor recipient token amount _ kept _ _ := by
    refine CeilingKept.emit ?_ rfl
    exact ⟨kept.positive, kept.inForce, kept.past, kept.minted, kept.later, kept.within⟩

end Steps

variable (chain : Chain)

/- One burn, one payout: when the proposals that carry one burn hash are paid at most once. -/

/-- No two processed proposals carry the same burn hash. -/
def OnePayout : Prop :=
  ∀ first second, (chain.bridge.withdrawalProposals first).processed = true →
    (chain.bridge.withdrawalProposals second).processed = true →
    (chain.bridge.withdrawalProposals first).burnTxHash =
      (chain.bridge.withdrawalProposals second).burnTxHash → first = second

/-- The function does not process a proposal that is due while its burn is marked as paid. -/
def UnpaidBurn : Function → Prop
  | .processWithdrawal id => (canProcessWithdrawal chain id).1 = true →
      chain.bridge.processedWithdrawals (chain.bridge.withdrawalProposals id).burnTxHash = false
  | _ => True

def UnpaidBurns : Action → Prop
  | .call call => UnpaidBurn chain call.message.function
  | _ => True

instance : ∀ function, Decidable (UnpaidBurn chain function)
  | .processWithdrawal id => inferInstanceAs (Decidable ((canProcessWithdrawal chain id).1 = true →
      chain.bridge.processedWithdrawals (chain.bridge.withdrawalProposals id).burnTxHash = false))
  | .depositETH _ | .depositERC20 .. | .cancelDeposit _ | .finalizeDeposit _
  | .proposeWithdrawal .. | .voteWithdrawal _ | .challengeWithdrawal .. | .addSupportedToken _
  | .removeSupportedToken _ | .updateRelayerConfig .. | .updateRateLimitConfig ..
  | .clearExpiredRateLimitState _ | .setAddressBlocked .. | .setEmergencyWithdrawalDelay _
  | .setMintCeilingPerBlock _ | .pause | .unpause | .queueEmergencyWithdrawal ..
  | .emergencyWithdraw .. | .approveEmergencyWithdrawal _ | .executeEmergencyWithdrawal _
  | .cancelEmergencyWithdrawal _ | .grantRole .. | .revokeRole .. | .renounceRole .. =>
    .isTrue trivial

instance : ∀ action, Decidable (UnpaidBurns chain action)
  | .call call => inferInstanceAs (Decidable (UnpaidBurn chain call.message.function))
  | .advance .. | .receiveFunds .. => .isTrue trivial

/-- A processed proposal was created, its burn is marked, and it is the only one of its burn. -/
structure BurnsMarked (proposals : Bytes32 → WithdrawalProposal) (marks : Bytes32 → Bool) :
    Prop where
  created : ∀ id, (proposals id).processed = true → (proposals id).createdAt ≠ 0
  marked : ∀ id, (proposals id).processed = true → marks (proposals id).burnTxHash = true
  once : ∀ first second, (proposals first).processed = true → (proposals second).processed = true →
    (proposals first).burnTxHash = (proposals second).burnTxHash → first = second

section Marks

variable {proposals : Bytes32 → WithdrawalProposal} {marks : Bytes32 → Bool} {id : Bytes32}

theorem BurnsMarked.update (kept : BurnsMarked proposals marks) {proposal : WithdrawalProposal}
    (pending : proposal.processed = false) :
    BurnsMarked (Function.update proposals id proposal) marks := by
  have other : ∀ key, (Function.update proposals id proposal key).processed = true →
      Function.update proposals id proposal key = proposals key := by
    intro key processed
    by_cases same : key = id
    · subst same
      rw [Function.update_self, pending] at processed
      cases processed
    · rw [Function.update_of_ne same]
  refine ⟨?_, ?_, ?_⟩
  · intro key processed
    rw [other key processed] at *
    exact kept.created key processed
  · intro key processed
    rw [other key processed] at *
    exact kept.marked key processed
  · intro first second processed processed' same
    rw [other first processed] at *
    rw [other second processed'] at *
    exact kept.once first second processed processed' same

/-- Processing a proposal of an unmarked burn marks it. -/
theorem BurnsMarked.process (kept : BurnsMarked proposals marks)
    (created : (proposals id).createdAt ≠ 0) (unmarked : marks (proposals id).burnTxHash = false) :
    BurnsMarked (Function.update proposals id { proposals id with processed := true })
      (Function.update marks (proposals id).burnTxHash true) := by
  -- a proposal of the same burn that was processed before would have marked it
  have apart : ∀ key, (proposals key).processed = true →
      (proposals key).burnTxHash ≠ (proposals id).burnTxHash := by
    intro key processed same
    have marked := kept.marked key processed
    rw [same, unmarked] at marked
    cases marked
  refine ⟨?_, ?_, ?_⟩
  · intro key processed
    by_cases same : key = id
    · subst same
      simpa using created
    · rw [Function.update_of_ne same] at processed ⊢
      exact kept.created key processed
  · intro key processed
    by_cases same : key = id
    · subst same
      simp
    · rw [Function.update_of_ne same] at processed ⊢
      rw [Function.update_of_ne (apart key processed)]
      exact kept.marked key processed
  · intro first second processed processed' burns
    by_cases isFirst : first = id
    · by_cases isSecond : second = id
      · rw [isFirst, isSecond]
      · rw [Function.update_of_ne isSecond] at processed' burns
        subst isFirst
        rw [Function.update_self] at burns
        exact absurd burns.symm (apart second processed')
    · rw [Function.update_of_ne isFirst] at processed burns
      by_cases isSecond : second = id
      · subst isSecond
        rw [Function.update_self] at burns
        exact absurd burns (apart first processed)
      · rw [Function.update_of_ne isSecond] at processed' burns
        exact kept.once first second processed processed' burns

end Marks

section Runs

variable {env : Environment}

/-- The burns of processed proposals are marked. -/
def Chain.BurnsMarked (chain : Chain) : Prop :=
  AethelredBridge.BurnsMarked chain.bridge.withdrawalProposals chain.bridge.processedWithdrawals

theorem Chain.BurnsMarked.free {chain next : Chain} (free : Free env chain next)
    (kept : chain.BurnsMarked) : next.BurnsMarked := by
  cases free with
  | propose => exact AethelredBridge.BurnsMarked.update kept rfl
  | vote relayer created pending =>
    refine AethelredBridge.BurnsMarked.update kept ?_
    exact pending
  | challenge created pending =>
    refine AethelredBridge.BurnsMarked.update kept ?_
    exact pending
  | _ => exact kept

theorem Chain.BurnsMarked.paid {chain : Chain} {purpose : Purpose} {token recipient : Address}
    {amount : Nat} (kept : chain.BurnsMarked) :
    (chain.paid env purpose token recipient amount).BurnsMarked := by
  exact kept

/-- Burns stay marked while no paid one is paid again. -/
theorem burnsMarked_invariant : Invariant env UnpaidBurn Chain.BurnsMarked where
  advance _ _ _ kept := kept
  receive _ _ _ kept := kept
  free _ _ free kept := kept.free free
  guard _ _ kept := kept
  ended _ _ _ kept := kept
  booked chain function mid event booked unpaid kept := by
    cases booked with
    | refund =>
      refine BurnsMarked.paid ?_
      exact kept
    | emergency =>
      refine BurnsMarked.paid ?_
      exact kept
    | @withdrawal id last minted created pending unchallenged snapshot quorum ended unblocked =>
      refine BurnsMarked.paid (AethelredBridge.BurnsMarked.process kept created ?_)
      have votes : ¬(chain.bridge.withdrawalProposals id).voteCount <
          (if (chain.bridge.withdrawalProposals id).requiredVotesSnapshot <
              chain.bridge.relayerConfig.minVotesRequired
            then chain.bridge.relayerConfig.minVotesRequired
            else (chain.bridge.withdrawalProposals id).requiredVotesSnapshot) := by
        split <;> omega
      apply unpaid
      simp [canProcessWithdrawal, created, pending, unchallenged, votes, not_lt.mpr ended,
        unblocked]
  recorded before chain depositor recipient token amount _ kept _ _ := by
    exact kept

theorem Initialized.burnsMarked {relayers : List Address} {chain : Chain}
    (start : Initialized env relayers chain) : chain.BurnsMarked := by
  obtain ⟨sender, block, balance, admin, upgrader, bps, minVotes, -, rfl⟩ := start.eq
  obtain ⟨access, log, eq⟩ := initialGrants_eq sender block balance admin upgrader relayers
  rw [eq]
  exact ⟨by simp [Storage.blank], by simp [Storage.blank], by simp [Storage.blank]⟩

/-- When no due proposal is processed while its burn is marked, no burn is paid twice. -/
theorem burn_paid_once {relayers : List Address} {start : Chain} {actions : List Action}
    (deployed : Initialized env relayers start)
    (unpaid : Run.Along (step env) UnpaidBurns start actions) :
    OnePayout (run env start actions) := by
  have kept : (run env start actions).BurnsMarked := by
    refine Run.invariant Chain.BurnsMarked ?_ deployed.burnsMarked unpaid
    intro chain action unpaid kept
    refine burnsMarked_invariant.step action ?_ kept
    rintro call rfl tallies
    exact unpaid
  exact kept.once

end Runs

/-- Relayer 1 proposes to pay 0.4 ETH for burn 77. -/
def proposePart (id : Bytes32) (recipient : Address) : Action :=
  .plain 1 (.proposeWithdrawal id recipient 0 (4 * 10 ^ 17) 77 500)

def challengePeriod : Action := .advance 50400 CHALLENGE_PERIOD

def processOnce : List Action :=
  [depositOne, proposePart 1 5, challengePeriod, .plain 2 (.processWithdrawal 1)]

def processTwice : List Action :=
  [depositOne, proposePart 1 5, proposePart 2 6, challengePeriod, .plain 2 (.processWithdrawal 1),
    .plain 2 (.processWithdrawal 2)]

theorem burn_paid_once_single :
    ∃ start, deployed [1] = .ok start ∧ OnePayout (run mainnet start processOnce) ∧
      ((run mainnet start processOnce).bridge.withdrawalProposals 1).processed = true := by
  refine ⟨_, rfl, burn_paid_once (deployed_initialized [1] rfl) ?_, ?_⟩
  · decide +kernel
  · decide +kernel

theorem burn_paid_twice :
    ∃ start, deployed [1] = .ok start ∧ ¬OnePayout (run mainnet start processTwice) := by
  refine ⟨_, rfl, fun once => ?_⟩
  have same := once 1 2 (by decide +kernel) (by decide +kernel) (by decide +kernel)
  revert same
  decide

end AethelredBridge
