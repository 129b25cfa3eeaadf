import Aethelred.Relayer.Dockets

/- What the handlers, the listeners, the votes and the timeout sweep write to the two dockets. -/
namespace Relayer

open Go Docket Function List Except Option BridgeStorage EventProcessor

/-- Proposals and pending items are linked. -/
structure Sound (state : BridgeStorage) : Prop where
  apart : state.Apart
  mint : Linked mintVocabulary state.mintDocket
  withdrawal : Linked withdrawalVocabulary state.withdrawalDocket

/-- The later storage is reached from the earlier one by writes to the dockets. -/
structure Progress (tame : Prop) (state next : BridgeStorage) : Prop where
  apart : next.Apart
  mint : Writes mintVocabulary tame state.mintDocket next.mintDocket
  withdrawal : Writes withdrawalVocabulary tame state.withdrawalDocket next.withdrawalDocket

variable {tame : Prop} {host : Host} {now : UInt64} {state middle next : BridgeStorage}

theorem Progress.refl (apart : state.Apart) : Progress tame state state :=
  ⟨apart, .refl, .refl⟩

theorem Progress.trans (first : Progress tame state middle) (second : Progress tame middle next) :
    Progress tame state next :=
  ⟨second.apart, first.mint.trans second.mint, first.withdrawal.trans second.withdrawal⟩

theorem Progress.sound (progress : Progress tame state next) (sound : Sound state) : Sound next :=
  ⟨progress.apart, sound.mint.writes progress.mint, sound.withdrawal.writes progress.withdrawal⟩

theorem sound_empty : Sound {} where
  apart := ⟨fun _ => .inl rfl, fun _ => .inl rfl⟩
  mint := .of_empty (fun _ => rfl) (fun _ => rfl) fun _ => rfl
  withdrawal := .of_empty (fun _ => rfl) (fun _ => rfl) fun _ => rfl

section Deposits

variable {deposit : EthereumDeposit}

theorem storeDeposit_progress (apart : state.Apart)
    (fresh : state.getDeposit deposit.depositId = none) :
    Progress tame state (state.storeDeposit deposit) where
  apart := ⟨apart_insert_erase apart.deposits, apart.burns⟩
  mint := by
    rw [mintDocket_storeDeposit]
    refine .single (.file deposit _ fresh fun _ closed => ?_)
    rw [show state.getDepositStatus deposit.depositId = some .Completed from closed]
    rfl
  withdrawal := .refl

theorem storePendingDeposit_progress (sound : Sound state)
    (fresh : state.getDeposit deposit.depositId = none) :
    Progress tame state (state.storePendingDeposit deposit) where
  apart := ⟨apart_insert sound.apart.deposits (or_eq_none_iff.mp fresh).1,
    sound.apart.burns⟩
  mint := by
    rw [mintDocket_storePendingDeposit fresh]
    exact .single (.file deposit _ fresh fun _ closed =>
      absurd fresh (sound.mint.known trivial _ closed))
  withdrawal := .refl

theorem updateDepositStatus_progress (apart : state.Apart) {id : Hash} {status : DepositStatus}
    (known : status = .Completed → state.getDeposit id ≠ none)
    (spared : tame → state.getDepositStatus id = some .Completed → status = .Completed) :
    Progress tame state (state.updateDepositStatus id status) where
  apart := apart.updateDepositStatus id status
  mint := by
    rw [mintDocket_updateDepositStatus apart]
    exact .single (.mark id status (fun _ => known) spared)
  withdrawal := by rw [withdrawalDocket_updateDepositStatus]

theorem storeMintProposal_progress (apart : state.Apart) {proposal : MintProposal}
    (found : state.getDeposit proposal.deposit.depositId = some proposal.deposit)
    (voting : proposal.status = .Voting)
    (beyond : tame → ∀ old, state.getMintProposal proposal.proposalId = some old →
      old.status.isFinal = false) : Progress tame state (state.storeMintProposal proposal) where
  apart := ⟨apart.deposits, apart.burns⟩
  mint := by
    rw [mintDocket_storeMintProposal]
    refine .single (.lodge proposal found ?_ fun calm old lodged => ?_)
    · intro completed
      rw [show proposal.status = .Completed from completed] at voting
      contradiction
    · exact Bool.eq_false_iff.mp (beyond calm old lodged)
  withdrawal := .refl

theorem updateMintProposalStatus_progress (sound : Sound state) {id : Hash}
    {status : MintProposalStatus}
    (stays : tame → ∀ old, state.getMintProposal id = some old → old.status.isFinal = true →
      status.isFinal = true)
    (kept : tame → ∀ old, state.getMintProposal id = some old → old.status = .Completed →
      status = .Completed)
    (honest : status = .Completed → ∀ old, state.getMintProposal id = some old →
      state.getDepositStatus old.deposit.depositId = some .Completed) :
    Progress tame state (state.updateMintProposalStatus now id status) := by
  cases found : state.getMintProposal id with
  | none =>
    rw [updateMintProposalStatus_of_none found]
    exact .refl sound.apart
  | some old =>
    have named : old.proposalId = id := sound.mint.named id old found
    refine ⟨sound.apart.updateMintProposalStatus now id status, ?_, ?_⟩
    · rw [mintDocket_updateMintProposalStatus found, ← named]
      refine .single (.advance (v := mintVocabulary) old { old with status, updatedAt := now }
        ?_ rfl (fun calm => stays calm old found) (fun calm => kept calm old found)
        fun completed => honest completed old found)
      exact named.symm ▸ found
    · rw [withdrawalDocket_updateMintProposalStatus]

theorem handleEthDeposit_progress (sound : Sound state)
    (done : handleEthDeposit state deposit = .ok next) :
    Progress tame state next := by
  unfold handleEthDeposit at done
  obtain ⟨_, valid, done⟩ := bind_eq_ok.mp done
  obtain rfl := pure_eq_ok.mp done
  apply storePendingDeposit_progress sound
  simp only [validateDeposit, ite_error_eq_ok] at valid
  have absent := valid.2.2.1
  rwa [hasDeposit_eq, not_isSome_iff_eq_none] at absent

/-- A finalized deposit moves its proposal on. -/
theorem handleEthDepositFinalized_progress (sound : Sound state) {id : Hash}
    (calm : tame → ∀ deposit proposer, state.getDeposit id = some deposit →
      host.config.identity.aethelredAddressBytes = .ok proposer →
      state.getDepositStatus id ≠ some .Completed ∧
        ∀ old, state.getMintProposal (deposit.generateId host.sha256) = some old →
          old.status.isFinal = false)
    (done : handleEthDepositFinalized host now state id = .ok next) :
    Progress tame state next := by
  unfold handleEthDepositFinalized at done
  split at done
  · contradiction
  next deposit found =>
    obtain ⟨proposer, configured, done⟩ := bind_eq_ok.mp done
    obtain rfl := pure_eq_ok.mp done
    have keyed : deposit.depositId = id := sound.mint.keyed id deposit found
    have confirmed : Progress tame state (state.updateDepositStatus id .Confirmed) :=
      updateDepositStatus_progress sound.apart (fun completed => nomatch completed)
        fun quiet completed => absurd completed (calm quiet deposit proposer found configured).1
    have view := mintDocket_updateDepositStatus sound.apart id .Confirmed
    have deposits := congrArg Docket.record view
    have proposals := congrArg Docket.proposal view
    refine confirmed.trans (storeMintProposal_progress confirmed.apart ?_ rfl ?_)
    · have stored := congrFun deposits deposit.depositId
      exact stored.trans (by rw [keyed]; exact found)
    · intro quiet old lodged
      refine (calm quiet deposit proposer found configured).2 old ?_
      exact (congrFun proposals _).symm.trans lodged

theorem handleEthReorg_progress {affected : List Hash} :
    ∀ {state : BridgeStorage}, state.Apart →
      (tame → ∀ id ∈ affected, state.getDepositStatus id ≠ some .Completed) →
      Progress tame state (handleEthReorg state affected) := by
  induction affected with
  | nil => exact fun apart _ => .refl apart
  | cons id rest ih =>
    intro state apart calm
    have first : Progress tame state (state.updateDepositStatus id .Pending) :=
      updateDepositStatus_progress apart (fun completed => nomatch completed)
        fun quiet completed => absurd completed (calm quiet id (mem_cons_self ..))
    refine first.trans (ih first.apart fun quiet other member => ?_)
    have statuses : (state.updateDepositStatus id .Pending).getDepositStatus =
        update state.getDepositStatus id (some .Pending) :=
      congrArg Docket.status (mintDocket_updateDepositStatus apart id .Pending)
    rw [statuses, update_apply]
    split
    · exact fun pending => nomatch pending
    · exact calm quiet other (mem_cons_of_mem _ member)

/-- A completed mint moves its proposal on. -/
theorem handleAethelredMintCompleted_progress (sound : Sound state) (id : Hash) :
    Progress tame state (handleAethelredMintCompleted now state id) := by
  unfold handleAethelredMintCompleted
  cases found : state.getMintProposal id with
  | none =>
    simp only [updateMintProposalStatus_of_none found, found]
    exact .refl sound.apart
  | some old =>
    have named : old.proposalId = id := sound.mint.named id old found
    have view := mintDocket_updateMintProposalStatus found now .Completed
    have apart := sound.apart.updateMintProposalStatus now id .Completed
    have deposits : (state.updateMintProposalStatus now id .Completed).getDeposit =
      state.getDeposit := congrArg Docket.record view
    have statuses : (state.updateMintProposalStatus now id .Completed).getDepositStatus =
      state.getDepositStatus := congrArg Docket.status view
    have proposals : (state.updateMintProposalStatus now id .Completed).getMintProposal =
        update state.getMintProposal id
          (some { old with status := .Completed, updatedAt := now }) :=
      congrArg Docket.proposal view
    simp only [proposals, update_self]
    refine ⟨apart.updateDepositStatus _ _, ?_, ?_⟩
    · rw [mintDocket_updateDepositStatus apart, deposits, statuses, proposals]
      rw [← named]
      refine sound.mint.settle (p := old)
        (q := { old with status := .Completed, updatedAt := now }) ?_ rfl rfl
      exact named.symm ▸ found
    · rw [withdrawalDocket_updateDepositStatus,
        withdrawalDocket_updateMintProposalStatus]

/-- Expiry moves proposals on. -/
theorem expireMints_progress {timeout : UInt64} {proposals : List MintProposal} :
    ∀ {state : BridgeStorage}, Sound state →
      (tame → ∀ proposal ∈ proposals, timeout < now - proposal.createdAt →
        ∀ old, state.getMintProposal proposal.proposalId = some old → old.status ≠ .Completed) →
      Progress tame state (proposals.foldl (fun state proposal =>
        if timeout < now - proposal.createdAt then
          state.updateMintProposalStatus now proposal.proposalId .Expired
        else state) state) := by
  induction proposals with
  | nil => exact fun sound _ => .refl sound.apart
  | cons proposal rest ih =>
    intro state sound calm
    rw [foldl_cons]
    split
    next late =>
      have first : Progress tame state
          (state.updateMintProposalStatus now proposal.proposalId .Expired) :=
        updateMintProposalStatus_progress sound (fun _ _ _ _ => rfl)
          (fun quiet old found completed =>
            absurd completed (calm quiet proposal (mem_cons_self ..) late old found))
          fun completed => nomatch completed
      refine first.trans (ih (first.sound sound) fun quiet other member lateToo old found => ?_)
      cases before : state.getMintProposal proposal.proposalId with
      | none =>
        rw [updateMintProposalStatus_of_none before] at found
        exact calm quiet other (mem_cons_of_mem _ member) lateToo old found
      | some written =>
        have proposals := congrArg Docket.proposal
          (mintDocket_updateMintProposalStatus before now .Expired)
        rcases Docket.update_eq_some ((congrFun proposals _).symm.trans found) with
          ⟨-, rfl⟩ | ⟨-, untouched⟩
        · exact fun completed => nomatch completed
        · exact calm quiet other (mem_cons_of_mem _ member) lateToo old untouched
    next =>
      exact ih sound fun quiet other member =>
        calm quiet other (mem_cons_of_mem _ member)

end Deposits

theorem storeBurn_progress (apart : state.Apart) {burn : AethelredBurn}
    (fresh : state.getBurn burn.burnId = none) : Progress tame state (state.storeBurn burn) where
  apart := ⟨apart.deposits, apart_insert_erase apart.burns⟩
  mint := .refl
  withdrawal := by
    rw [withdrawalDocket_storeBurn]
    refine .single (.file burn _ fresh fun _ closed => ?_)
    rw [show state.getBurnStatus burn.burnId = some .Completed from closed]
    rfl

theorem handleAethelredBurn_progress (sound : Sound state) {burn : AethelredBurn}
    (calm : tame → validateBurn state burn = .ok () →
      state.getBurnStatus burn.burnId ≠ some .Completed)
    (done : handleAethelredBurn state burn = .ok next) :
    Progress tame state next := by
  unfold handleAethelredBurn at done
  obtain ⟨_, valid, done⟩ := bind_eq_ok.mp done
  obtain rfl := pure_eq_ok.mp done
  have fresh : state.getBurn burn.burnId = none := by
    have checks := valid
    simp only [validateBurn, ite_error_eq_ok] at checks
    have absent := checks.2.2.1
    rwa [hasBurn_eq, not_isSome_iff_eq_none] at absent
  refine ⟨⟨sound.apart.deposits, apart_insert sound.apart.burns
    (or_eq_none_iff.mp fresh).1⟩, .refl, ?_⟩
  rw [withdrawalDocket_storePendingBurn fresh]
  exact .single (.file burn _ fresh fun quiet closed => absurd closed (calm quiet valid))

theorem updateBurnStatus_progress (apart : state.Apart) {id : Hash} {status : WithdrawalStatus}
    (spared : tame → state.getBurnStatus id = some .Completed → status = .Completed) :
    Progress tame state (state.updateBurnStatus id status) where
  apart := apart.updateBurnStatus id status
  mint := by rw [mintDocket_updateBurnStatus]
  withdrawal := by
    rw [withdrawalDocket_updateBurnStatus apart]
    exact .single (.mark id status (fun strict => strict.elim) spared)

theorem handleEthWithdrawalProcessed_progress (apart : state.Apart) (id : Hash) :
    Progress tame state (handleEthWithdrawalProcessed state id) where
  apart := ⟨apart.deposits, apart.burns⟩
  mint := .refl
  withdrawal := by
    unfold handleEthWithdrawalProcessed
    rw [withdrawalDocket_updateWithdrawalStatus]
    exact .single (.mark id _ (fun strict => strict.elim) fun _ _ => rfl)

/-- A finalized burn moves its proposal on. -/
theorem handleAethelredBurnFinalized_progress (sound : Sound state) {id : Hash}
    (calm : tame → ∀ burn proposer, state.getBurn id = some burn →
      host.config.identity.aethelredAddressBytes = .ok proposer →
      state.getBurnStatus id ≠ some .Completed ∧
        ∀ old, state.getWithdrawalProposal id = some old → old.status.isFinal = false)
    (done : handleAethelredBurnFinalized host now state id = .ok next) :
    Progress tame state next := by
  unfold handleAethelredBurnFinalized at done
  split at done
  · contradiction
  next burn found =>
    obtain ⟨proposer, configured, done⟩ := bind_eq_ok.mp done
    obtain rfl := pure_eq_ok.mp done
    have keyed : burn.burnId = id := sound.withdrawal.keyed id burn found
    have confirmed : Progress tame state (state.updateBurnStatus id .Confirmed) :=
      updateBurnStatus_progress sound.apart
        fun quiet completed => absurd completed (calm quiet burn proposer found configured).1
    have view := withdrawalDocket_updateBurnStatus sound.apart id .Confirmed
    have burns := congrArg Docket.record view
    have proposals := congrArg Docket.proposal view
    refine confirmed.trans ⟨⟨confirmed.apart.deposits, confirmed.apart.burns⟩, .refl, ?_⟩
    rw [withdrawalDocket_storeWithdrawalProposal]
    refine .single (.lodge (withdrawalProposal now id burn proposer) ?_
      (fun carried => carried) ?_)
    · exact (congrFun burns burn.burnId).trans (by rw [keyed]; exact found)
    · intro quiet old lodged
      refine Bool.eq_false_iff.mp ((calm quiet burn proposer found configured).2 old ?_)
      exact (congrFun proposals _).symm.trans lodged

theorem updateWithdrawalProposalStatus_progress (sound : Sound state) {id : Hash}
    {status : WithdrawalProposalStatus}
    (stays : tame → ∀ old, state.getWithdrawalProposal id = some old →
      old.status.isFinal = true → status.isFinal = true) :
    Progress tame state (state.updateWithdrawalProposalStatus now id status) := by
  cases found : state.getWithdrawalProposal id with
  | none =>
    simp only [getWithdrawalProposal] at found
    simp only [updateWithdrawalProposalStatus, found]
    exact .refl sound.apart
  | some old =>
    have named : old.proposalId = id := sound.withdrawal.named id old found
    refine ⟨sound.apart.updateWithdrawalProposalStatus now id status, ?_, ?_⟩
    · unfold updateWithdrawalProposalStatus
      split <;> exact .refl
    · rw [withdrawalDocket_updateWithdrawalProposalStatus found, ← named]
      refine .single (.advance (v := withdrawalVocabulary) old
        { old with status, updatedAt := now } ?_ rfl (fun calm => stays calm old found)
        (fun _ carried => carried) False.elim)
      exact named.symm ▸ found

theorem expireWithdrawals_progress {timeout : UInt64} {proposals : List WithdrawalProposal} :
    ∀ {state : BridgeStorage}, Sound state →
      Progress tame state (proposals.foldl (fun state proposal =>
        if timeout < now - proposal.createdAt then
          state.updateWithdrawalProposalStatus now proposal.proposalId .Expired
        else state) state) := by
  induction proposals with
  | nil => exact fun sound => .refl sound.apart
  | cons proposal rest ih =>
    intro state sound
    rw [foldl_cons]
    split
    · have first : Progress tame state
          (state.updateWithdrawalProposalStatus now proposal.proposalId .Expired) :=
        updateWithdrawalProposalStatus_progress sound fun _ _ _ _ => rfl
      exact first.trans (ih (first.sound sound))
    · exact ih sound

theorem checkTimeouts_progress {config : ConsensusConfig} {mintOrder burnOrder : RangeOrder Hash}
    (sound : Sound state) (calm : tame → ∀ id proposal, state.getMintProposal id = some proposal →
      proposal.status = .Completed → ¬config.proposalTimeoutSecs < now - proposal.createdAt) :
    Progress tame state
      (ConsensusEngine.checkTimeouts config now mintOrder burnOrder state) := by
  have mints : Progress tame state
      ((state.getPendingMintProposals mintOrder).foldl (fun state proposal =>
        if config.proposalTimeoutSecs < now - proposal.createdAt then
          state.updateMintProposalStatus now proposal.proposalId .Expired
        else state) state) := by
    refine expireMints_progress sound fun quiet proposal member late old found => ?_
    obtain ⟨⟨id, stored⟩, entry, rfl⟩ := mem_map.mp member
    have lodged : state.getMintProposal id = some stored := Map.mem_entries.mp entry
    have named : stored.proposalId = id := sound.mint.named id stored lodged
    rw [named, lodged] at found
    obtain rfl := some.inj found
    exact fun completed => calm quiet id stored lodged completed late
  exact mints.trans (expireWithdrawals_progress (mints.sound sound))

end Relayer
