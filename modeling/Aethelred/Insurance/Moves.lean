import Aethelred.Insurance.Keeper

/- What each call of the insurance keeper leaves of its records. -/
namespace Insurance.Keeper

open Go Attempt List

theorem formatUint_inj {a b : Nat} (same : Strconv.formatUint a = Strconv.formatUint b) : a = b := by
  have digits : Nat.toDigits 10 a = Nat.toDigits 10 b := by
    exact String.ofList_injective same
  have read := Strconv.parseDigits_toDigits a
  rw [digits, Strconv.parseDigits_toDigits] at read
  exact (Option.some.inj read).symm

theorem escrowName_inj {a b : Nat} (same : escrowName a = escrowName b) : a = b :=
  formatUint_inj ((String.append_right_inj _).mp same)

theorem appealName_inj {a b : Nat} (same : appealName a = appealName b) : a = b :=
  formatUint_inj ((String.append_right_inj _).mp same)

/-- What `CastTribunalVote` checks before it records a vote. -/
structure Ballot (k : Keeper) (appealID voter : String) (nonMalicious : Bool)
    (appeal : AppealRecord) (vote : TribunalVote) : Prop where
  named : vote.appealID = Strings.trimSpace appealID ∧ vote.voter = Strings.trimSpace voter
  given : Strings.trimSpace appealID ≠ "" ∧ Strings.trimSpace voter ≠ ""
  kind : vote.nonMalicious = nonMalicious
  found : k.appeals.lookup vote.appealID = some appeal
  pending : appeal.status = .pending
  member : vote.voter ∈ appeal.tribunal
  first : k.appealVotes.lookup (tribunalVoteKey vote.appealID vote.voter) = none

/-- The end of a vote: the appeal with the new tally is stored, and the escrow follows a majority. -/
inductive Counted (block : Block) (k : Keeper) (appeal : AppealRecord) : Keeper → Prop
  | approved (escrow : EscrowRecord) (majority : TribunalMajority ≤ appeal.votesFor)
      (found : k.escrows.lookup appeal.escrowID = some escrow) :
      Counted block k appeal
        (setAppeal (k.setEscrow { escrow with status := .reimbursed })
          { appeal with status := .approved, resolvedAtUnix := block.unix })
  | rejected (escrow : EscrowRecord) (short : ¬TribunalMajority ≤ appeal.votesFor)
      (majority : TribunalMajority ≤ appeal.votesAgainst)
      (found : k.escrows.lookup appeal.escrowID = some escrow) :
      Counted block k appeal
        (setAppeal (k.setEscrow { escrow with status := .forfeited })
          { appeal with status := .rejected, resolvedAtUnix := block.unix })
  | pending (short : ¬TribunalMajority ≤ appeal.votesFor)
      (short' : ¬TribunalMajority ≤ appeal.votesAgainst) :
      Counted block k appeal (k.setAppeal appeal)
  | orphaned (missing : k.escrows.lookup appeal.escrowID = none) : Counted block k appeal k

/-- What a call can do to the records. -/
inductive Moved (k : Keeper) : Block × Insurance.Call → Keeper → Prop
  | unchanged (call : Block × Insurance.Call) : Moved k call k
  | escrowed (block : Block) (validatorAddr : String) (amount : Int) (reason evidence : String)
      (record : EscrowRecord) (named : record.id = escrowName ((k.escrowCount + 1) % 2 ^ 64))
      (held : record.status = .held) (unappealed : record.appealID = "") :
      Moved k (block, .escrowFraudSlash validatorAddr amount reason evidence)
        (setEscrow { k with escrowCount := (k.escrowCount + 1) % 2 ^ 64 } record)
  | appealed (block : Block) (source : Option ValidatorSource) (msg : MsgSubmitAppeal)
      (escrow : EscrowRecord) (appeal : AppealRecord)
      (found : k.escrows.lookup msg.escrowID = some escrow) (held : escrow.status = .held)
      (unappealed : escrow.appealID = "")
      (named : appeal.id = appealName ((k.appealCount + 1) % 2 ^ 64))
      (against : appeal.escrowID = msg.escrowID) (pending : appeal.status = .pending)
      (votesFor : appeal.votesFor = 0) (votesAgainst : appeal.votesAgainst = 0) :
      Moved k (block, .submitAppeal source msg)
        (setEscrow (setAppeal { k with appealCount := (k.appealCount + 1) % 2 ^ 64 } appeal)
          { escrow with appealID := appeal.id })
  | voted (block : Block) (appealID voter : String) (nonMalicious : Bool) (notes : String)
      (appeal : AppealRecord) (vote : TribunalVote) (after : Keeper)
      (ballot : Ballot k appealID voter nonMalicious appeal vote)
      (counted : Counted block
        (k.setAppealVote (tribunalVoteKey vote.appealID vote.voter) vote)
        (appeal.withVote nonMalicious) after) :
      Moved k (block, .castTribunalVote appealID voter nonMalicious notes) after
  | expired (block : Block) :
      Moved k (block, .processEscrowExpiries) (processEscrowExpiries block k).2

section Inversions

variable {k : Keeper}

theorem getEscrow_apply (escrowID : String) (k : Keeper) :
    (∃ escrow, k.escrows.lookup escrowID = some escrow ∧ getEscrow escrowID k = (.ok escrow, k)) ∨
      k.escrows.lookup escrowID = none ∧ ∃ reason, getEscrow escrowID k = (.error reason, k) := by
  unfold getEscrow
  rw [read_bind]
  cases k.escrows.lookup escrowID with
  | none => exact Or.inr ⟨rfl, _, rfl⟩
  | some escrow => exact Or.inl ⟨escrow, rfl, rfl⟩

theorem moved_escrowFraudSlash (block : Block) (validatorAddr : String) (amount : Int)
    (reason evidenceHash : String) :
    Moved k (block, .escrowFraudSlash validatorAddr amount reason evidenceHash)
      (escrowFraudSlash block validatorAddr amount reason evidenceHash k).2 := by
  unfold escrowFraudSlash
  rw [ensure_bind]
  split
  · rw [ensure_bind]
    split
    · rw [ensure_bind]
      split
      · exact .escrowed _ _ _ _ _ _ rfl rfl rfl
      · exact .unchanged _
    · exact .unchanged _
  · exact .unchanged _

section

variable (sha256 : Bytes → Fin (2 ^ 256)) (source : Option ValidatorSource) (block : Block)
include sha256 source block

theorem selectTribunal_state (appellant anchor : String) (k : Keeper) :
    (selectTribunal sha256 source block appellant anchor k).2 = k := by
  have same : Moves Eq (selectTribunal sha256 source block appellant anchor) := by
    unfold selectTribunal
    refine Moves.bind (R := Eq) Eq.trans (moves_okOr (fun _ => rfl) _ _)
      fun source => ?_
    refine Moves.bind (R := Eq) Eq.trans (moves_ofExcept (fun _ => rfl) _)
      fun validators => ?_
    refine Moves.bind (R := Eq) Eq.trans (moves_read fun _ => rfl)
      fun k => ?_
    refine Moves.bind (R := Eq) Eq.trans (moves_ensure (fun _ => rfl) _ _)
      fun _ => ?_
    exact moves_pure (fun _ => rfl) _
  exact (same k).symm

/-- An appeal files one record or nothing. -/
theorem moved_submitAppeal (msg : MsgSubmitAppeal) :
    Moved k (block, .submitAppeal source msg) (submitAppeal sha256 source block msg k).2 := by
  unfold submitAppeal
  rw [ofExcept_bind]
  cases msg.validateBasic with
  | error reason => exact .unchanged _
  | ok _ =>
    dsimp only
    rcases getEscrow_apply msg.escrowID k with ⟨escrow, found, done⟩ | ⟨-, reason, failed⟩
    · rw [bind_of_ok done, ensure_bind]
      split
      · rw [ensure_bind]
        split
        next held =>
          rw [ensure_bind]
          split
          next unappealed =>
            have same := selectTribunal_state sha256 source block msg.validatorAddress
              msg.escrowID k
            cases chosen : selectTribunal sha256 source block msg.validatorAddress
                msg.escrowID k with
            | mk outcome after =>
              rw [chosen] at same
              obtain rfl : after = k := same
              cases outcome with
              | error reason =>
                rw [bind_of_error chosen]
                exact .unchanged _
              | ok tribunal =>
                rw [bind_of_ok chosen]
                exact .appealed block source msg escrow
                  { id := appealName ((after.appealCount + 1) % 2 ^ 64)
                    escrowID := msg.escrowID
                    validatorAddress := msg.validatorAddress
                    teeLogURI := msg.teeLogURI
                    evidenceHash := msg.evidenceHash
                    tribunal
                    submittedAtUnix := block.unix
                    status := .pending }
                  found held unappealed rfl rfl rfl rfl rfl
          next => exact .unchanged _
        next => exact .unchanged _
      · exact .unchanged _
    · rw [bind_of_error failed]
      exact .unchanged _

end

variable (block : Block)

/-- A counted vote may decide the appeal. -/
theorem counted_of_vote (k : Keeper) (appeal : AppealRecord) :
    Counted block k appeal
      ((if TribunalMajority ≤ appeal.votesFor then do
          resolveEscrow appeal.escrowID .reimbursed
          modify fun k => k.setAppeal
            { appeal with status := .approved, resolvedAtUnix := block.unix }
        else if TribunalMajority ≤ appeal.votesAgainst then do
          resolveEscrow appeal.escrowID .forfeited
          modify fun k => k.setAppeal
            { appeal with status := .rejected, resolvedAtUnix := block.unix }
        else modify fun k => k.setAppeal appeal : Attempt Keeper String Unit) k).2 := by
  have resolve : ∀ status, (∃ escrow, k.escrows.lookup appeal.escrowID = some escrow ∧
      resolveEscrow appeal.escrowID status k = (.ok (), k.setEscrow { escrow with status })) ∨
      k.escrows.lookup appeal.escrowID = none ∧
        ∃ reason, resolveEscrow appeal.escrowID status k = (.error reason, k) := by
    intro status
    unfold resolveEscrow
    rcases getEscrow_apply appeal.escrowID k with ⟨escrow, found, done⟩ | ⟨missing, reason, failed⟩
    · exact Or.inl ⟨escrow, found, bind_of_ok done⟩
    · exact Or.inr ⟨missing, reason, bind_of_error failed⟩
  split
  next majority =>
    rcases resolve .reimbursed with ⟨escrow, found, done⟩ | ⟨missing, reason, failed⟩
    · rw [bind_of_ok done]
      exact .approved escrow majority found
    · rw [bind_of_error failed]
      exact .orphaned missing
  next short =>
    split
    next majority =>
      rcases resolve .forfeited with ⟨escrow, found, done⟩ | ⟨missing, reason, failed⟩
      · rw [bind_of_ok done]
        exact .rejected escrow short majority found
      · rw [bind_of_error failed]
        exact .orphaned missing
    next short' => exact .pending short short'

theorem getAppeal_ok {appealID : String} {appeal : AppealRecord}
    (found : k.appeals.lookup appealID = some appeal) : getAppeal appealID k = (.ok appeal, k) := by
  unfold getAppeal
  rw [read_bind, found]
  rfl

theorem counted_of_ballot {appealID voter : String} {nonMalicious : Bool}
    {notes : String} {appeal : AppealRecord} {vote : TribunalVote}
    (ballot : Ballot k appealID voter nonMalicious appeal vote)
    (dated : vote.submittedAtUnix = block.unix) (noted : vote.notes = Strings.trimSpace notes) :
    Counted block (k.setAppealVote (tribunalVoteKey vote.appealID vote.voter) vote)
      (appeal.withVote nonMalicious)
      (castTribunalVote block appealID voter nonMalicious notes k).2 := by
  obtain ⟨_, _, _, _, _⟩ := vote
  obtain ⟨⟨rfl, rfl⟩, given, rfl, found, pending, member, first⟩ := ballot
  obtain rfl := dated
  obtain rfl := noted
  unfold castTribunalVote
  dsimp only
  rw [ensure_bind, if_pos given, bind_of_ok (getAppeal_ok found), ensure_bind, if_pos pending,
    ensure_bind, if_pos member, read_bind, ensure_bind, if_pos first, modify_bind]
  exact counted_of_vote _ _ _

/-- A vote is filed and counted, or nothing happens. -/
theorem moved_castTribunalVote (appealID voter : String) (nonMalicious : Bool) (notes : String) :
    Moved k (block, .castTribunalVote appealID voter nonMalicious notes)
      (castTribunalVote block appealID voter nonMalicious notes k).2 := by
  by_cases accepted : ∃ appeal, Ballot k appealID voter nonMalicious appeal
      { appealID := Strings.trimSpace appealID
        voter := Strings.trimSpace voter
        nonMalicious
        notes := Strings.trimSpace notes
        submittedAtUnix := block.unix }
  · obtain ⟨appeal, ballot⟩ := accepted
    exact .voted _ _ _ _ _ appeal _ _ ballot (counted_of_ballot _ ballot rfl rfl)
  · have same : (castTribunalVote block appealID voter nonMalicious notes k).2 = k := by
      unfold castTribunalVote
      dsimp only
      rw [ensure_bind]
      split
      next given =>
        cases found : k.appeals.lookup (Strings.trimSpace appealID) with
        | none =>
          obtain ⟨reason, failed⟩ : ∃ reason, getAppeal (Strings.trimSpace appealID) k =
              (.error reason, k) := by
            unfold getAppeal
            rw [read_bind, found]
            exact ⟨_, rfl⟩
          rw [bind_of_error failed]
        | some appeal =>
          rw [bind_of_ok (getAppeal_ok found), ensure_bind]
          split
          next pending =>
            rw [ensure_bind]
            split
            next member =>
              rw [read_bind, ensure_bind]
              split
              next first =>
                exact absurd ⟨appeal, ⟨rfl, rfl⟩, given, rfl, found, pending, member, first⟩
                  accepted
              next => rfl
            next => rfl
          next => rfl
      next => rfl
    rw [same]
    exact .unchanged _

theorem step_moved (sha256 : Bytes → Fin (2 ^ 256)) (k : Keeper) (call : Block × Insurance.Call) :
    Moved k call (k.step sha256 call) := by
  obtain ⟨block, call⟩ := call
  cases call with
  | escrowFraudSlash validatorAddr amount reason evidenceHash =>
    exact moved_escrowFraudSlash block validatorAddr amount reason evidenceHash
  | submitAppeal source msg => exact moved_submitAppeal sha256 source block msg
  | castTribunalVote appealID voter nonMalicious notes =>
    exact moved_castTribunalVote block appealID voter nonMalicious notes
  | processEscrowExpiries => exact .expired block

end Inversions

section Tribunals

/-- Whom a tribunal on the appellant may have as a member. -/
def Seated (slashed : String → Bool) (appellant : String) (k : Keeper) (member : String) : Prop :=
  member ≠ "" ∧ member ≠ appellant ∧ slashed member = false ∧
    k.validatorHasHeldEscrow member = false

theorem mem_eligible {source : ValidatorSource} {appellant : String} {k : Keeper}
    (listed filtered : List String) (nodup : filtered.Nodup) :
    let drawn := listed.foldl (fun filtered validator =>
      let validator := Strings.trimSpace validator
      if validator = "" ∨ validator = appellant ∨ validator ∈ filtered ∨
          source.isValidatorSlashed validator ∨ k.validatorHasHeldEscrow validator then filtered
      else filtered ++ [validator]) filtered
    drawn.Nodup ∧ ∀ member, member ∈ drawn ↔ member ∈ filtered ∨
      Seated source.isValidatorSlashed appellant k member ∧ member ∈ listed.map Strings.trimSpace := by
  induction listed generalizing filtered with
  | nil => simp [nodup]
  | cons first rest ih =>
    rw [foldl_cons]
    unfold Seated at *
    dsimp only
    split
    next out =>
      refine ⟨(ih filtered nodup).1, fun member => ((ih filtered nodup).2 member).trans ?_⟩
      grind
    next fits =>
      have longer : (filtered ++ [Strings.trimSpace first]).Nodup := by grind
      refine ⟨(ih _ longer).1, fun member => ((ih _ longer).2 member).trans ?_⟩
      grind

/-- A tribunal is five different validators, each fit to judge the appellant, and every order in
which the source lists the validators gives the same one. -/
theorem tribunal_drawn (sha256 : Bytes → Fin (2 ^ 256)) (isValidatorSlashed : String → Bool)
    (block : Block) (appellant anchor : String) (k : Keeper) {validators reordered : List String}
    (same : validators.Perm reordered) :
    let drawn := fun listed => selectTribunal sha256 (some ⟨.ok listed, isValidatorSlashed⟩) block
      appellant anchor k
    drawn reordered = drawn validators ∧ ∀ tribunal, (drawn validators).1 = .ok tribunal →
      tribunal.length = TribunalSize ∧ tribunal.Nodup ∧ ∀ member ∈ tribunal,
        member ∈ validators.map Strings.trimSpace ∧
          Seated isValidatorSlashed appellant k member := by
  have members := fun listed : List String =>
    @mem_eligible ⟨.ok listed, isValidatorSlashed⟩ appellant k listed [] nodup_nil
  have perm : (eligible ⟨.ok reordered, isValidatorSlashed⟩ appellant k reordered).Perm
      (eligible ⟨.ok validators, isValidatorSlashed⟩ appellant k validators) := by
    refine (perm_ext_iff_of_nodup (members _).1 (members _).1).mpr fun member => ?_
    refine ((members reordered).2 member).trans (.trans ?_ ((members validators).2 member).symm)
    rw [(same.map _).mem_iff]
  have sorted := ((perm_insertionSort (α := String) (· ≤ ·) _).trans
    (perm.trans (perm_insertionSort _ _).symm)).eq_of_pairwise'
      (pairwise_insertionSort _ _) (pairwise_insertionSort _ _)
  simp only [selectTribunal, okOr_bind, ofExcept_bind, read_bind, ensure_bind]
  refine ⟨by rw [perm.length_eq, sorted], fun tribunal done => ?_⟩
  split at done
  next enough =>
    obtain rfl := Except.ok.inj done
    refine ⟨?_, ?_, fun member taken => ?_⟩
    · rw [length_take, length_insertionSort, length_insertionSort]
      exact Nat.min_eq_left enough
    · refine (take_sublist ..).nodup ?_
      rw [(perm_insertionSort _ _).nodup_iff, (perm_insertionSort _ _).nodup_iff]
      exact (members validators).1
    · have drawn := mem_of_mem_take taken
      rw [mem_insertionSort, mem_insertionSort] at drawn
      exact (((members validators).2 member).mp drawn).elim nofun And.symm
  next => exact nomatch done

theorem tribunal_drawn_swapped :
    let drawn := fun listed => selectTribunal (fun bytes => Fin.ofNat _ bytes.length)
      (some ⟨.ok listed, fun _ => false⟩) ⟨10, 1000⟩ "val-1" "escrow-1" {}
    drawn ["b", " a", "c", "d", "e"] = drawn [" a", "b", "c", "d", "e"] :=
  (tribunal_drawn _ _ _ _ _ _ (.swap _ _ _)).1

end Tribunals

end Insurance.Keeper
