import Aethelred.Insurance.Moves

/- The records of escrows, appeals and votes over whole runs. They stay consistent whatever the
calls are; an escrow keeps its outcome unless a tribunal approves its appeal after the escrow
expired. -/
namespace Insurance.Keeper

open Go List Option

def recorded (k : Keeper) (appealID : String) (nonMalicious : Bool) : Nat :=
  k.appealVotes.countP fun vote =>
    decide (vote.appealID = appealID) && (vote.nonMalicious == nonMalicious)

/-- An escrow is reimbursed exactly when its appeal is approved, an approved appeal has a majority of
its tribunal, and the tallies are the numbers of votes. -/
structure Consistent (k : Keeper) : Prop where
  reimbursed : ∀ id escrow, k.escrows.lookup id = some escrow →
    (escrow.status = .reimbursed ↔
      ∃ appeal, k.appeals.lookup escrow.appealID = some appeal ∧ appeal.status = .approved)
  majority : ∀ id appeal, k.appeals.lookup id = some appeal → appeal.status = .approved →
    ∃ voters : List String, voters.Nodup ∧ voters ⊆ appeal.tribunal ∧
      TribunalMajority ≤ voters.length ∧ ∀ voter ∈ voters, ∃ vote,
        k.appealVotes.lookup (tribunalVoteKey id voter) = some vote ∧ vote.appealID = id ∧
          vote.voter = voter ∧ vote.nonMalicious = true
  tallies : ∀ id appeal, k.appeals.lookup id = some appeal →
    appeal.votesFor = k.recorded id true ∧ appeal.votesAgainst = k.recorded id false

/-- An escrow that is forfeited or reimbursed is so afterwards. -/
def KeepsOutcomes (k after : Keeper) : Prop :=
  ∀ id escrow, k.escrows.lookup id = some escrow → escrow.status ≠ .held →
    ∃ later, after.escrows.lookup id = some later ∧ later.status = escrow.status

theorem KeepsOutcomes.refl (k : Keeper) : KeepsOutcomes k k :=
  fun _ escrow found _ => ⟨escrow, found, rfl⟩

theorem KeepsOutcomes.trans {a b c : Keeper} (first : KeepsOutcomes a b)
    (second : KeepsOutcomes b c) : KeepsOutcomes a c := by
  intro id escrow found decided
  obtain ⟨later, found', same⟩ := first id escrow found decided
  obtain ⟨last, found'', same'⟩ := second id later found' (by rw [same]; exact decided)
  exact ⟨last, found'', same'.trans same⟩

/-- Escrows, appeals and votes are filed under names of their own and refer to each other. -/
structure Filed (k : Keeper) : Prop where
  escrowNamed : ∀ id escrow, k.escrows.lookup id = some escrow →
    escrow.id = id ∧ ∃ n ≤ k.escrowCount, id = escrowName n
  appealNamed : ∀ id appeal, k.appeals.lookup id = some appeal →
    appeal.id = id ∧ ∃ n ≤ k.appealCount, id = appealName n
  against : ∀ id appeal, k.appeals.lookup id = some appeal →
    ∃ escrow, k.escrows.lookup appeal.escrowID = some escrow ∧ escrow.appealID = id
  appealOf : ∀ id escrow, k.escrows.lookup id = some escrow →
    escrow.appealID = "" ∧ escrow.status ≠ .reimbursed ∨
      ∃ appeal, k.appeals.lookup escrow.appealID = some appeal ∧ appeal.escrowID = id ∧
        (escrow.status = .reimbursed ↔ appeal.status = .approved)
  voteNamed : ∀ key vote, k.appealVotes.lookup key = some vote →
    key = tribunalVoteKey vote.appealID vote.voter ∧
      ∃ appeal, k.appeals.lookup vote.appealID = some appeal ∧ vote.voter ∈ appeal.tribunal
  tallied : ∀ id appeal, k.appeals.lookup id = some appeal →
    appeal.votesFor = k.recorded id true ∧ appeal.votesAgainst = k.recorded id false
  approved : ∀ id appeal, k.appeals.lookup id = some appeal → appeal.status = .approved →
    TribunalMajority ≤ appeal.votesFor
  undecided : ∀ id appeal, k.appeals.lookup id = some appeal → appeal.status = .pending →
    ¬TribunalMajority ≤ appeal.votesFor

section Consistency

variable {k : Keeper}

theorem appealName_ne_empty (n : Nat) : appealName n ≠ "" := by
  intro empty
  have chars := congrArg String.toList empty
  rw [appealName, String.toList_append] at chars
  exact absurd (append_eq_nil_iff.mp chars).1 (by decide)

theorem Filed.lookup_empty (filed : Filed k) : k.appeals.lookup "" = none := by
  cases found : k.appeals.lookup "" with
  | none => rfl
  | some appeal =>
    obtain ⟨-, n, -, named⟩ := filed.appealNamed "" appeal found
    exact absurd named.symm (appealName_ne_empty n)

/-- The recorded votes of a kind are those of as many members. -/
theorem Filed.voters (filed : Filed k) {id : String} {appeal : AppealRecord}
    (found : k.appeals.lookup id = some appeal) (nonMalicious : Bool) :
    ∃ voters : List String, voters.Nodup ∧ voters ⊆ appeal.tribunal ∧
      voters.length = k.recorded id nonMalicious ∧ ∀ voter ∈ voters, ∃ vote,
        k.appealVotes.lookup (tribunalVoteKey id voter) = some vote ∧ vote.appealID = id ∧
          vote.voter = voter ∧ vote.nonMalicious = nonMalicious := by
  let counted := k.appealVotes.keys.filter fun key => (k.appealVotes.lookup key).any fun vote =>
    decide (vote.appealID = id) && (vote.nonMalicious == nonMalicious)
  have votes : ∀ key ∈ counted, ∃ vote, k.appealVotes.lookup key = some vote ∧
      vote.appealID = id ∧ vote.nonMalicious = nonMalicious ∧
        key = tribunalVoteKey id vote.voter := by
    intro key member
    have passes := (mem_filter.mp member).2
    cases cast : k.appealVotes.lookup key with
    | none =>
      rw [cast] at passes
      cases passes
    | some vote =>
      rw [cast] at passes
      simp only [any_some, Bool.and_eq_true, decide_eq_true_eq, beq_iff_eq] at passes
      obtain ⟨own, kind⟩ := passes
      exact ⟨vote, rfl, own, kind, own ▸ (filed.voteNamed key vote cast).1⟩
  let voterOf := fun key => ((k.appealVotes.lookup key).map TribunalVote.voter).getD ""
  refine ⟨counted.map voterOf, ?_, ?_, ?_, ?_⟩
  · refine Nodup.map_on ?_ (k.appealVotes.keys_nodup.filter _)
    intro key member key' member' same
    obtain ⟨vote, cast, -, -, named⟩ := votes key member
    obtain ⟨vote', cast', -, -, named'⟩ := votes key' member'
    have voter : vote.voter = vote'.voter := by simpa [voterOf, cast, cast'] using same
    rw [named, named', voter]
  · intro voter listed
    obtain ⟨key, member, rfl⟩ := mem_map.mp listed
    obtain ⟨vote, cast, own, -, -⟩ := votes key member
    obtain ⟨-, appeal', found', seated⟩ := filed.voteNamed key vote cast
    rw [own, found] at found'
    obtain rfl := some.inj found'
    simpa [voterOf, cast] using seated
  · rw [length_map]
    exact (countP_eq_length_filter ..).symm
  · intro voter listed
    obtain ⟨key, member, rfl⟩ := mem_map.mp listed
    obtain ⟨vote, cast, own, kind, named⟩ := votes key member
    have voter : voterOf key = vote.voter := by simp [voterOf, cast]
    exact ⟨vote, by rw [voter, ← named]; exact cast, own, voter.symm, kind⟩

theorem Filed.consistent (filed : Filed k) : Consistent k where
  reimbursed := by
    intro id escrow found
    rcases filed.appealOf id escrow found with ⟨unappealed, open_⟩ | ⟨appeal, found', -, iff⟩
    · rw [unappealed, filed.lookup_empty]
      exact ⟨fun paid => absurd paid open_, fun ⟨_, absent, _⟩ => by cases absent⟩
    · rw [found']
      exact ⟨fun paid => ⟨appeal, rfl, iff.mp paid⟩, fun ⟨_, same, won⟩ =>
        iff.mpr (some.inj same ▸ won)⟩
  majority := by
    intro id appeal found won
    obtain ⟨voters, nodup, seated, counted, votes⟩ := filed.voters found true
    have enough := filed.approved id appeal found won
    rw [(filed.tallied id appeal found).1, ← counted] at enough
    exact ⟨voters, nodup, seated, enough, votes⟩
  tallies := filed.tallied

/-- The counters have not been used up. -/
def Unwrapped (k : Keeper) (call : Block × Insurance.Call) : Prop :=
  match call.2 with
  | .escrowFraudSlash .. => k.escrowCount + 1 < 2 ^ 64
  | .submitAppeal .. => k.appealCount + 1 < 2 ^ 64
  | _ => True

theorem Filed.escrowFresh (filed : Filed k) : k.escrows.lookup (escrowName (k.escrowCount + 1)) =
    none := by
  cases found : k.escrows.lookup (escrowName (k.escrowCount + 1)) with
  | none => rfl
  | some escrow =>
    obtain ⟨-, n, bounded, named⟩ := filed.escrowNamed _ escrow found
    have same := escrowName_inj named
    omega

theorem Filed.appealFresh (filed : Filed k) : k.appeals.lookup (appealName (k.appealCount + 1)) =
    none := by
  cases found : k.appeals.lookup (appealName (k.appealCount + 1)) with
  | none => rfl
  | some appeal =>
    obtain ⟨-, n, bounded, named⟩ := filed.appealNamed _ appeal found
    have same := appealName_inj named
    omega

theorem lookup_insert_of_fresh {κ ν : Type} [DecidableEq κ] {m : Map κ ν} {key other : κ}
    {value held : ν} (fresh : m.lookup key = none) (found : m.lookup other = some held) :
    (m.insert key value).lookup other = some held := by
  have differ : other ≠ key := by
    rintro rfl
    rw [fresh] at found
    cases found
  rw [AList.lookup_insert_ne differ]
  exact found

theorem Filed.escrowed (filed : Filed k) {record : EscrowRecord}
    (named : record.id = escrowName (k.escrowCount + 1)) (held : record.status = .held)
    (unappealed : record.appealID = "") :
    Filed (setEscrow { k with escrowCount := k.escrowCount + 1 } record) := by
  have fresh : k.escrows.lookup record.id = none := named ▸ filed.escrowFresh
  constructor
  · refine Map.forall_insert ⟨rfl, k.escrowCount + 1, Nat.le_refl _, named⟩ fun id escrow old => ?_
    obtain ⟨same, n, bounded, named⟩ := filed.escrowNamed id escrow old
    exact ⟨same, n, Nat.le_succ_of_le bounded, named⟩
  · exact filed.appealNamed
  · intro id appeal found
    obtain ⟨escrow, found', own⟩ := filed.against id appeal found
    exact ⟨escrow, lookup_insert_of_fresh fresh found', own⟩
  · exact Map.forall_insert (Or.inl ⟨unappealed, by rw [held]; decide⟩) filed.appealOf
  · exact filed.voteNamed
  · exact filed.tallied
  · exact filed.approved
  · exact filed.undecided

theorem Filed.recorded_fresh (filed : Filed k) (nonMalicious : Bool) :
    k.recorded (appealName (k.appealCount + 1)) nonMalicious = 0 := by
  unfold recorded Map.countP
  rw [countP_eq_zero]
  intro key member passes
  cases cast : k.appealVotes.lookup key with
  | none =>
    rw [cast] at passes
    cases passes
  | some vote =>
    rw [cast] at passes
    simp only [any_some, Bool.and_eq_true, decide_eq_true_eq] at passes
    obtain ⟨-, appeal, found, -⟩ := filed.voteNamed key vote cast
    rw [passes.1, filed.appealFresh] at found
    cases found

variable {appeal : AppealRecord}

/-- A first appeal is filed with its escrow. -/
theorem Filed.appealed (filed : Filed k) {escrowID : String} {escrow : EscrowRecord}
    (found : k.escrows.lookup escrowID = some escrow) (held : escrow.status = .held)
    (unappealed : escrow.appealID = "") (named : appeal.id = appealName (k.appealCount + 1))
    (against : appeal.escrowID = escrowID) (pending : appeal.status = .pending)
    (votesFor : appeal.votesFor = 0) (votesAgainst : appeal.votesAgainst = 0) :
    Filed (setEscrow (setAppeal { k with appealCount := k.appealCount + 1 } appeal)
      { escrow with appealID := appeal.id }) := by
  have fresh : k.appeals.lookup appeal.id = none := named ▸ filed.appealFresh
  obtain ⟨own, n, bounded, numbered⟩ := filed.escrowNamed escrowID escrow found
  have escrows : ∀ id e, (k.escrows.insert escrow.id
      { escrow with appealID := appeal.id }).lookup id = some e →
      id = escrowID ∧ e = { escrow with appealID := appeal.id } ∨
        id ≠ escrowID ∧ k.escrows.lookup id = some e := by
    intro id e found
    rw [Map.lookup_insert_eq] at found
    split at found
    next same => exact Or.inl ⟨same.trans own, (some.inj found).symm⟩
    next differ => exact Or.inr ⟨fun same => differ (same.trans own.symm), found⟩
  constructor
  · intro id e found'
    rcases escrows id e found' with ⟨rfl, rfl⟩ | ⟨-, old⟩
    · exact ⟨own, n, bounded, numbered⟩
    · exact filed.escrowNamed id e old
  · refine Map.forall_insert ⟨rfl, k.appealCount + 1, Nat.le_refl _, named⟩ fun id a old => ?_
    obtain ⟨same, n, bounded, named⟩ := filed.appealNamed id a old
    exact ⟨same, n, Nat.le_succ_of_le bounded, named⟩
  · refine Map.forall_insert ?_ fun id a old => ?_
    · refine ⟨{ escrow with appealID := appeal.id }, ?_, rfl⟩
      change (k.escrows.insert escrow.id _).lookup appeal.escrowID = _
      rw [Map.lookup_insert_eq, if_pos (against.trans own.symm)]
    · obtain ⟨e, stored, its⟩ := filed.against id a old
      refine ⟨e, ?_, its⟩
      change (k.escrows.insert escrow.id _).lookup a.escrowID = _
      rw [Map.lookup_insert_eq, if_neg]
      · exact stored
      · -- The escrow of another appeal has that appeal's name.
        intro same
        rw [same, own, found] at stored
        obtain rfl := some.inj stored
        rw [← its, unappealed, filed.lookup_empty] at old
        cases old
  · intro id e found'
    rcases escrows id e found' with ⟨rfl, rfl⟩ | ⟨-, old⟩
    · refine Or.inr ⟨appeal, ?_, against, ?_⟩
      · exact AList.lookup_insert _
      · dsimp only
        rw [held, pending]
        decide
    · rcases filed.appealOf id e old with none_ | ⟨a, stored, its, iff⟩
      · exact Or.inl none_
      · exact Or.inr ⟨a, lookup_insert_of_fresh fresh stored, its, iff⟩
  · intro key vote cast
    obtain ⟨same, a, stored, seated⟩ := filed.voteNamed key vote cast
    exact ⟨same, a, lookup_insert_of_fresh fresh stored, seated⟩
  · refine Map.forall_insert ?_ filed.tallied
    have zero : ∀ kind, k.recorded appeal.id kind = 0 := named ▸ filed.recorded_fresh
    refine ⟨votesFor.trans ?_, votesAgainst.trans ?_⟩
    · exact (congrArg Int.ofNat (zero true)).symm
    · exact (congrArg Int.ofNat (zero false)).symm
  · refine Map.forall_insert (fun won => ?_) filed.approved
    rw [pending] at won
    cases won
  · refine Map.forall_insert (fun _ => ?_) filed.undecided
    rw [votesFor]
    decide

variable {vote : TribunalVote}

theorem recorded_vote {after : Keeper} {key : String} (first : k.appealVotes.lookup key = none)
    (votes : after.appealVotes = k.appealVotes.insert key vote) (id : String)
    (nonMalicious : Bool) :
    after.recorded id nonMalicious = k.recorded id nonMalicious +
      if vote.appealID = id ∧ vote.nonMalicious = nonMalicious then 1 else 0 := by
  unfold recorded
  rw [votes]
  have count := Map.countP_insert k.appealVotes key vote fun vote =>
    decide (vote.appealID = id) && (vote.nonMalicious == nonMalicious)
  rw [first, Map.tally_none, Map.tally_some] at count
  simpa using count

/-- The records after a vote: the appeal with its new tally, the escrow with its new status. -/
structure Voted (k after : Keeper) (vote : TribunalVote) (appeal stored : AppealRecord)
    (escrow settled : EscrowRecord) : Prop where
  escrows : ∀ id, after.escrows.lookup id =
    if id = appeal.escrowID then some settled else k.escrows.lookup id
  appeals : ∀ id, after.appeals.lookup id =
    if id = vote.appealID then some stored else k.appeals.lookup id
  votes : after.appealVotes =
    k.appealVotes.insert (tribunalVoteKey vote.appealID vote.voter) vote
  counts : after.escrowCount = k.escrowCount ∧ after.appealCount = k.appealCount
  appealKept : stored.id = appeal.id ∧ stored.escrowID = appeal.escrowID ∧
    stored.tribunal = appeal.tribunal
  tally : stored.votesFor = (appeal.withVote vote.nonMalicious).votesFor ∧
    stored.votesAgainst = (appeal.withVote vote.nonMalicious).votesAgainst
  escrowKept : settled.id = escrow.id ∧ settled.appealID = escrow.appealID
  outcome : settled.status = .reimbursed ↔ stored.status = .approved
  won : stored.status = .approved → TribunalMajority ≤ stored.votesFor
  undecided : stored.status = .pending → ¬TribunalMajority ≤ stored.votesFor

/-- A member's first vote is filed, and settles the escrow with the appeal. -/
theorem Filed.voted (filed : Filed k) {after : Keeper}
    {appeal stored : AppealRecord} {escrow settled : EscrowRecord}
    (found : k.appeals.lookup vote.appealID = some appeal) (seated : vote.voter ∈ appeal.tribunal)
    (first : k.appealVotes.lookup (tribunalVoteKey vote.appealID vote.voter) = none)
    (held : k.escrows.lookup appeal.escrowID = some escrow)
    (voted : Voted k after vote appeal stored escrow settled) : Filed after := by
  obtain ⟨named, n, bounded, numbered⟩ := filed.appealNamed _ appeal found
  obtain ⟨own, m, bounded', numbered'⟩ := filed.escrowNamed _ escrow held
  -- The escrow that the appeal is against is the one that has it.
  have its : escrow.appealID = vote.appealID := by
    obtain ⟨other, held', its⟩ := filed.against _ appeal found
    rw [held] at held'
    exact some.inj held' ▸ its
  have escrows : ∀ id e, after.escrows.lookup id = some e →
      id = appeal.escrowID ∧ e = settled ∨ id ≠ appeal.escrowID ∧ k.escrows.lookup id = some e := by
    intro id e stored
    rw [voted.escrows] at stored
    split at stored
    next same => exact Or.inl ⟨same, (some.inj stored).symm⟩
    next differ => exact Or.inr ⟨differ, stored⟩
  have appeals : ∀ id a, after.appeals.lookup id = some a →
      id = vote.appealID ∧ a = stored ∨ id ≠ vote.appealID ∧ k.appeals.lookup id = some a := by
    intro id a filedUnder
    rw [voted.appeals] at filedUnder
    split at filedUnder
    next same => exact Or.inl ⟨same, (some.inj filedUnder).symm⟩
    next differ => exact Or.inr ⟨differ, filedUnder⟩
  have tribunals : ∀ id a, k.appeals.lookup id = some a →
      ∃ a', after.appeals.lookup id = some a' ∧ a'.tribunal = a.tribunal := by
    intro id a filedUnder
    rw [voted.appeals]
    split
    next same =>
      rw [same, found] at filedUnder
      obtain rfl := some.inj filedUnder
      exact ⟨stored, rfl, voted.appealKept.2.2⟩
    next => exact ⟨a, filedUnder, rfl⟩
  constructor
  · intro id e filedUnder
    rw [voted.counts.1]
    rcases escrows id e filedUnder with ⟨rfl, rfl⟩ | ⟨-, old⟩
    · exact ⟨voted.escrowKept.1.trans own, m, bounded', numbered'⟩
    · exact filed.escrowNamed id e old
  · intro id a filedUnder
    rw [voted.counts.2]
    rcases appeals id a filedUnder with ⟨rfl, rfl⟩ | ⟨-, old⟩
    · exact ⟨voted.appealKept.1.trans named, n, bounded, numbered⟩
    · exact filed.appealNamed id a old
  · intro id a filedUnder
    rcases appeals id a filedUnder with ⟨rfl, rfl⟩ | ⟨differ, old⟩
    · refine ⟨settled, ?_, voted.escrowKept.2.trans its⟩
      rw [voted.escrows, if_pos voted.appealKept.2.1]
    · obtain ⟨e, stored, its'⟩ := filed.against id a old
      refine ⟨e, ?_, its'⟩
      rw [voted.escrows, if_neg]
      · exact stored
      · intro same
        rw [same, held] at stored
        obtain rfl := some.inj stored
        exact differ (its'.symm.trans its)
  · intro id e filedUnder
    rcases escrows id e filedUnder with ⟨rfl, rfl⟩ | ⟨differ, old⟩
    · refine Or.inr ⟨stored, ?_, voted.appealKept.2.1, voted.outcome⟩
      rw [voted.appeals, if_pos (voted.escrowKept.2.trans its)]
    · rcases filed.appealOf id e old with unappealed | ⟨a, filed', against, iff⟩
      · exact Or.inl unappealed
      · refine Or.inr ⟨a, ?_, against, iff⟩
        rw [voted.appeals, if_neg]
        · exact filed'
        · intro same
          rw [same, found] at filed'
          obtain rfl := some.inj filed'
          exact differ against.symm
  · intro key cast filedUnder
    rw [voted.votes, Map.lookup_insert_eq] at filedUnder
    split at filedUnder
    next same =>
      obtain rfl := some.inj filedUnder
      obtain ⟨a', filed', kept⟩ := tribunals _ appeal found
      exact ⟨same, a', filed', kept ▸ seated⟩
    next =>
      obtain ⟨same, a, filed', seated'⟩ := filed.voteNamed key cast filedUnder
      obtain ⟨a', filed'', kept⟩ := tribunals _ a filed'
      exact ⟨same, a', filed'', kept ▸ seated'⟩
  · intro id a filedUnder
    rw [recorded_vote first voted.votes, recorded_vote first voted.votes]
    rcases appeals id a filedUnder with ⟨rfl, rfl⟩ | ⟨differ, old⟩
    · rw [voted.tally.1, voted.tally.2]
      obtain ⟨one, two⟩ := filed.tallied _ appeal found
      cases kind : vote.nonMalicious with
      | true => simp [AppealRecord.withVote, one, two]
      | false => simp [AppealRecord.withVote, one, two]
    · have other : vote.appealID ≠ id := fun same => differ same.symm
      simp only [other, false_and, if_false]
      exact filed.tallied id a old
  · intro id a filedUnder won
    rcases appeals id a filedUnder with ⟨rfl, rfl⟩ | ⟨-, old⟩
    · exact voted.won won
    · exact filed.approved id a old won
  · intro id a filedUnder open_
    rcases appeals id a filedUnder with ⟨rfl, rfl⟩ | ⟨-, old⟩
    · exact voted.undecided open_
    · exact filed.undecided id a old open_

theorem Filed.pending_escrow (filed : Filed k) {id : String}
    (found : k.appeals.lookup id = some appeal) :
    ∃ escrow, k.escrows.lookup appeal.escrowID = some escrow ∧
      (escrow.status = .reimbursed ↔ appeal.status = .approved) := by
  obtain ⟨escrow, held, its⟩ := filed.against id appeal found
  refine ⟨escrow, held, ?_⟩
  rcases filed.appealOf _ escrow held with ⟨unappealed, -⟩ | ⟨other, found', -, iff⟩
  · rw [← its, unappealed, filed.lookup_empty] at found
    cases found
  · rw [its, found] at found'
    exact some.inj found' ▸ iff

theorem withVote_kept (appeal : AppealRecord) (nonMalicious : Bool) :
    (appeal.withVote nonMalicious).id = appeal.id ∧
      (appeal.withVote nonMalicious).escrowID = appeal.escrowID ∧
      (appeal.withVote nonMalicious).tribunal = appeal.tribunal ∧
      (appeal.withVote nonMalicious).status = appeal.status := by
  cases nonMalicious <;> exact ⟨rfl, rfl, rfl, rfl⟩

/-- A counted ballot keeps the files. -/
theorem voted_of_counted (filed : Filed k) {block : Block} {appealID voter : String}
    {nonMalicious : Bool} {after : Keeper}
    (ballot : Ballot k appealID voter nonMalicious appeal vote)
    (counted : Counted block (k.setAppealVote (tribunalVoteKey vote.appealID vote.voter) vote)
      (appeal.withVote nonMalicious) after) :
    ∃ escrow settled stored, k.escrows.lookup appeal.escrowID = some escrow ∧
      Voted k after vote appeal stored escrow settled ∧ escrow.status ≠ .reimbursed ∧
      (settled.status = .reimbursed ∧
          TribunalMajority ≤ (appeal.withVote nonMalicious).votesFor ∨
        settled.status = .forfeited ∧
          ¬TribunalMajority ≤ (appeal.withVote nonMalicious).votesFor ∨
        settled.status = escrow.status ∧
          ¬TribunalMajority ≤ (appeal.withVote nonMalicious).votesFor) := by
  obtain ⟨escrow, held, iff⟩ := filed.pending_escrow ballot.found
  have unpaid : escrow.status ≠ .reimbursed := by
    rw [ne_eq, iff, ballot.pending]
    decide
  obtain ⟨sameID, sameEscrow, sameTribunal, sameStatus⟩ := withVote_kept appeal nonMalicious
  obtain ⟨named, -⟩ := filed.appealNamed _ appeal ballot.found
  obtain ⟨own, -⟩ := filed.escrowNamed _ escrow held
  have tally : ∀ stored : AppealRecord,
      stored.votesFor = (appeal.withVote nonMalicious).votesFor →
      stored.votesAgainst = (appeal.withVote nonMalicious).votesAgainst →
      stored.votesFor = (appeal.withVote vote.nonMalicious).votesFor ∧
        stored.votesAgainst = (appeal.withVote vote.nonMalicious).votesAgainst := by
    intro stored one two
    rw [ballot.kind]
    exact ⟨one, two⟩
  have insertedAppeal : ∀ (stored : AppealRecord) (id : String),
      stored.id = (appeal.withVote nonMalicious).id →
      (k.appeals.insert stored.id stored).lookup id =
        if id = vote.appealID then some stored else k.appeals.lookup id := by
    intro stored id same
    rw [Map.lookup_insert_eq, same, sameID, named]
  have insertedEscrow : ∀ (settled : EscrowRecord) (id : String), settled.id = escrow.id →
      (k.escrows.insert settled.id settled).lookup id =
        if id = appeal.escrowID then some settled else k.escrows.lookup id := by
    intro settled id same
    rw [Map.lookup_insert_eq, same, own]
  cases counted with
  | approved escrow' majority found =>
    obtain rfl : escrow = escrow' := some.inj (held.symm.trans (sameEscrow ▸ found))
    refine ⟨escrow, { escrow with status := .reimbursed },
      { appeal.withVote nonMalicious with status := .approved, resolvedAtUnix := block.unix },
      held, ?_, unpaid, Or.inl ⟨rfl, majority⟩⟩
    exact
      { escrows := fun id => insertedEscrow _ id rfl
        appeals := fun id => insertedAppeal _ id rfl
        votes := rfl
        counts := ⟨rfl, rfl⟩
        appealKept := ⟨sameID, sameEscrow, sameTribunal⟩
        tally := tally _ rfl rfl
        escrowKept := ⟨rfl, rfl⟩
        outcome := ⟨fun _ => rfl, fun _ => rfl⟩
        won := fun _ => majority
        undecided := by simp }
  | rejected escrow' short majority found =>
    obtain rfl : escrow = escrow' := some.inj (held.symm.trans (sameEscrow ▸ found))
    refine ⟨escrow, { escrow with status := .forfeited },
      { appeal.withVote nonMalicious with status := .rejected, resolvedAtUnix := block.unix },
      held, ?_, unpaid, Or.inr (Or.inl ⟨rfl, short⟩)⟩
    exact
      { escrows := fun id => insertedEscrow _ id rfl
        appeals := fun id => insertedAppeal _ id rfl
        votes := rfl
        counts := ⟨rfl, rfl⟩
        appealKept := ⟨sameID, sameEscrow, sameTribunal⟩
        tally := tally _ rfl rfl
        escrowKept := ⟨rfl, rfl⟩
        outcome := by simp
        won := by simp
        undecided := by simp }
  | pending short short' =>
    have open_ : (appeal.withVote nonMalicious).status ≠ .approved := by
      rw [sameStatus, ballot.pending]
      decide
    refine ⟨escrow, escrow, appeal.withVote nonMalicious, held, ?_, unpaid,
      Or.inr (Or.inr ⟨rfl, short⟩)⟩
    exact
      { escrows := by
          intro id
          split
          next same => exact same ▸ held
          next => rfl
        appeals := fun id => insertedAppeal _ id rfl
        votes := rfl
        counts := ⟨rfl, rfl⟩
        appealKept := ⟨sameID, sameEscrow, sameTribunal⟩
        tally := tally _ rfl rfl
        escrowKept := ⟨rfl, rfl⟩
        outcome := iff_of_false unpaid open_
        won := fun won => absurd won open_
        undecided := fun _ => short }
  | orphaned missing =>
    rw [sameEscrow] at missing
    exact absurd (held.symm.trans missing) (by simp)

end Consistency

section Expiry

variable {k : Keeper} (block : Block)

def expire (block : Block) (record : EscrowRecord) : EscrowRecord :=
  if expires block record then { record with status := .forfeited } else record

theorem expire_kept (record : EscrowRecord) :
    (expire block record).id = record.id ∧ (expire block record).appealID = record.appealID ∧
      ((expire block record).status = .reimbursed ↔ record.status = .reimbursed) ∧
      (record.status ≠ .held → (expire block record).status = record.status) := by
  unfold expire
  split
  next expired =>
    have held : record.status = .held := by
      simp only [expires, Bool.and_eq_true, decide_eq_true_eq] at expired
      exact expired.1
    rw [held]
    exact ⟨rfl, rfl, by simp, fun other => absurd rfl other⟩
  next => exact ⟨rfl, rfl, Iff.rfl, fun _ => rfl⟩

theorem lookup_expireEscrow {state : Keeper × Nat} {id : String}
    (named : ∀ record, state.1.escrows.lookup id = some record → record.id = id) (other : String) :
    (expireEscrow block state id).1.escrows.lookup other =
      if other = id then (state.1.escrows.lookup id).map (expire block)
      else state.1.escrows.lookup other := by
  unfold expireEscrow
  cases found : state.1.escrows.lookup id with
  | none =>
    dsimp only
    split
    next same => exact same ▸ found
    next => rfl
  | some record =>
    dsimp only
    rw [map_some, expire]
    split
    · dsimp only [setEscrow]
      rw [Map.lookup_insert_eq, named record found]
    · split
      next same => exact same ▸ found
      next => rfl

theorem expireEscrow_rest (state : Keeper × Nat) (id : String) :
    (expireEscrow block state id).1.appeals = state.1.appeals ∧
      (expireEscrow block state id).1.appealVotes = state.1.appealVotes ∧
      (expireEscrow block state id).1.escrowCount = state.1.escrowCount ∧
      (expireEscrow block state id).1.appealCount = state.1.appealCount := by
  unfold expireEscrow
  split
  · split
    · exact ⟨rfl, rfl, rfl, rfl⟩
    · exact ⟨rfl, rfl, rfl, rfl⟩
  · exact ⟨rfl, rfl, rfl, rfl⟩

/-- The loop over the escrows treats each of them once. -/
theorem lookup_walk (ids : List String) (nodup : ids.Nodup) (state : Keeper × Nat)
    (named : ∀ id record, state.1.escrows.lookup id = some record → record.id = id)
    (other : String) :
    (ids.foldl (expireEscrow block) state).1.escrows.lookup other =
      if other ∈ ids then (state.1.escrows.lookup other).map (expire block)
      else state.1.escrows.lookup other := by
  induction ids generalizing state with
  | nil => rfl
  | cons id rest ih =>
    obtain ⟨absent, nodup⟩ := nodup_cons.mp nodup
    have visit := lookup_expireEscrow block (named id)
    have named' : ∀ id' record, (expireEscrow block state id).1.escrows.lookup id' = some record →
        record.id = id' := by
      intro id' record found
      rw [visit] at found
      split at found
      next same =>
        obtain ⟨old, stored, rfl⟩ := map_eq_some_iff.mp found
        rw [(expire_kept block old).1, same]
        exact named id old stored
      next => exact named id' record found
    rw [foldl_cons, ih nodup _ named', visit]
    by_cases same : other = id
    · subst same
      simp [absent]
    · simp [same]

theorem walk_rest (ids : List String) (state : Keeper × Nat) :
    (ids.foldl (expireEscrow block) state).1.appeals = state.1.appeals ∧
      (ids.foldl (expireEscrow block) state).1.appealVotes = state.1.appealVotes ∧
      (ids.foldl (expireEscrow block) state).1.escrowCount = state.1.escrowCount ∧
      (ids.foldl (expireEscrow block) state).1.appealCount = state.1.appealCount := by
  induction ids generalizing state with
  | nil => exact ⟨rfl, rfl, rfl, rfl⟩
  | cons id rest ih =>
    obtain ⟨a, b, c, d⟩ := expireEscrow_rest block state id
    obtain ⟨a', b', c', d'⟩ := ih (expireEscrow block state id)
    exact ⟨a'.trans a, b'.trans b, c'.trans c, d'.trans d⟩

theorem Filed.lookup_expiries (filed : Filed k) (id : String) :
    (processEscrowExpiries block k).2.escrows.lookup id =
      (k.escrows.lookup id).map (expire block) := by
  have sorted := perm_insertionSort (α := String) (· ≤ ·) k.escrows.keys
  have walk := lookup_walk block (k.escrows.keys.insertionSort (· ≤ ·))
    (sorted.nodup_iff.mpr k.escrows.keys_nodup) (k, 0)
    (fun id record found => (filed.escrowNamed id record found).1) id
  refine walk.trans ?_
  split
  · rfl
  next absent =>
    have missing : k.escrows.lookup id = none := by
      rw [AList.lookup_eq_none]
      exact fun present => absent (sorted.mem_iff.mpr present)
    simp [missing]

/-- Expiries keep the files. -/
theorem Filed.expired (filed : Filed k) : Filed (processEscrowExpiries block k).2 := by
  have back : ∀ id e, (processEscrowExpiries block k).2.escrows.lookup id = some e →
      ∃ old, k.escrows.lookup id = some old ∧ e = expire block old := by
    intro id e found
    rw [filed.lookup_expiries block] at found
    obtain ⟨old, stored, same⟩ := map_eq_some_iff.mp found
    exact ⟨old, stored, same.symm⟩
  obtain ⟨appeals, votes, escrowCount, appealCount⟩ : _ ∧ _ ∧ _ ∧ _ :=
    walk_rest block (k.escrows.keys.insertionSort (· ≤ ·)) (k, 0)
  have recorded_eq : ∀ id kind, (processEscrowExpiries block k).2.recorded id kind =
      k.recorded id kind := by
    intro id kind
    unfold recorded
    exact congrArg (fun votes => Map.countP votes _) votes
  constructor
  · intro id e found
    obtain ⟨old, stored, rfl⟩ := back id e found
    rw [(expire_kept block old).1]
    exact escrowCount ▸ filed.escrowNamed id old stored
  · intro id a found
    exact appealCount ▸ filed.appealNamed id a (appeals ▸ found)
  · intro id a found
    obtain ⟨old, stored, its⟩ := filed.against id a (appeals ▸ found)
    refine ⟨expire block old, ?_, (expire_kept block old).2.1.trans its⟩
    rw [filed.lookup_expiries block, stored, map_some]
  · intro id e found
    obtain ⟨old, stored, rfl⟩ := back id e found
    obtain ⟨-, its, paid, -⟩ := expire_kept block old
    rw [its, ne_eq, paid]
    exact appeals ▸ filed.appealOf id old stored
  · intro key vote cast
    exact appeals ▸ filed.voteNamed key vote (votes ▸ cast)
  · intro id a found
    rw [recorded_eq, recorded_eq]
    exact filed.tallied id a (appeals ▸ found)
  · intro id a found
    exact filed.approved id a (appeals ▸ found)
  · intro id a found
    exact filed.undecided id a (appeals ▸ found)

end Expiry

/-- The vote would complete the majority for an appeal whose escrow is forfeited by then. -/
structure Overturns (k : Keeper) (appealID voter : String) (appeal : AppealRecord)
    (escrow : EscrowRecord) : Prop where
  given : Strings.trimSpace appealID ≠ "" ∧ Strings.trimSpace voter ≠ ""
  found : k.appeals.lookup (Strings.trimSpace appealID) = some appeal
  pending : appeal.status = .pending
  member : Strings.trimSpace voter ∈ appeal.tribunal
  first : k.appealVotes.lookup
    (tribunalVoteKey (Strings.trimSpace appealID) (Strings.trimSpace voter)) = none
  majority : TribunalMajority ≤ appeal.votesFor + 1
  held : k.escrows.lookup appeal.escrowID = some escrow
  forfeited : escrow.status = .forfeited

/-- No appeal is approved after its escrow was forfeited. -/
def Timely (k : Keeper) (call : Block × Insurance.Call) : Prop :=
  match call.2 with
  | .castTribunalVote appealID voter true _ =>
    ∀ appeal escrow, ¬Overturns k appealID voter appeal escrow
  | _ => True

section Steps

variable {k after : Keeper} {call : Block × Insurance.Call}

theorem Filed.moved (filed : Filed k) (unwrapped : Unwrapped k call) (moved : Moved k call after) :
    Filed after := by
  cases moved with
  | unchanged => exact filed
  | escrowed block validatorAddr amount reason evidence record named held unappealed =>
    have small : (k.escrowCount + 1) % 2 ^ 64 = k.escrowCount + 1 := Nat.mod_eq_of_lt unwrapped
    rw [small] at named ⊢
    exact filed.escrowed named held unappealed
  | appealed block source msg escrow appeal found held unappealed named against pending votesFor
      votesAgainst =>
      have small : (k.appealCount + 1) % 2 ^ 64 = k.appealCount + 1 := Nat.mod_eq_of_lt unwrapped
      rw [small] at named ⊢
      exact filed.appealed found held unappealed named against pending votesFor votesAgainst
  | voted block appealID voter nonMalicious notes appeal vote _ ballot counted =>
    obtain ⟨escrow, settled, stored, held, voted, -⟩ := voted_of_counted filed ballot counted
    exact filed.voted ballot.found ballot.member ballot.first held voted
  | expired block => exact filed.expired block

theorem nonMalicious_of_majority {appeal : AppealRecord} {nonMalicious : Bool}
    (short : ¬TribunalMajority ≤ appeal.votesFor)
    (majority : TribunalMajority ≤ (appeal.withVote nonMalicious).votesFor) :
    nonMalicious = true ∧ TribunalMajority ≤ appeal.votesFor + 1 := by
  cases nonMalicious with
  | true => exact ⟨rfl, majority⟩
  | false => exact absurd majority short

/-- A timely call turns over no decision. -/
theorem Filed.keepsOutcomes (filed : Filed k) (unwrapped : Unwrapped k call)
    (timely : Timely k call) (moved : Moved k call after) : KeepsOutcomes k after := by
  intro id escrow found decided
  cases moved with
  | unchanged => exact ⟨escrow, found, rfl⟩
  | escrowed block validatorAddr amount reason evidence record named held unappealed =>
    have small : (k.escrowCount + 1) % 2 ^ 64 = k.escrowCount + 1 := Nat.mod_eq_of_lt unwrapped
    rw [small] at named
    exact ⟨escrow, lookup_insert_of_fresh (named ▸ filed.escrowFresh) found, rfl⟩
  | appealed block source msg other appeal found' held unappealed named against pending votesFor
      votesAgainst =>
      obtain ⟨own, -⟩ := filed.escrowNamed _ other found'
      refine ⟨escrow, ?_, rfl⟩
      dsimp only [setEscrow, setAppeal]
      rw [Map.lookup_insert_eq, if_neg]
      · exact found
      · rintro rfl
        rw [own, found'] at found
        obtain rfl := some.inj found
        exact decided held
  | voted block appealID voter nonMalicious notes appeal vote _ ballot counted =>
    obtain ⟨escrow', settled, stored, held, voted, unpaid, outcome⟩ :=
      voted_of_counted filed ballot counted
    rw [voted.escrows]
    split
    next same =>
      rw [same, held] at found
      obtain rfl := some.inj found
      refine ⟨settled, rfl, ?_⟩
      have forfeited : escrow'.status = .forfeited := by
        cases status : escrow'.status with
        | held => exact absurd status decided
        | reimbursed => exact absurd status unpaid
        | forfeited => rfl
      rcases outcome with ⟨-, majority⟩ | ⟨lost, -⟩ | ⟨kept, -⟩
      · obtain ⟨rfl, enough⟩ := nonMalicious_of_majority
          (filed.undecided _ appeal ballot.found ballot.pending) majority
        exact absurd
          { given := ballot.given
            found := ballot.named.1 ▸ ballot.found
            pending := ballot.pending
            member := ballot.named.2 ▸ ballot.member
            first := ballot.named.1 ▸ ballot.named.2 ▸ ballot.first
            majority := enough
            held
            forfeited }
          (timely appeal escrow')
      · exact lost.trans forfeited.symm
      · exact kept
    next => exact ⟨escrow, found, rfl⟩
  | expired block =>
    refine ⟨expire block escrow, ?_, (expire_kept block escrow).2.2.2 decided⟩
    rw [filed.lookup_expiries block, found, map_some]

variable {sha256 : Bytes → Fin (2 ^ 256)}

/-- Where no decision is turned over, the call was timely. -/
theorem Filed.timely (filed : Filed k) (keeps : KeepsOutcomes k (k.step sha256 call)) :
    Timely k call := by
  obtain ⟨block, call⟩ := call
  unfold Timely
  split
  next appealID voter notes same =>
    obtain rfl : call = .castTribunalVote appealID voter true notes := same
    intro appeal escrow overturns
    have ballot : Ballot k appealID voter true appeal
        { appealID := Strings.trimSpace appealID
          voter := Strings.trimSpace voter
          nonMalicious := true
          notes := Strings.trimSpace notes
          submittedAtUnix := block.unix } :=
      ⟨⟨rfl, rfl⟩, overturns.given, rfl, overturns.found, overturns.pending, overturns.member,
        overturns.first⟩
    have counted := counted_of_ballot block ballot rfl rfl
    obtain ⟨escrow', settled, stored, held, voted, -, outcome⟩ :=
      voted_of_counted filed ballot counted
    obtain ⟨later, found, kept⟩ := keeps appeal.escrowID escrow overturns.held
      (by rw [overturns.forfeited]; decide)
    rw [step, voted.escrows, if_pos rfl] at found
    obtain rfl := some.inj found
    have enough : TribunalMajority ≤ (appeal.withVote true).votesFor := overturns.majority
    rcases outcome with ⟨paid, -⟩ | ⟨-, short⟩ | ⟨-, short⟩
    · rw [kept, overturns.forfeited] at paid
      cases paid
    · exact short enough
    · exact short enough
  next => trivial

end Steps

theorem filed_initially : Filed {} where
  escrowNamed := fun _ _ found => by cases found
  appealNamed := fun _ _ found => by cases found
  against := fun _ _ found => by cases found
  appealOf := fun _ _ found => by cases found
  voteNamed := fun _ _ found => by cases found
  tallied := fun _ _ found => by cases found
  approved := fun _ _ found => by cases found
  undecided := fun _ _ found => by cases found

/-- The records are consistent in every state of a run, and decided escrows keep their outcome. -/
structure AppealsHold (sha256 : Bytes → Fin (2 ^ 256)) (calls : List (Block × Insurance.Call)) :
    Prop where
  outcomes : Run.Lasting (step sha256) KeepsOutcomes {} calls
  consistent : ∀ first, first <+: calls → Consistent (Run.exec (step sha256) {} first)

/-- Appeals hold in a run exactly if no appeal is approved after its escrow was forfeited. -/
theorem appeals_hold_iff (sha256 : Bytes → Fin (2 ^ 256)) (calls : List (Block × Insurance.Call))
    (unwrapped : Run.Along (step sha256) Unwrapped {} calls) :
    AppealsHold sha256 calls ↔ Run.Along (step sha256) Timely {} calls := by
  have outcomes : Run.Lasting (step sha256) KeepsOutcomes {} calls ↔
      Run.Along (step sha256) Timely {} calls :=
    Run.lasting_iff
      (fun k call (filed : Filed k) unwrapped _ =>
        filed.moved unwrapped (step_moved sha256 k call))
      KeepsOutcomes.refl (fun first second => first.trans second)
      (fun k call filed unwrapped timely =>
        filed.keepsOutcomes unwrapped timely (step_moved sha256 k call))
      (fun k call filed _ keeps => filed.timely keeps) filed_initially unwrapped
  refine ⟨fun holds => outcomes.mp holds.outcomes, fun timely => ⟨outcomes.mpr timely, ?_⟩⟩
  intro first begins
  apply Filed.consistent
  exact Run.invariant Filed
    (fun k call unwrapped filed => filed.moved unwrapped (step_moved sha256 k call))
    filed_initially (unwrapped.before begins)

/-- No escrow has two appeals, and no tribunal more votes than members. -/
structure OneAppeal (k : Keeper) : Prop where
  against : ∀ id id' appeal appeal', k.appeals.lookup id = some appeal →
    k.appeals.lookup id' = some appeal' → appeal.escrowID = appeal'.escrowID → id = id'
  votes : ∀ id appeal, k.appeals.lookup id = some appeal →
    appeal.votesFor + appeal.votesAgainst ≤ appeal.tribunal.length

/-- In every state of a run an escrow has one appeal at most, and no tribunal has more votes than
members. -/
theorem one_appeal_run (sha256 : Bytes → Fin (2 ^ 256)) (calls : List (Block × Insurance.Call))
    (unwrapped : Run.Along (step sha256) Unwrapped {} calls) :
    OneAppeal (Run.exec (step sha256) {} calls) := by
  have filed : Filed (Run.exec (step sha256) {} calls) := Run.invariant Filed
    (fun k call unwrapped filed => filed.moved unwrapped (step_moved sha256 k call))
    filed_initially unwrapped
  constructor
  · intro id id' appeal appeal' found found' same
    obtain ⟨escrow, held, own⟩ := filed.against id appeal found
    obtain ⟨escrow', held', own'⟩ := filed.against id' appeal' found'
    rw [← same, held] at held'
    rw [← own, ← own', some.inj held']
  · intro id appeal found
    obtain ⟨fors, nodup, seated, counted, votes⟩ := filed.voters found true
    obtain ⟨againsts, nodup', seated', counted', votes'⟩ := filed.voters found false
    have apart : ∀ voter ∈ fors, ∀ other ∈ againsts, voter ≠ other := by
      rintro voter member _ member' rfl
      obtain ⟨vote, cast, -, -, kind⟩ := votes voter member
      obtain ⟨vote', cast', -, -, kind'⟩ := votes' voter member'
      rw [cast] at cast'
      rw [some.inj cast', kind'] at kind
      exact nomatch kind
    have few := ((nodup_append.mpr ⟨nodup, nodup', apart⟩).subperm
      (append_subset.mpr ⟨seated, seated'⟩)).length_le
    rw [length_append, counted, counted'] at few
    rw [(filed.tallied id appeal found).1, (filed.tallied id appeal found).2]
    exact_mod_cast few

def sampleHash (bytes : Bytes) : Fin (2 ^ 256) :=
  Fin.ofNat (2 ^ 256) (bytes.foldl (fun number byte => number * 257 + byte.toNat) 1)

def sampleSource : ValidatorSource where
  listValidators := .ok ["val-1", "val-2", "val-3", "val-4", "val-5", "val-6"]
  isValidatorSlashed _ := false

def sampleAppeal : List (Block × Insurance.Call) :=
  [(⟨10, 1000⟩, .escrowFraudSlash "val-1" 50000 "invalid_output" "output-hash"),
    (⟨11, 1005⟩, .submitAppeal (some sampleSource) ⟨"val-1", "escrow-1", "ipfs://log", "log-hash"⟩)]

def sampleVote (block : Block) (voter : String) (nonMalicious : Bool) : Block × Insurance.Call :=
  (block, .castTribunalVote "appeal-1" voter nonMalicious "")

theorem one_appeal_run_outvoted : OneAppeal (Run.exec (step sampleHash) {} (sampleAppeal ++
    [sampleVote ⟨12, 1010⟩ "val-2" false, sampleVote ⟨12, 1010⟩ "val-3" true])) := by
  apply one_appeal_run
  refine ⟨?_, ?_, trivial, trivial, trivial⟩
  all_goals
    unfold Unwrapped
    decide +kernel

/-- The tribunal rejects the appeal. -/
theorem appeals_hold_rejected : AppealsHold sampleHash (sampleAppeal ++
    [sampleVote ⟨12, 1010⟩ "val-2" false, sampleVote ⟨12, 1010⟩ "val-3" false,
      sampleVote ⟨13, 1015⟩ "val-4" false, (⟨300000, 1500000⟩, .processEscrowExpiries)]) := by
  apply (appeals_hold_iff _ _ _).mpr
  · exact ⟨trivial, trivial, trivial, trivial, trivial, trivial, trivial⟩
  · refine ⟨?_, ?_, trivial, trivial, trivial, trivial, trivial⟩
    · unfold Unwrapped
      decide +kernel
    · unfold Unwrapped
      decide +kernel

/-- Two votes for the appeal, the end of the escrow after fifteen days, and then the third vote. -/
theorem appeal_approved_after_expiry : ¬AppealsHold sampleHash (sampleAppeal ++
    [sampleVote ⟨12, 1010⟩ "val-2" true, sampleVote ⟨12, 1010⟩ "val-3" true,
      (⟨200000, 1297000⟩, .processEscrowExpiries)] ++
    [sampleVote ⟨200001, 1297005⟩ "val-4" true]) := by
  intro holds
  have expired : ((Run.exec (step sampleHash) {} (sampleAppeal ++
      [sampleVote ⟨12, 1010⟩ "val-2" true, sampleVote ⟨12, 1010⟩ "val-3" true,
        (⟨200000, 1297000⟩, .processEscrowExpiries)])).escrows.lookup "escrow-1").map
      EscrowRecord.status = some .forfeited := by
    decide +kernel
  have approved : ((Run.exec (step sampleHash) {} (sampleAppeal ++
      [sampleVote ⟨12, 1010⟩ "val-2" true, sampleVote ⟨12, 1010⟩ "val-3" true,
        (⟨200000, 1297000⟩, .processEscrowExpiries)] ++
      [sampleVote ⟨200001, 1297005⟩ "val-4" true])).escrows.lookup "escrow-1").map
      EscrowRecord.status = some .reimbursed := by
    decide +kernel
  obtain ⟨escrow, found, forfeited⟩ := map_eq_some_iff.mp expired
  obtain ⟨later, found', kept⟩ := holds.outcomes _ _ prefix_rfl "escrow-1" escrow found
    (by rw [forfeited]; decide)
  rw [found', map_some, kept, forfeited] at approved
  exact absurd approved (by decide)

end Insurance.Keeper
