import Aethelred.Contracts.CruzibleMoves

/- Who has put which delegation root forward, what has become of the roots, and what the vault's
locks and freezes do for the bonds behind them. -/
namespace Cruzible

open Evm List Nat

/-- A root put forward by a keeper or an attestor, with what was slashed from its bond since. -/
structure Pledge where
  epoch : Key
  root : Bytes32
  supporter : Address
  direct : Bool
  slashed : Nat

/-- What has become of a root that was committed. -/
inductive Fate where
  | live
  | revoked (time : Nat)
  | convicted
  deriving DecidableEq

structure Commitment where
  epoch : Key
  root : Bytes32
  supporters : List Pledge
  fate : Fate

/-- All submissions, and the commitments whose supporters still answer for them. -/
structure Pledges where
  submissions : List Pledge
  commitments : List Commitment

variable (keeper : Address)

def Pledge.mark (amount : Nat) (pledge : Pledge) : Pledge :=
  if pledge.supporter = keeper then { pledge with slashed := pledge.slashed + amount } else pledge

def Commitment.dismiss (commitment : Commitment) : Commitment :=
  if commitment.fate = .live then commitment
  else { commitment with
    supporters := commitment.supporters.filter fun pledge => pledge.supporter ≠ keeper }

def Commitment.mark (amount : Nat) (commitment : Commitment) : Commitment :=
  { commitment with supporters := commitment.supporters.map (Pledge.mark keeper amount) }

def Commitment.revoke (epoch : Key) (fate : Fate) (commitment : Commitment) : Commitment :=
  if commitment.fate = .live ∧ commitment.epoch = epoch then { commitment with fate }
  else commitment

def Commitment.convict (epoch : Key) (now : Nat) (commitment : Commitment) : Commitment :=
  match commitment.fate with
  | .revoked time =>
    if commitment.epoch = epoch ∧ now ≤ time + CHALLENGE_ADJUDICATION_PERIOD then
      { commitment with fate := .convicted }
    else commitment
  | _ => commitment

/-- Its supporters still answer for the commitment; a root that challenges revoked is forgotten
when the guardian has not ruled on it in time. -/
def Commitment.Owing (state : Delegation) (commitment : Commitment) : Prop :=
  match commitment.fate with
  | .revoked time => state.now ≤ time + CHALLENGE_ADJUDICATION_PERIOD
  | .live | .convicted => True

instance (state : Delegation) (commitment : Commitment) : Decidable (commitment.Owing state) :=
  match fate : commitment.fate with
  | .revoked time => decidable_of_iff (state.now ≤ time + CHALLENGE_ADJUDICATION_PERIOD)
      (by rw [Commitment.Owing, fate])
  | .live => .isTrue (by rw [Commitment.Owing, fate]; trivial)
  | .convicted => .isTrue (by rw [Commitment.Owing, fate]; trivial)

namespace Pledges

def empty : Pledges := ⟨[], []⟩

def backers (pledges : Pledges) (epoch : Key) (root : Bytes32) : List Pledge :=
  pledges.submissions.filter fun pledge =>
    pledge.epoch = epoch ∧ pledge.root = root ∧ pledge.direct = false

def submit (pledges : Pledges) (pledge : Pledge) : Pledges :=
  { pledges with submissions := pledge :: pledges.submissions }

def commit (pledges : Pledges) (epoch : Key) (root : Bytes32) (supporters : List Pledge) :
    Pledges :=
  if root = 0 then pledges
  else { pledges with commitments := ⟨epoch, root, supporters, .live⟩ :: pledges.commitments }

def judge (pledges : Pledges) (change : Commitment → Commitment) : Pledges :=
  { pledges with commitments := pledges.commitments.map change }

variable (state : Delegation)

def after (pledges : Pledges) : Move → Pledges
  | .vote attestor epoch root =>
    let voted := pledges.submit ⟨epoch, root, attestor, false, 0⟩
    if DELEGATION_QUORUM ≤ state.voteCount epoch root + 1 then
      voted.commit epoch root (voted.backers epoch root)
    else voted
  | .commit keeper epoch root =>
    let own : Pledge := ⟨epoch, root, keeper, true, 0⟩
    (pledges.submit own).commit epoch root (own :: pledges.backers epoch root)
  | .challenge _ epoch =>
    if DELEGATION_CHALLENGE_THRESHOLD ≤ state.challengeCount epoch + 1 then
      pledges.judge (Commitment.revoke epoch (.revoked state.now))
    else pledges
  | .revoke epoch => pledges.judge (Commitment.revoke epoch .convicted)
  | .confirm epoch => pledges.judge (Commitment.convict epoch state.now)
  | .slash keeper amount =>
    { submissions := pledges.submissions.map (Pledge.mark keeper amount)
      commitments := pledges.commitments.map fun commitment =>
        (commitment.mark keeper amount).dismiss keeper }
  | .release keeper => pledges.judge (Commitment.dismiss keeper)
  | .finalize epoch =>
    { pledges with commitments := pledges.commitments.filter fun commitment =>
        ¬(commitment.fate = .live ∧ commitment.epoch = epoch) }
  | _ => pledges

/-- The supporters of every root that is committed, or revoked and not settled yet, have their
bonds, except for what was slashed. -/
def Slashable (pledges : Pledges) : Prop :=
  ∀ commitment ∈ pledges.commitments, ∀ pledge ∈ commitment.supporters,
    commitment.Owing state →
      KEEPER_BOND_MINIMUM ≤ state.bonds pledge.supporter + pledge.slashed

instance (pledges : Pledges) : Decidable (pledges.Slashable state) :=
  inferInstanceAs (Decidable (∀ _ ∈ _, _))

/-- The account has put a root of the epoch forward. -/
def Supported (pledges : Pledges) (epoch : Key) (account : Address) : Prop :=
  ∃ pledge ∈ pledges.submissions, pledge.epoch = epoch ∧ pledge.supporter = account

/-- A determination of fraud freezes the bonds of those who supported the root, and no bond of
anybody who supported no root of the epoch. -/
def Convicts (state next : Delegation) (pledges : Pledges) : Move → Prop
  | .revoke epoch =>
    (∀ commitment ∈ pledges.commitments, commitment.fate = .live → commitment.epoch = epoch →
      ∀ pledge ∈ commitment.supporters, next.frozen pledge.supporter = true) ∧
    ∀ account, next.frozen account = true →
      state.frozen account = true ∨ pledges.Supported epoch account
  | .confirm epoch =>
    (∀ commitment ∈ pledges.commitments, ∀ time, commitment.fate = .revoked time →
      commitment.epoch = epoch → state.now ≤ time + CHALLENGE_ADJUDICATION_PERIOD →
      ∀ pledge ∈ commitment.supporters, next.frozen pledge.supporter = true) ∧
    ∀ account, next.frozen account = true →
      state.frozen account = true ∨ pledges.Supported epoch account
  | _ => True

/-- What keeps the locks whole: whoever voted in the current epoch keeps the minimum; while
challenges are being judged, no other keeper takes the place of the committer and the epoch does
not end; and no root is revoked by challenges after a determination of fraud in its epoch. -/
def Safe : Move → Prop
  | .withdraw keeper amount =>
    state.voted state.epoch keeper = true → KEEPER_BOND_MINIMUM ≤ state.bonds keeper - amount
  | .commit keeper epoch _ => state.Adjudicating epoch →
      state.committer epoch = 0 ∨ state.committer epoch = keeper
  | .challenge _ epoch => DELEGATION_CHALLENGE_THRESHOLD ≤ state.challengeCount epoch + 1 →
      state.succeeded epoch = false
  | .finalize epoch => ¬state.Adjudicating epoch
  | _ => True

instance : (move : Move) → Decidable (Safe state move)
  | .withdraw _ _ => inferInstanceAs (Decidable (_ → _))
  | .commit _ _ _ => inferInstanceAs (Decidable (_ → _))
  | .challenge _ _ => inferInstanceAs (Decidable (_ → _))
  | .finalize _ => inferInstanceAs (Decidable (¬_))
  | .idle | .advance _ | .vote _ _ _ | .revoke _ | .confirm _ | .deposit _ _ | .slash _ _
  | .release _ => .isTrue trivial

end Pledges

section Held

variable {state next : Delegation} {epoch : Key} {account : Address}

/-- The vault knows the account as one that put a root of the epoch forward. -/
def Delegation.Backs (state : Delegation) (epoch : Key) (account : Address) : Prop :=
  state.voted epoch account = true ∧ account ∈ state.attestors epoch ∨
    state.committer epoch = account

/-- The supporter's bond and what was slashed of it make a full bond. -/
def Pledge.Bonded (state : Delegation) (pledge : Pledge) : Prop :=
  KEEPER_BOND_MINIMUM ≤ state.bonds pledge.supporter + pledge.slashed

/-- How the bond behind a pledge is held for a commitment. -/
def Commitment.Holds (state : Delegation) (commitment : Commitment) (pledge : Pledge) : Prop :=
  match commitment.fate with
  | .live => pledge.Bonded state ∧ commitment.epoch = state.epoch ∧
      state.Open commitment.epoch ∧ state.Backs commitment.epoch pledge.supporter
  | .revoked time => state.now ≤ time + CHALLENGE_ADJUDICATION_PERIOD →
      pledge.Bonded state ∧ (state.frozen pledge.supporter = true ∨
        commitment.epoch = state.epoch ∧ state.succeeded commitment.epoch = false ∧ 0 < time ∧
          time ≤ state.revokedAt commitment.epoch ∧
          state.Backs commitment.epoch pledge.supporter)
  | .convicted => pledge.Bonded state ∧ state.frozen pledge.supporter = true

theorem Delegation.Backs.submitted (backs : state.Backs epoch account) :
    state.Submitted epoch account := backs.imp And.left id

/-- What the vault knows of an account in an epoch gets no worse for its bond. -/
structure Delegation.Keeps (state next : Delegation) (epoch : Key) (account : Address) : Prop where
  bonds : state.bonds account ≤ next.bonds account := by exact le_refl _
  frozen : state.frozen account = true → next.frozen account = true := by exact id
  now : state.now ≤ next.now := by exact le_refl _
  current : next.epoch = state.epoch := by rfl
  backs : state.Open epoch ∨ state.Adjudicating epoch → state.Backs epoch account →
    next.Backs epoch account := by exact fun _ => id
  succeeded : state.succeeded epoch = false → next.succeeded epoch = false := by exact id
  revokedAt : state.revokedAt epoch ≤ next.revokedAt epoch := by exact le_refl _

section

variable {commitment : Commitment} {pledge : Pledge} (holds : commitment.Holds state pledge)
include holds

/-- A pledge holds on through what keeps its supporter's bond. -/
theorem Commitment.Holds.keep
    (live : commitment.fate = .live → state.Open commitment.epoch → next.Open commitment.epoch)
    (keeps : state.Keeps next commitment.epoch pledge.supporter) :
    commitment.Holds next pledge := by
  have bonds := Nat.add_le_add_right keeps.bonds pledge.slashed
  unfold Holds at holds ⊢
  cases fate : commitment.fate with
  | live =>
    rw [fate] at holds
    obtain ⟨bonded, current, unused, backs⟩ := holds
    exact ⟨bonded.trans bonds, current.trans keeps.current.symm, live fate unused,
      keeps.backs (.inl unused) backs⟩
  | revoked time =>
    rw [fate] at holds
    intro soon
    have sooner := keeps.now.trans soon
    obtain ⟨bonded, frozen | ⟨current, undecided, positive, later, backs⟩⟩ := holds sooner
    · exact ⟨bonded.trans bonds, .inl (keeps.frozen frozen)⟩
    · have adjudicating : state.Adjudicating commitment.epoch :=
        ⟨positive.trans_le later, undecided, sooner.trans (Nat.add_le_add_right later _)⟩
      exact ⟨bonded.trans bonds, .inr ⟨current.trans keeps.current.symm,
        keeps.succeeded undecided, positive, later.trans keeps.revokedAt,
        keeps.backs (.inr adjudicating) backs⟩⟩
  | convicted =>
    rw [fate] at holds
    exact ⟨holds.1.trans bonds, keeps.frozen holds.2⟩

theorem Commitment.Holds.withheld (owing : commitment.Owing state) :
    state.frozen pledge.supporter = true ∨ state.Locked pledge.supporter := by
  unfold Holds at holds
  unfold Owing at owing
  cases fate : commitment.fate with
  | live =>
    rw [fate] at holds
    obtain ⟨-, current, live, backs⟩ := holds
    rw [current] at live backs
    exact .inr ⟨backs.submitted, .inl live⟩
  | revoked time =>
    rw [fate] at holds owing
    obtain ⟨-, frozen | ⟨current, undecided, positive, later, backs⟩⟩ := holds owing
    · exact .inl frozen
    · have pending : state.Adjudicating commitment.epoch :=
        ⟨positive.trans_le later, undecided, owing.trans (Nat.add_le_add_right later _)⟩
      rw [current] at pending backs
      exact .inr ⟨backs.submitted, .inr pending⟩
  | convicted =>
    rw [fate] at holds
    exact .inl holds.2

end

end Held

/- Every move of the delegation protocol keeps the bonds behind the roots held. -/

/-- A submission as the vault has recorded it; a vote of the current epoch has its bond. -/
structure Pledge.Recorded (state : Delegation) (pledge : Pledge) : Prop where
  someone : pledge.supporter ≠ 0
  past : pledge.epoch ≤ state.epoch
  voted : pledge.direct = false → state.voted pledge.epoch pledge.supporter = true ∧
    pledge.supporter ∈ state.attestors pledge.epoch
  bonded : pledge.direct = false → pledge.epoch = state.epoch → pledge.Bonded state

/-- The bonds behind all submissions and commitments are held. -/
structure Pledges.Backed (state : Delegation) (pledges : Pledges) : Prop where
  started : 0 < state.now
  nobody : state.bonds 0 = 0
  judged : ∀ epoch, state.revokedAt epoch ≤ state.now
  unused : ∀ epoch, state.epoch ≤ epoch → state.finalized epoch = false
  recorded : ∀ pledge ∈ pledges.submissions, pledge.Recorded state
  attested : ∀ epoch, ∀ account ∈ state.attestors epoch, pledges.Supported epoch account
  committed : ∀ epoch, state.committer epoch ≠ 0 →
    pledges.Supported epoch (state.committer epoch)
  held : ∀ commitment ∈ pledges.commitments, ∀ pledge ∈ commitment.supporters,
    pledge.supporter ≠ 0 ∧ commitment.Holds state pledge

section Freezing

variable {state : Delegation} {epoch : Key} {account : Address}

theorem foldl_update_true (accounts : List Address) (start : Address → Bool) (account : Address) :
    accounts.foldl (fun flags each => Function.update flags each true) start account = true ↔
      account ∈ accounts ∨ start account = true := by
  induction accounts generalizing start with
  | nil => simp
  | cons first rest ih =>
    rw [foldl_cons, ih, mem_cons, Function.update_apply]
    by_cases same : account = first <;> simp [same]

theorem freezeSubmitters_eq_true : state.freezeSubmitters epoch account = true ↔
    account ∈ state.attestors epoch ∨ account = state.committer epoch ∧ account ≠ 0 ∨
      state.frozen account = true := by
  rw [Delegation.freezeSubmitters, foldl_update_true]
  refine or_congr_right ?_
  by_cases none : state.committer epoch = 0
  · rw [if_neg (not_not.mpr none), none]
    exact ⟨.inr, fun either => either.resolve_left fun both => both.2 both.1⟩
  · rw [if_pos none, Function.update_apply]
    by_cases same : account = state.committer epoch
    · rw [if_pos same]
      exact ⟨fun _ => .inl ⟨same, fun zero => none (same.symm.trans zero)⟩, fun _ => rfl⟩
    · rw [if_neg same]
      exact ⟨.inr, fun either => either.resolve_left fun both => same both.1⟩

theorem Delegation.Backs.frozen (backs : state.Backs epoch account) (someone : account ≠ 0) :
    state.freezeSubmitters epoch account = true := by
  obtain ⟨-, listed⟩ | committed := backs
  · exact freezeSubmitters_eq_true.mpr (.inl listed)
  · exact freezeSubmitters_eq_true.mpr (.inr (.inl ⟨committed.symm, someone⟩))

theorem frozen_freezeSubmitters (frozen : state.frozen account = true) :
    state.freezeSubmitters epoch account = true := freezeSubmitters_eq_true.mpr (.inr (.inr frozen))

theorem Pledges.Backed.frozen_supported {pledges : Pledges} (backed : pledges.Backed state)
    (frozen : state.freezeSubmitters epoch account = true) :
    state.frozen account = true ∨ pledges.Supported epoch account := by
  obtain listed | ⟨rfl, someone⟩ | before := freezeSubmitters_eq_true.mp frozen
  · exact .inr (backed.attested epoch account listed)
  · exact .inr (backed.committed epoch someone)
  · exact .inl before

end Freezing

section Bonds

variable {state : Delegation} {pledges : Pledges}

section

variable (backed : pledges.Backed state)
include backed

theorem Pledges.Backed.slashable : pledges.Slashable state := by
  intro commitment member pledge backer owing
  have holds := (backed.held commitment member pledge backer).2
  unfold Commitment.Holds at holds
  unfold Commitment.Owing at owing
  cases fate : commitment.fate with
  | live =>
    rw [fate] at holds
    exact holds.1
  | revoked time =>
    rw [fate] at holds owing
    exact (holds owing).1
  | convicted =>
    rw [fate] at holds
    exact holds.1

theorem Pledges.Backed.advance (seconds : Nat) :
    pledges.Backed { state with now := state.now + seconds } := { backed with
  started := Nat.add_pos_left backed.started seconds
  judged := fun epoch => (backed.judged epoch).trans (le_add_right _ _)
  recorded := fun pledge member => { backed.recorded pledge member with }
  held := by
    intro commitment member pledge backer
    obtain ⟨someone, holds⟩ := backed.held commitment member pledge backer
    exact ⟨someone, holds.keep (fun _ => id) { now := le_add_right _ _ }⟩ }

/-- Pledges stay backed when a bond grows, or shrinks while it is free. -/
theorem Pledges.Backed.bond {keeper : Address} {bond : Nat}
    (someone : keeper = 0 → bond = 0) (votes : state.voted state.epoch keeper = true →
      state.bonds keeper ≤ bond ∨ KEEPER_BOND_MINIMUM ≤ bond) (free : state.bonds keeper ≤ bond ∨
      state.frozen keeper = false ∧ ¬state.Locked keeper) :
    pledges.Backed (state.afterBond keeper bond) := { backed with
  nobody := by
    simp only [Delegation.afterBond]
    by_cases zero : keeper = 0
    · rw [zero, Function.update_self, someone zero]
    · rw [Function.update_of_ne (Ne.symm zero)]
      exact backed.nobody
  recorded := by
    intro pledge member
    have before := backed.recorded pledge member
    refine { before with bonded := fun vote current => ?_ }
    have bonded := before.bonded vote current
    simp only [Pledge.Bonded, Delegation.afterBond] at bonded ⊢
    by_cases same : pledge.supporter = keeper
    · have marked := (before.voted vote).1
      rw [current, same] at marked
      rw [same] at bonded
      rw [same, Function.update_self]
      obtain raised | enough := votes marked
      · exact bonded.trans (Nat.add_le_add_right raised _)
      · exact enough.trans (le_add_right _ _)
    · rw [Function.update_of_ne same]
      exact bonded
  held := by
    intro commitment member pledge backer
    obtain ⟨nonzero, holds⟩ := backed.held commitment member pledge backer
    refine ⟨nonzero, ?_⟩
    have keeps : state.bonds pledge.supporter ≤
        (state.afterBond keeper bond).bonds pledge.supporter →
        commitment.Holds (state.afterBond keeper bond) pledge :=
      fun bonds => holds.keep (fun _ => id) { bonds }
    by_cases same : pledge.supporter = keeper
    · obtain raised | ⟨thawed, unlocked⟩ := free
      · refine keeps ?_
        simp only [Delegation.afterBond]
        rw [same, Function.update_self]
        exact raised
      · -- an unfrozen, unlocked account answers only for what is settled
        by_cases owing : commitment.Owing state
        · obtain frozen | locked := holds.withheld owing
          · rw [same, thawed] at frozen
            contradiction
          · rw [same] at locked
            contradiction
        · unfold Commitment.Owing at owing
          unfold Commitment.Holds
          cases fate : commitment.fate with
          | revoked time =>
            rw [fate] at owing
            exact fun soon => absurd soon owing
          | live =>
            rw [fate] at owing
            exact absurd trivial owing
          | convicted =>
            rw [fate] at owing
            exact absurd trivial owing
    · refine keeps ?_
      simp only [Delegation.afterBond]
      rw [Function.update_of_ne same] }

theorem Pledges.Backed.someone {account : Address}
    (bonded : KEEPER_BOND_MINIMUM ≤ state.bonds account) : account ≠ 0 := by
  rintro rfl
  rw [backed.nobody] at bonded
  exact absurd bonded (by decide)

end

end Bonds

section Submissions

variable {state : Delegation} {pledges : Pledges} {epoch : Key} {root : Bytes32} {account : Address}

theorem Pledges.Supported.submit (supported : pledges.Supported epoch account)
    (pledge : Pledge) : (pledges.submit pledge).Supported epoch account := by
  obtain ⟨earlier, member, both⟩ := supported
  exact ⟨earlier, mem_cons_of_mem _ member, both⟩

theorem Pledge.Recorded.holds {pledge : Pledge} (recorded : pledge.Recorded state)
    (current : epoch = state.epoch) (live : state.Open epoch)
    (voted : pledge.epoch = epoch ∧ pledge.root = root ∧ pledge.direct = false)
    (supporters : List Pledge) :
    pledge.supporter ≠ 0 ∧ Commitment.Holds state ⟨epoch, root, supporters, .live⟩ pledge := by
  obtain ⟨rfl, rfl, vote⟩ := voted
  exact ⟨recorded.someone, recorded.bonded vote current, current, live, .inl (recorded.voted vote)⟩

theorem Pledges.held_commit {supporters : List Pledge}
    (old : ∀ commitment ∈ pledges.commitments, ∀ pledge ∈ commitment.supporters,
      pledge.supporter ≠ 0 ∧ commitment.Holds state pledge)
    (new : root ≠ 0 → ∀ pledge ∈ supporters, pledge.supporter ≠ 0 ∧
      Commitment.Holds state ⟨epoch, root, supporters, .live⟩ pledge) :
    ∀ commitment ∈ (pledges.commit epoch root supporters).commitments,
      ∀ pledge ∈ commitment.supporters,
        pledge.supporter ≠ 0 ∧ commitment.Holds state pledge := by
  intro commitment member
  unfold Pledges.commit at member
  split at member
  · exact old commitment member
  next nonzero =>
    obtain rfl | earlier := mem_cons.mp member
    · exact new nonzero
    · exact old commitment earlier

theorem Pledges.submissions_commit (supporters : List Pledge) :
    (pledges.commit epoch root supporters).submissions = pledges.submissions := by
  unfold Pledges.commit
  split <;> rfl

theorem Pledges.Supported.commit {other : Key}
    (supported : pledges.Supported other account) (supporters : List Pledge) :
    (pledges.commit epoch root supporters).Supported other account := by
  unfold Pledges.Supported
  rw [Pledges.submissions_commit]
  exact supported

theorem marked_afterVote (attestor : Address) {other : Key}
    (both : state.voted other account = true ∧ account ∈ state.attestors other) :
    (state.afterVote attestor epoch root).voted other account = true ∧
      account ∈ (state.afterVote attestor epoch root).attestors other := by
  simp only [Delegation.afterVote]
  by_cases same : other = epoch
  · subst same
    simp only [Function.update_self, Function.update_apply, both.1, ite_self, mem_append,
      both.2, true_or, and_self]
  · rw [Function.update_of_ne same, Function.update_of_ne same]
    exact both

/-- A vote is a pledge with a bond behind it. -/
theorem Pledges.Backed.vote (backed : pledges.Backed state) {attestor : Address}
    (current : epoch = state.epoch) (vacant : state.root epoch = 0)
    (bonded : KEEPER_BOND_MINIMUM ≤ state.bonds attestor) :
    (pledges.after state (.vote attestor epoch root)).Backed
      (state.afterVote attestor epoch root) := by
  have recorded : ∀ pledge ∈ (pledges.submit ⟨epoch, root, attestor, false, 0⟩).submissions,
      pledge.Recorded (state.afterVote attestor epoch root) := by
    intro pledge member
    obtain rfl | earlier := mem_cons.mp member
    · exact {
        someone := backed.someone bonded
        past := current.le
        voted := fun _ => by simp [Delegation.afterVote]
        bonded := fun _ _ => bonded }
    · have before := backed.recorded pledge earlier
      exact { before with voted := fun vote => marked_afterVote attestor (before.voted vote) }
  have attested : ∀ other, ∀ account ∈ (state.afterVote attestor epoch root).attestors other,
      (pledges.submit ⟨epoch, root, attestor, false, 0⟩).Supported other account := by
    intro other account listed
    simp only [Delegation.afterVote] at listed
    by_cases same : other = epoch
    · subst same
      rw [Function.update_self, mem_append] at listed
      obtain earlier | last := listed
      · exact (backed.attested other account earlier).submit _
      · exact ⟨_, mem_cons_self, rfl, (mem_singleton.mp last).symm⟩
    · rw [Function.update_of_ne same] at listed
      exact (backed.attested other account listed).submit _
  have held : ∀ commitment ∈ pledges.commitments, ∀ pledge ∈ commitment.supporters,
      pledge.supporter ≠ 0 ∧
        commitment.Holds (state.afterVote attestor epoch root) pledge := by
    intro commitment member pledge backer
    obtain ⟨someone, holds⟩ := backed.held commitment member pledge backer
    refine ⟨someone, holds.keep (fun _ live => ?_) ?_⟩
    · have other : commitment.epoch ≠ epoch := fun same => live.1 (same ▸ vacant)
      simp only [Delegation.afterVote, Delegation.Open] at live ⊢
      split
      · rwa [Function.update_of_ne other]
      · exact live
    · exact { backs := fun _ backs => backs.imp_left (marked_afterVote attestor) }
  have rest : ∀ pledges' : Pledges,
      pledges'.submissions = (pledges.submit ⟨epoch, root, attestor, false, 0⟩).submissions →
      (∀ commitment ∈ pledges'.commitments, ∀ pledge ∈ commitment.supporters,
        pledge.supporter ≠ 0 ∧
          commitment.Holds (state.afterVote attestor epoch root) pledge) →
      pledges'.Backed (state.afterVote attestor epoch root) := by
    intro pledges' same holds
    have supported : ∀ other account,
        (pledges.submit ⟨epoch, root, attestor, false, 0⟩).Supported other account →
        pledges'.Supported other account := by
      intro other account earlier
      unfold Pledges.Supported
      rw [same]
      exact earlier
    exact { backed with
      recorded := same ▸ recorded
      attested := fun other account listed => supported _ _ (attested other account listed)
      committed := fun other nonzero =>
        supported _ _ ((backed.committed other nonzero).submit _)
      held := holds }
  simp only [Pledges.after]
  split
  next reached =>
    refine rest _ (Pledges.submissions_commit _) (Pledges.held_commit held ?_)
    intro nonzero pledge member
    obtain ⟨inside, voted⟩ := mem_filter.mp member
    refine (recorded pledge inside).holds current ?_ (of_decide_eq_true voted) _
    simp only [Delegation.Open, Delegation.afterVote, if_pos reached, Function.update_self]
    exact ⟨nonzero, backed.unused epoch current.ge⟩
  next => exact rest _ rfl held

/-- A commitment turns its votes into pledges. -/
theorem Pledges.Backed.commit (backed : pledges.Backed state) {keeper : Address}
    (current : epoch = state.epoch) (vacant : state.root epoch = 0)
    (bonded : KEEPER_BOND_MINIMUM ≤ state.bonds keeper)
    (safe : Pledges.Safe state (.commit keeper epoch root)) :
    (pledges.after state (.commit keeper epoch root)).Backed
      (state.afterCommit keeper epoch root) := by
  have nonzero := backed.someone bonded
  have submissions : (pledges.after state (.commit keeper epoch root)).submissions =
      ⟨epoch, root, keeper, true, 0⟩ :: pledges.submissions := Pledges.submissions_commit _
  have recorded : ∀ pledge ∈ pledges.submissions,
      pledge.Recorded (state.afterCommit keeper epoch root) := by
    exact fun pledge member => { backed.recorded pledge member with }
  have supported : ∀ other account, pledges.Supported other account →
      (pledges.after state (.commit keeper epoch root)).Supported other account :=
    fun _ _ earlier => (earlier.submit _).commit _
  refine { backed with
    recorded := ?_
    attested := fun other account listed => supported _ _ (backed.attested other account listed)
    committed := ?_
    held := Pledges.held_commit ?_ ?_ }
  · rw [submissions]
    intro pledge member
    obtain rfl | earlier := mem_cons.mp member
    · exact ⟨nonzero, current.le, nofun, nofun⟩
    · exact recorded pledge earlier
  · intro other someone
    simp only [Delegation.afterCommit] at someone ⊢
    by_cases same : other = epoch
    · subst same
      rw [Function.update_self]
      refine ⟨⟨other, root, keeper, true, 0⟩, ?_, rfl, rfl⟩
      rw [submissions]
      exact mem_cons_self
    · rw [Function.update_of_ne same] at someone ⊢
      exact supported _ _ (backed.committed other someone)
  · -- the committer's place is taken only by itself while challenges are judged
    intro commitment member pledge backer
    obtain ⟨someone, holds⟩ := backed.held commitment member pledge backer
    refine ⟨someone, holds.keep (fun _ live => ?_) ?_⟩
    · have other : commitment.epoch ≠ epoch := fun same => live.1 (same ▸ vacant)
      simp only [Delegation.afterCommit, Delegation.Open] at live ⊢
      rwa [Function.update_of_ne other]
    · refine { backs := fun busy backs => backs.imp_right fun committer => ?_ }
      simp only [Delegation.afterCommit]
      by_cases same : commitment.epoch = epoch
      · rw [same] at busy committer ⊢
        rw [Function.update_self]
        obtain live | judged := busy
        · exact absurd vacant live.1
        · obtain nobody | own := safe judged
          · exact absurd (committer.symm.trans nobody) someone
          · exact own.symm.trans committer
      · rw [Function.update_of_ne same]
        exact committer
  · intro filled pledge member
    have live : (state.afterCommit keeper epoch root).Open epoch := by
      simp only [Delegation.Open, Delegation.afterCommit, Function.update_self]
      exact ⟨filled, backed.unused epoch current.ge⟩
    obtain rfl | vote := mem_cons.mp member
    · exact ⟨nonzero, bonded, current, live, .inr (Function.update_self ..)⟩
    · obtain ⟨inside, voted⟩ := mem_filter.mp vote
      exact (recorded pledge inside).holds current live (of_decide_eq_true voted) _

end Submissions

end Cruzible
