import Aethelred.Vm.Slashing
import Mathlib.Data.List.GetD

/- Runs of challenges, votes and finalisations. A finalisation keeps to the votes exactly where the
committee has decided: the votes cast so far settle the challenge at any moment, also with none
cast, and the challenge is gone whatever they say. -/
namespace Vm

open Go Attempt Bytes List Nat Bank

namespace Challenge

variable (challenge : Challenge)

def members : List Address := challenge.committee.dedup

def membersFor : Nat :=
  challenge.members.countP fun member =>
    (challenge.committeeVotes.lookup member).any (·.agreesWithChallenge)

def notVoted : Nat :=
  challenge.members.countP fun member => challenge.committeeVotes.lookup member = none

variable (threshold : ℚ)

def needed : ℤ := ⌈threshold * challenge.committee.length⌉

/-- The members in favour suffice. -/
def Reached : Prop :=
  challenge.needed threshold ≤ challenge.membersFor

/-- They cannot suffice any more. -/
def Lost : Prop :=
  ((challenge.membersFor + challenge.notVoted : Nat) : ℤ) < challenge.needed threshold

/-- Only members have voted, and no member stands twice in the committee. -/
structure Proper (challenge : Challenge) : Prop where
  enrolled : ∀ voter ∈ challenge.committeeVotes.keys, voter ∈ challenge.committee
  distinct : challenge.committee.Nodup

section Votes

variable {challenge : Challenge} {threshold : ℚ}

section

variable (proper : challenge.Proper)
include proper

theorem Proper.voters :
    (challenge.members.filter fun member =>
      (challenge.committeeVotes.lookup member).isSome).Perm challenge.committeeVotes.keys := by
  refine (perm_ext_iff_of_nodup ((nodup_dedup _).filter _)
    challenge.committeeVotes.keys_nodup).mpr fun voter => ?_
  rw [mem_filter, AList.lookup_isSome]
  exact ⟨fun both => both.2, fun voted =>
    ⟨mem_dedup.mpr (proper.enrolled voter voted), voted⟩⟩

theorem Proper.votesForChallenge_eq :
    challenge.votesForChallenge = challenge.membersFor := by
  unfold votesForChallenge Map.countP membersFor
  rw [← proper.voters.countP_eq, countP_filter]
  refine countP_congr fun member _ => ?_
  cases challenge.committeeVotes.lookup member <;> simp

theorem Proper.totalVotes_add :
    challenge.totalVotes + challenge.notVoted = challenge.committee.length := by
  have split := length_eq_countP_add_countP
    (fun member => (challenge.committeeVotes.lookup member).isSome) (l := challenge.members)
  have voted := proper.voters.length_eq
  rw [← countP_eq_length_filter] at voted
  rw [members, proper.distinct.dedup] at split voted
  rw [totalVotes, notVoted, members, proper.distinct.dedup, split, voted]
  congr 1
  refine countP_congr fun member _ => ?_
  simp

theorem Proper.votes_le :
    challenge.membersFor ≤ challenge.totalVotes := by
  rw [← proper.votesForChallenge_eq]
  exact countP_le_length

theorem Proper.succeeds_iff :
    challenge.Succeeds threshold ↔
      challenge.totalVotes ≠ 0 ∧ threshold * challenge.totalVotes ≤ challenge.membersFor := by
  refine and_congr_right fun some => ?_
  have positive : (0 : ℚ) < challenge.totalVotes := by
    exact_mod_cast pos_of_ne_zero some
  rw [proper.votesForChallenge_eq]
  exact le_div_iff₀ positive

theorem Proper.succeeds_of_reached (reached : challenge.Reached threshold)
    (some : challenge.totalVotes ≠ 0) : challenge.Succeeds threshold := by
  refine proper.succeeds_iff.mpr ⟨some, ?_⟩
  have enough : threshold * challenge.committee.length ≤ challenge.membersFor := by
    exact_mod_cast Int.ceil_le.mp reached
  have cast : (challenge.totalVotes : ℚ) ≤ challenge.committee.length := by
    exact_mod_cast le_of_add_right_le (le_of_eq proper.totalVotes_add)
  rcases le_total threshold 0 with low | high
  · exact le_trans (mul_nonpos_of_nonpos_of_nonneg low (cast_nonneg _)) (cast_nonneg _)
  · exact le_trans (mul_le_mul_of_nonneg_left cast high) enough

/-- A lost challenge does not succeed. -/
theorem Proper.not_succeeds_of_lost (lost : challenge.Lost threshold) :
    ¬challenge.Succeeds threshold := by
  intro succeeds
  obtain ⟨some, share⟩ := proper.succeeds_iff.mp succeeds
  have positive : (0 : ℚ) < challenge.totalVotes := by
    exact_mod_cast pos_of_ne_zero some
  have most : (challenge.membersFor : ℚ) ≤ challenge.totalVotes := by
    exact_mod_cast proper.votes_le
  -- A share of the votes cast is at most all of them.
  have most_one : threshold ≤ 1 := by
    by_contra beyond
    push Not at beyond
    nlinarith
  have all : (challenge.committee.length : ℚ) = challenge.totalVotes + challenge.notVoted := by
    exact_mod_cast proper.totalVotes_add.symm
  have rest : threshold * challenge.notVoted ≤ challenge.notVoted :=
    mul_le_of_le_one_left (cast_nonneg _) most_one
  have within_reach : challenge.needed threshold ≤
      ((challenge.membersFor + challenge.notVoted : Nat) : ℤ) := by
    refine Int.ceil_le.mpr ?_
    rw [all, mul_add]
    push_cast
    exact add_le_add share rest
  exact absurd lost (not_lt.mpr within_reach)

end

end Votes

end Challenge

namespace SlashingManager

section Draw

variable {used : List Nat} {size : Nat}

theorem freeIndex_lt (positive : 0 < size) (fuel : Nat) {index : Nat} (inside : index < size) :
    freeIndex used size fuel index < size := by
  induction fuel generalizing index with
  | zero => exact inside
  | succ fuel ih =>
    rw [freeIndex]
    split
    · exact ih (mod_lt _ positive)
    · exact inside

theorem freeIndex_notMem {fuel index : Nat} (inside : index < size)
    (free : ∃ steps < fuel, (index + steps) % size ∉ used) :
    freeIndex used size fuel index ∉ used := by
  induction fuel generalizing index with
  | zero =>
    obtain ⟨steps, impossible, _⟩ := free
    omega
  | succ fuel ih =>
    obtain ⟨steps, bound, unused⟩ := free
    rw [freeIndex]
    split
    · rename_i taken
      have further : steps ≠ 0 := by
        rintro rfl
        rw [add_zero, mod_eq_of_lt inside] at unused
        exact unused taken
      refine ih (mod_lt _ (by omega)) ⟨steps - 1, by omega, ?_⟩
      rw [Nat.mod_add_mod, Nat.add_assoc, Nat.add_sub_cancel' (Nat.one_le_iff_ne_zero.mpr further)]
      exact unused
    · assumption

theorem freeIndex_of_room (room : used.length < size) {fuel index : Nat} (inside : index < size)
    (enough : size ≤ fuel) : freeIndex used size fuel index ∉ used := by
  have unused : ∃ value < size, value ∉ used := by
    by_contra full
    push Not at full
    have all : range size ⊆ used := fun value member => full value (mem_range.mp member)
    have long := (nodup_range.subperm all).length_le
    rw [length_range] at long
    omega
  obtain ⟨value, bound, absent⟩ := unused
  have early := mod_lt (value + size - index) (zero_lt_of_lt room)
  refine freeIndex_notMem inside ⟨(value + size - index) % size, by omega, ?_⟩
  have around : index + (value + size - index) = value + size := by omega
  rw [add_mod_mod, around, add_mod_right, mod_eq_of_lt bound]
  exact absent

/-- So many nodes, from different positions of the list. -/
structure Drawn (available : List Address) (count : Nat) (selected : List Address) : Prop where
  length : selected.length = count
  listed : ∀ node ∈ selected, node ∈ available
  positions : ∃ positions : List Nat, positions.Nodup ∧
    (∀ position ∈ positions, position < available.length) ∧
    selected = positions.map fun position => available.getD position 0
  distinct : available.Nodup → selected.Nodup

variable {available : List Address}

theorem drawn_of_positions {positions : List Nat} (nodup : positions.Nodup)
    (inside : ∀ position ∈ positions, position < available.length) :
    Drawn available positions.length
      (positions.map fun position => available.getD position 0) where
  length := length_map _
  listed node member := by
    obtain ⟨position, listed, rfl⟩ := mem_map.mp member
    rw [getD_eq_getElem _ _ (inside position listed)]
    exact getElem_mem _
  positions := ⟨positions, nodup, inside, rfl⟩
  distinct distinct := by
    refine Nodup.map_on (fun first member second member' same => ?_) nodup
    have bound := inside first member
    have bound' := inside second member'
    rw [getD_eq_getElem _ _ bound, getD_eq_getElem _ _ bound'] at same
    exact (Nodup.getElem_inj_iff distinct).mp same

variable (sha256 : List UInt8 → Hash) (challengeId : Hash) {randomness : List UInt8} {count : Nat}

theorem committeeIndices_eq : committeeIndices sha256 size challengeId count =
    randomIndices sha256 size (bigEndian 32 challengeId) count := by
  induction count with
  | zero => rfl
  | succ count ih => rw [committeeIndices, randomIndices, ih, nextIndex]

theorem length_randomIndices : (randomIndices sha256 size randomness count).length = count := by
  induction count with
  | zero => rfl
  | succ count ih => rw [randomIndices, length_append, ih, length_singleton]

theorem randomIndices_nodup (enough : count ≤ size) :
    (randomIndices sha256 size randomness count).Nodup ∧
      ∀ index ∈ randomIndices sha256 size randomness count, index < size := by
  induction count with
  | zero => exact ⟨nodup_nil, fun _ impossible => nomatch impossible⟩
  | succ count ih =>
    obtain ⟨nodup, inside⟩ := ih (le_of_succ_le enough)
    have positive : 0 < size := lt_of_lt_of_le (succ_pos count) enough
    have room : (randomIndices sha256 size randomness count).length < size := by
      rw [length_randomIndices]
      exact enough
    have start := mod_lt (leadingU64 (sha256 (randomness ++
      littleEndian 4 (count % 2 ^ 32)))) positive
    constructor
    · refine Nodup.append nodup (nodup_singleton _) ?_
      refine disjoint_singleton.mpr ?_
      exact freeIndex_of_room room start (le_refl size)
    · intro index member
      obtain earlier | last := mem_append.mp member
      · exact inside index earlier
      · rw [mem_singleton.mp last]
        exact freeIndex_lt positive _ start

theorem drawn_randomIndices (enough : count ≤ available.length) :
    Drawn available count ((randomIndices sha256 available.length randomness count).map
      fun index => available.getD index 0) := by
  have picked : (randomIndices sha256 available.length randomness count).Nodup ∧ _ :=
    randomIndices_nodup sha256 enough
  have drawn := drawn_of_positions picked.1 picked.2
  rwa [length_randomIndices] at drawn

theorem selectCommittee_of_enough (config : SlashingConfig)
    (enough : config.committeeSize ≤ available.length) :
    ∃ committee, selectCommittee sha256 config available challengeId = .ok committee ∧
      Drawn available config.committeeSize committee := by
  rw [selectCommittee, if_neg (not_lt.mpr enough), committeeIndices_eq]
  exact ⟨_, rfl, drawn_randomIndices sha256 enough⟩

theorem selectCommittee_nodup {config : SlashingConfig} {committee : List Address}
    (distinct : available.Nodup)
    (selected : selectCommittee sha256 config available challengeId = .ok committee) :
    committee.Nodup := by
  by_cases enough : config.committeeSize ≤ available.length
  · obtain ⟨_, done, drawn⟩ := selectCommittee_of_enough sha256 challengeId config enough
    obtain rfl := Except.ok.inj (done.symm.trans selected)
    exact drawn.distinct distinct
  · rw [selectCommittee, if_pos (Nat.lt_of_not_le enough)] at selected
    cases selected

/-- Probing ends at an index that is not used, a committee is refused only for want of nodes, and
both selections take different positions of the list they are given. -/
theorem selections_drawn (config : SlashingConfig) (available : List Address) (challengeId : Hash)
    (count : Nat) (randomness : List UInt8) :
    (∀ used fuel index, used.length < available.length → index < available.length →
      available.length ≤ fuel → freeIndex used available.length fuel index ∉ used) ∧
    (available.length < config.committeeSize →
      selectCommittee sha256 config available challengeId =
        .error (.Slashing (notEnoughNodes config.committeeSize available.length))) ∧
    (config.committeeSize ≤ available.length → ∃ committee,
      selectCommittee sha256 config available challengeId = .ok committee ∧
        Drawn available config.committeeSize committee) ∧
    Drawn available (min count available.length)
      (selectRandomNodes sha256 available count randomness) := by
  refine ⟨fun _ _ _ room inside enough => freeIndex_of_room room inside enough, fun few => ?_,
    selectCommittee_of_enough sha256 challengeId config, ?_⟩
  · rw [selectCommittee, if_pos few]
  · unfold selectRandomNodes
    split
    · rename_i all
      rw [min_eq_right all]
      have whole : Drawn available _ _ :=
        drawn_of_positions nodup_range fun _ => mem_range.mp
      rw [length_range] at whole
      convert whole using 1
      exact ext_getElem (by simp) fun index inside _ => by simp [inside]
    · rename_i more
      rw [Nat.min_eq_left (Nat.le_of_not_le more)]
      exact drawn_randomIndices sha256 (Nat.le_of_not_le more)

end Draw

section Frames

variable {α β : Type} {manager : SlashingManager}

/-- No challenge has changed. -/
def SameChallenges (before after : SlashingManager) : Prop := after.challenges = before.challenges

theorem SameChallenges.trans {a b c : SlashingManager} (first : SameChallenges a b)
    (second : SameChallenges b c) : SameChallenges a c := Eq.trans second first

variable (manager : SlashingManager)

theorem SameChallenges.refl : SameChallenges manager manager := rfl

/-- At most the bank has changed. -/
def OnlyBank (before after : SlashingManager) : Prop := ∃ bank, after = { before with bank }

theorem OnlyBank.trans {a b c : SlashingManager} (first : OnlyBank a b) (second : OnlyBank b c) :
    OnlyBank a c := by
  obtain ⟨_, rfl⟩ := first
  obtain ⟨bank, rfl⟩ := second
  exact ⟨bank, rfl⟩

theorem OnlyBank.refl : OnlyBank manager manager :=
  ⟨manager.bank, rfl⟩

theorem OnlyBank.challenges {before after : SlashingManager} (only : OnlyBank before after) :
    SameChallenges before after := by
  obtain ⟨bank, rfl⟩ := only
  rfl

theorem moves_onBank (call : Bank.Call α) : Moves OnlyBank (onBank call) := fun _ => ⟨_, rfl⟩

theorem moves_payReporter (condition : SlashingCondition) (reward : Nat) :
    Moves OnlyBank (payReporter condition reward) := by
  unfold payReporter
  split
  · exact .bind .trans (moves_onBank _) fun _ => moves_pure .refl _
  · exact moves_pure .refl _

theorem moves_executeSlash (condition : SlashingCondition) :
    Moves SameChallenges (executeSlash condition) := by
  have refl := SameChallenges.refl
  refine .bind .trans (moves_read refl) fun manager => ?_
  refine .bind .trans (moves_ensure refl _ _) fun _ => ?_
  refine .bind .trans (moves_ensure refl _ _) fun _ => ?_
  refine .bind .trans (moves_ensure refl _ _) fun _ => ?_
  refine .bind .trans (fun state => (moves_payReporter _ _ state).challenges) fun reward => ?_
  refine .bind .trans (fun state => (moves_onBank _ state).challenges) fun _ => ?_
  exact .bind .trans (fun _ => rfl) fun _ => moves_pure refl _

theorem moves_settle (challenge : Challenge) (currentTime : Nat) :
    Moves SameChallenges (settle challenge currentTime) := by
  have refl := SameChallenges.refl
  have unlocked (call : Bank.Call Unit) : Moves SameChallenges (onBank call) := fun _ => rfl
  refine .bind .trans (moves_read refl) fun manager => ?_
  split
  · exact .bind .trans (unlocked _) fun _ => moves_fail refl _
  · split
    · exact .bind .trans (unlocked _) fun _ => moves_executeSlash _
    · refine .bind .trans (unlocked _) fun _ => ?_
      exact .bind .trans (unlocked _) fun _ => moves_pure refl _

theorem onBank_bind_of_ok {call : Bank.Call α} {next : α → Call β} {value : α} {bank : Bank}
    (done : call manager.bank = (.ok value, bank)) :
    (onBank call >>= next) manager = next value { manager with bank } := by
  refine bind_of_ok ?_
  change (_, { manager with bank := _ }) = _
  rw [done]

theorem onBank_bind_of_error {call : Bank.Call α} {next : α → Call β}
    {reason : SystemContractError} {bank : Bank}
    (failed : call manager.bank = (.error reason, bank)) :
    (onBank call >>= next) manager = (.error reason, { manager with bank }) := by
  refine bind_of_error ?_
  change (_, { manager with bank := _ }) = _
  rw [failed]

end Frames

def offenses (manager : SlashingManager) (address : Address) : Nat :=
  (manager.offenseHistory.get address []).length

section Outcome

/-- A slash that goes through is in the history; one that fails half-way has cost the prover. -/
def SlashesProver (before : SlashingManager) (challenge : Challenge) :
    Except SystemContractError SlashingResult × SlashingManager → Prop
  | (.ok _, after) => before.offenses challenge.prover < after.offenses challenge.prover
  | (.error _, after) =>
    before.offenses challenge.prover < after.offenses challenge.prover ∨
    after.bank.balanceOf challenge.prover < before.bank.balanceOf challenge.prover

def BurnsPenalty (before : SlashingManager) (challenge : Challenge) :
    Except SystemContractError SlashingResult × SlashingManager → Prop
  | (.ok _, after) =>
    after.offenses challenge.prover = before.offenses challenge.prover ∧
    after.bank.balanceOf challenge.challenger < before.bank.balanceOf challenge.challenger
  | (.error _, _) => False

variable {manager : SlashingManager} {challenge : Challenge} {currentTime : Nat}

theorem unlock_outcome (bank : Bank) (address : Address) (amount : Nat) :
    (∃ reason, unlock address amount bank = (.error reason, bank) ∧
      (bank.accounts.lookup address = none ∨ (bank.account address).locked < amount)) ∨
    amount ≤ bank.getLockedBalance address ∧ ∃ after,
      unlock address amount bank = (.ok (), after) ∧
      (∀ other, after.balanceOf other = bank.balanceOf other) ∧
      after.account address = { bank.account address with
        locked := (bank.account address).locked - amount } ∧
      after.currentBlock = bank.currentBlock := by
  obtain ⟨reason, failed, short⟩ | ⟨enough, done⟩ := unlock_cases address amount bank
  · exact .inl ⟨reason, failed, short⟩
  · exact .inr ⟨enough, _, done, (relocked_put _).balance, account_put_self, rfl⟩

theorem settle_of_expired (manager : SlashingManager) (late : currentTime > challenge.expiresAt) :
    ∃ reason bank, settle challenge currentTime manager =
        (.error reason, { manager with bank }) ∧
      ∀ address, bank.balanceOf address = manager.bank.balanceOf address := by
  simp only [settle, read_bind, if_pos late]
  obtain ⟨reason, failed, _⟩ | ⟨_, bank, done, balance, _⟩ :=
    unlock_outcome manager.bank challenge.challenger challenge.challengerStakeLocked
  · exact ⟨reason, manager.bank, onBank_bind_of_error manager failed, fun _ => rfl⟩
  · exact ⟨_, bank, onBank_bind_of_ok manager done, balance⟩

theorem not_slashes_of_balance {reason : SystemContractError} {after : SlashingManager}
    (history : after.offenseHistory = manager.offenseHistory)
    (balance : ∀ address, after.bank.balanceOf address = manager.bank.balanceOf address) :
    ¬SlashesProver manager challenge (.error reason, after) := by
  rintro (more | less)
  · rw [offenses, offenses, history] at more
    exact lt_irrefl _ more
  · rw [balance] at less
    exact lt_irrefl _ less

theorem not_slashes_of_expired (late : currentTime > challenge.expiresAt) :
    ¬SlashesProver manager challenge (settle challenge currentTime manager) ∧
      ¬BurnsPenalty manager challenge (settle challenge currentTime manager) := by
  obtain ⟨reason, bank, done, balance⟩ := settle_of_expired manager late
  rw [done]
  exact ⟨not_slashes_of_balance rfl balance, fun impossible => impossible⟩

theorem executeSlash_history {condition : SlashingCondition} {result : SlashingResult}
    {after : SlashingManager} (done : executeSlash condition manager = (.ok result, after)) :
    after.offenses condition.offender = manager.offenses condition.offender + 1 := by
  obtain ⟨_, _, entry, done⟩ := of_bind_ok done
  cases entry
  simp only [ensure_bind] at done
  split at done
  · split at done
    · split at done
      · obtain ⟨reward, mid, paid, done⟩ := of_bind_ok done
        obtain ⟨_, rfl⟩ := (moves_payReporter condition _).of_eq paid
        obtain ⟨_, last, burnt, done⟩ := of_bind_ok done
        obtain ⟨_, rfl⟩ := (moves_onBank _).of_eq burnt
        cases done
        simp only [offenses, recordSlash, recordBan, Map.get_insert_self, length_append,
          length_singleton]
      · cases done
    · cases done
  · cases done

theorem not_burns_of_succeeds (inTime : ¬currentTime > challenge.expiresAt)
    (succeeds : challenge.Succeeds manager.config.committeeThreshold) :
    ¬BurnsPenalty manager challenge (settle challenge currentTime manager) := by
  simp only [settle, read_bind, if_neg inTime, if_pos succeeds]
  obtain ⟨reason, failed, _⟩ | ⟨_, bank, done, _⟩ :=
    unlock_outcome manager.bank challenge.challenger challenge.challengerStakeLocked
  · rw [onBank_bind_of_error manager failed]
    exact fun impossible => impossible
  · rw [onBank_bind_of_ok manager done]
    cases slash : executeSlash (challenge.fault currentTime) { manager with bank } with
    | mk outcome after =>
      cases outcome with
      | error reason => exact fun impossible => impossible
      | ok result =>
        rintro ⟨same, _⟩
        have grown : after.offenses challenge.prover =
            manager.offenses challenge.prover + 1 := executeSlash_history slash
        omega

/-- The penalty can be taken from the challenger: his stake is locked, and what he then has free
covers it. -/
def Chargeable (manager : SlashingManager) (challenge : Challenge) : Prop :=
  let account := manager.bank.account challenge.challenger
  let penalty := challenge.spamPenalty manager.config
  penalty ≠ 0 ∧ challenge.challengerStakeLocked ≤ account.locked ∧
    penalty ≤ account.balance - (account.locked - challenge.challengerStakeLocked) ∧
    ¬account.isLocked manager.bank.currentBlock

/-- What a burn does, and when. -/
theorem burn_outcome (bank : Bank) (address : Address) (amount : Nat) :
    (∃ reason after, burn address amount bank = (.error reason, after) ∧
      (∀ other, after.balanceOf other = bank.balanceOf other) ∧
      ¬(amount ≠ 0 ∧ amount ≤ (bank.account address).available ∧
        ¬(bank.account address).isLocked bank.currentBlock)) ∨
    (amount ≠ 0 ∧ amount ≤ (bank.account address).available ∧
      ¬(bank.account address).isLocked bank.currentBlock) ∧
    ∃ after, burn address amount bank = (.ok (), after) ∧
      after.balanceOf address = bank.balanceOf address - amount := by
  have opened (other : Address) :
      (bank.put address (bank.account address)).balanceOf other = bank.balanceOf other :=
    congrArg AccountState.balance (unchanged_open.account other)
  simp only [burn, transfer, ensure_bind, modify_bind, read_bind, account_put_self]
  split
  · rename_i positive
    split
    · rename_i funded
      split
      · rename_i free
        refine .inr ⟨⟨positive, funded, free⟩, _, rfl, ?_⟩
        simp only [↓reduceIte]
        change ((bank.put address _).debit address amount).balanceOf address = _
        rw [debit, balanceOf_put, if_pos rfl, account_put_self]
        rfl
      · rename_i held
        exact .inl ⟨_, _, rfl, opened, fun all => held all.2.2⟩
    · rename_i short
      exact .inl ⟨_, _, rfl, opened, fun all => short all.2.1⟩
  · rename_i zero
    exact .inl ⟨_, _, rfl, fun _ => rfl, fun all => zero all.1⟩

/-- A challenge that fails burns its penalty, if it can. -/
theorem settle_of_not_succeeds (manager : SlashingManager)
    (inTime : ¬currentTime > challenge.expiresAt)
    (fails : ¬challenge.Succeeds manager.config.committeeThreshold) :
    ¬SlashesProver manager challenge (settle challenge currentTime manager) ∧
      (BurnsPenalty manager challenge (settle challenge currentTime manager) ↔
        manager.Chargeable challenge) := by
  simp only [settle, read_bind, if_neg inTime, if_neg fails]
  obtain ⟨reason, failed, short⟩ | ⟨enough, bank, done, balance, account, block⟩ :=
    unlock_outcome manager.bank challenge.challenger challenge.challengerStakeLocked
  · rw [onBank_bind_of_error manager failed]
    refine ⟨not_slashes_of_balance rfl fun _ => rfl, fun impossible => impossible.elim, ?_⟩
    rintro ⟨positive, locked, funded, _⟩
    obtain absent | short := short
    · have empty : (manager.bank.account challenge.challenger).balance = 0 := by
        rw [Bank.account, Map.get, absent]
        rfl
      omega
    · omega
  · rw [onBank_bind_of_ok manager done]
    obtain ⟨reason, after, failed, same, unfunded⟩ | ⟨⟨positive, funded, free⟩, after, burnt, less⟩ :=
      burn_outcome bank challenge.challenger (challenge.spamPenalty manager.config)
    · rw [onBank_bind_of_error { manager with bank } failed]
      refine ⟨not_slashes_of_balance rfl fun other => (same other).trans (balance other),
        fun impossible => impossible.elim, ?_⟩
      rintro ⟨positive, _, funded, free⟩
      rw [account, block] at unfunded
      exact absurd ⟨positive, funded, free⟩ unfunded
    · rw [onBank_bind_of_ok { manager with bank } burnt]
      rw [account, block] at free
      rw [account] at funded
      refine ⟨lt_irrefl _, fun _ => ⟨positive, enough, funded, free⟩, fun _ => ⟨rfl, ?_⟩⟩
      change after.balanceOf challenge.challenger < _
      rw [less, balance]
      have most : challenge.spamPenalty manager.config ≤
          manager.bank.balanceOf challenge.challenger := le_trans funded (sub_le _ _)
      omega

end Outcome

section Statements

/-- The challenge, its votes and all balances and locks are in place. -/
def Untouched (before after : SlashingManager) (challengeId : Hash) : Prop :=
  after.challenges.lookup challengeId = before.challenges.lookup challengeId ∧
    ∀ address, after.bank.account address = before.bank.account address

/-- What is asked of a finalisation: a slash takes the votes, a penalty that they are out of reach,
and before that nothing happens. -/
structure Keeps (manager : SlashingManager) (challengeId : Hash) (currentTime : Nat)
    (challenge : Challenge) : Prop where
  slash : SlashesProver manager challenge (finalizeChallenge challengeId currentTime manager) →
    challenge.Reached manager.config.committeeThreshold
  penalty : BurnsPenalty manager challenge (finalizeChallenge challengeId currentTime manager) →
    challenge.Lost manager.config.committeeThreshold
  waits : ¬challenge.Reached manager.config.committeeThreshold →
    ¬challenge.Lost manager.config.committeeThreshold →
    Untouched manager (finalizeChallenge challengeId currentTime manager).2 challengeId

/-- The committee has decided; and if it takes no votes to slash, some have been cast, or the
challenge has expired, or the challenger cannot be charged. -/
def Decided (manager : SlashingManager) (currentTime : Nat) (challenge : Challenge) : Prop :=
  challenge.Lost manager.config.committeeThreshold ∨
  challenge.Reached manager.config.committeeThreshold ∧
    (challenge.totalVotes ≠ 0 ∨ currentTime > challenge.expiresAt ∨ ¬manager.Chargeable challenge)

variable {manager : SlashingManager} {challenge : Challenge} {challengeId : Hash}
  {currentTime : Nat}

section

variable (found : manager.challenges.lookup challengeId = some challenge)
include found

theorem finalizeChallenge_of_lookup :
    finalizeChallenge challengeId currentTime manager =
      settle challenge currentTime
        { manager with challenges := manager.challenges.erase challengeId } := by
  simp only [finalizeChallenge, read_bind, okOr_bind, found, modify_bind]

theorem not_untouched :
    ¬Untouched manager (finalizeChallenge challengeId currentTime manager).2 challengeId := by
  rintro ⟨kept, _⟩
  rw [finalizeChallenge_of_lookup found, moves_settle, AList.lookup_erase, found] at kept
  cases kept

end

/-- A challenge is settled as it should be exactly if it is decided. -/
theorem keeps_iff (proper : challenge.Proper)
    (found : manager.challenges.lookup challengeId = some challenge) :
    manager.Keeps challengeId currentTime challenge ↔ manager.Decided currentTime challenge := by
  let removed := { manager with challenges := manager.challenges.erase challengeId }
  have settled : finalizeChallenge challengeId currentTime manager =
      settle challenge currentTime removed := finalizeChallenge_of_lookup found
  have burns : BurnsPenalty manager challenge (settle challenge currentTime removed) ↔
      ¬currentTime > challenge.expiresAt ∧
      ¬challenge.Succeeds manager.config.committeeThreshold ∧ manager.Chargeable challenge := by
    by_cases late : currentTime > challenge.expiresAt
    · exact ⟨fun burnt => absurd burnt (not_slashes_of_expired late).2, fun all => absurd late all.1⟩
    · by_cases succeeds : challenge.Succeeds manager.config.committeeThreshold
      · exact ⟨fun burnt => absurd burnt (not_burns_of_succeeds late succeeds),
          fun all => absurd succeeds all.2.1⟩
      · exact (settle_of_not_succeeds removed late succeeds).2.trans
          ⟨fun charged => ⟨late, succeeds, charged⟩, fun all => all.2.2⟩
  constructor
  · intro keeps
    by_cases lost : challenge.Lost manager.config.committeeThreshold
    · exact .inl lost
    · have reached : challenge.Reached manager.config.committeeThreshold := by
        by_contra undecided
        exact not_untouched found (keeps.waits undecided lost)
      refine .inr ⟨reached, ?_⟩
      by_contra none
      push Not at none
      obtain ⟨noVotes, inTime, charged⟩ := none
      refine lost (keeps.penalty ?_)
      rw [settled]
      exact burns.mpr ⟨not_lt.mpr inTime, fun succeeds => succeeds.1 noVotes, charged⟩
  · rintro (lost | ⟨reached, cast⟩)
    · refine ⟨fun slashed => ?_, fun _ => lost, fun _ open_ => absurd lost open_⟩
      rw [settled] at slashed
      by_cases late : currentTime > challenge.expiresAt
      · exact absurd slashed (not_slashes_of_expired late).1
      · exact absurd slashed (settle_of_not_succeeds removed late (proper.not_succeeds_of_lost lost)).1
    · refine ⟨fun _ => reached, fun burnt => ?_, fun open_ => absurd reached open_⟩
      rw [settled] at burnt
      obtain ⟨inTime, fails, charged⟩ := burns.mp burnt
      obtain some | late | free := cast
      · exact absurd (proper.succeeds_of_reached reached some) fails
      · exact absurd late inTime
      · exact absurd charged free

end Statements

section Runs

variable (sha256 : List UInt8 → Hash)

/-- What happens to challenges and slashes. -/
inductive SlashingCall
  | submitChallenge (challenger : Address) (jobId : JobId) (prover : Address)
      (originalResultHash : Hash) (challengerStake currentTime : Nat)
      (availableCommittee : List Address)
  | submitCommitteeVote (challengeId : Hash) (vote : ChallengeVote)
  | finalizeChallenge (challengeId : Hash) (currentTime : Nat)
  | executeSlash (condition : SlashingCondition)
  /-- The bank is shared: others use it between the calls. -/
  | bank (next : Bank)

def step (manager : SlashingManager) : SlashingCall → SlashingManager
  | .submitChallenge challenger jobId prover originalResultHash challengerStake currentTime
      availableCommittee =>
      (submitChallenge sha256 challenger jobId prover originalResultHash challengerStake
        currentTime availableCommittee manager).2
  | .submitCommitteeVote challengeId vote => (submitCommitteeVote challengeId vote manager).2
  | .finalizeChallenge challengeId currentTime =>
    (finalizeChallenge challengeId currentTime manager).2
  | .executeSlash condition => (executeSlash condition manager).2
  | .bank next => { manager with bank := next }

/-- The nodes a committee is drawn from are given once each. -/
def DistinctNodes (_ : SlashingManager) : SlashingCall → Prop
  | .submitChallenge _ _ _ _ _ _ availableCommittee => availableCommittee.Nodup
  | _ => True

/-- All stored challenges are proper. -/
def Proper (manager : SlashingManager) : Prop :=
  ∀ challengeId challenge, manager.challenges.lookup challengeId = some challenge →
    challenge.Proper

variable {sha256} {manager after : SlashingManager}

section

variable (proper : manager.Proper)
include proper

theorem Proper.of_same (same : SameChallenges manager after) : after.Proper := by
  intro challengeId challenge found
  rw [same] at found
  exact proper challengeId challenge found

theorem Proper.insert {challengeId : Hash} {challenge : Challenge} (fine : challenge.Proper)
    (written : after.challenges = manager.challenges.insert challengeId challenge) :
    after.Proper := by
  intro other found present
  rw [written] at present
  exact Map.forall_insert fine proper other found present

theorem Proper.submitChallenge {challenger prover : Address}
    {jobId : JobId} {originalResultHash : Hash} {challengerStake currentTime : Nat}
    {available : List Address} (distinct : available.Nodup) :
    (submitChallenge sha256 challenger jobId prover originalResultHash challengerStake currentTime
      available manager).2.Proper := by
  simp only [SlashingManager.submitChallenge, read_bind, ensure_bind]
  split
  · cases locked : Bank.lock challenger challengerStake manager.bank with
    | mk outcome bank =>
      cases outcome with
      | error reason =>
        rw [onBank_bind_of_error manager locked]
        exact proper
      | ok _ =>
        rw [onBank_bind_of_ok manager locked]
        cases selected : selectCommittee sha256 manager.config available
            (generateChallengeId sha256 jobId challenger currentTime) with
        | error reason => exact proper
        | ok committee =>
          refine proper.insert ⟨?_, selectCommittee_nodup sha256 _ distinct selected⟩ rfl
          simp
  · exact proper

theorem Proper.submitCommitteeVote (challengeId : Hash)
    (vote : ChallengeVote) : (submitCommitteeVote challengeId vote manager).2.Proper := by
  simp only [SlashingManager.submitCommitteeVote, read_bind, okOr_bind]
  cases found : manager.challenges.lookup challengeId with
  | none => exact proper
  | some challenge =>
    simp only [ensure_bind]
    split
    · rename_i member
      split
      · obtain ⟨enrolled, distinct⟩ := proper challengeId challenge found
        have fine : (challenge.record vote).Proper := by
          refine ⟨fun voter voted => ?_, distinct⟩
          have voted : voter ∈ challenge.committeeVotes.insert vote.voter vote := voted
          obtain same | earlier := (AList.mem_insert _).mp voted
          · rw [same]
            exact member
          · exact enrolled voter earlier
        exact proper.insert fine rfl
      · exact proper
    · exact proper

theorem Proper.finalizeChallenge (challengeId : Hash)
    (currentTime : Nat) : (finalizeChallenge challengeId currentTime manager).2.Proper := by
  cases found : manager.challenges.lookup challengeId with
  | none =>
    simp only [SlashingManager.finalizeChallenge, read_bind, okOr_bind, found]
    exact proper
  | some challenge =>
    rw [finalizeChallenge_of_lookup found]
    intro other present_ present
    rw [moves_settle, Map.lookup_erase_eq] at present
    split at present
    · cases present
    · exact proper other present_ present

theorem Proper.step {call : SlashingCall}
    (distinct : DistinctNodes manager call) : (step sha256 manager call).Proper := by
  cases call with
  | submitChallenge => exact proper.submitChallenge distinct
  | submitCommitteeVote => exact proper.submitCommitteeVote _ _
  | finalizeChallenge => exact proper.finalizeChallenge _ _
  | executeSlash condition => exact proper.of_same (moves_executeSlash condition manager)
  | bank next => exact proper.of_same rfl

end

variable (sha256) in
/-- In every run whose committees are drawn from distinct nodes, a call that finalises a challenge is
as it should be exactly if there is no such challenge or it is decided. -/
theorem finalizeChallenge_keeps_iff (config : SlashingConfig) (bank : Bank)
    (calls : List SlashingCall)
    (distinct : Run.Along (step sha256) DistinctNodes (new config bank) calls)
    (challengeId : Hash) (currentTime : Nat) :
    let manager := Run.exec (step sha256) (new config bank) calls
    (∀ challenge, manager.challenges.lookup challengeId = some challenge →
      manager.Keeps challengeId currentTime challenge) ↔
    ∀ challenge, manager.challenges.lookup challengeId = some challenge →
      manager.Decided currentTime challenge := by
  have proper : (Run.exec (step sha256) (new config bank) calls).Proper := by
    refine Run.invariant Proper (fun _ _ fair proper => proper.step fair) ?_ distinct
    intro _ _ impossible
    cases impossible
  exact forall₂_congr fun challenge found => keeps_iff (proper challengeId challenge found) found

/-- A challenge of account 1 against the result of job 5, at time 0. -/
def sampleId : Hash :=
  2473105522250799144647668606345405600442509342703879021536027558736910838360

def sampleSha256 (bytes : List UInt8) : Hash :=
  if bytes = bigEndian 32 5 ++ bigEndian 32 1 ++ littleEndian 8 0 then sampleId
  else if bytes = bigEndian 32 sampleId ++ littleEndian 4 0 then
    32386750112213498743898362055198465567991333166624152238769943226682285447169
  else if bytes = bigEndian 32 sampleId ++ littleEndian 4 1 then
    32186380417803093832687059842534489838409024427862672783047097687554821319459
  else if bytes = bigEndian 32 sampleId ++ littleEndian 4 2 then
    12260058254895523766424420211873816824060886608643344110889173239174515618648
  else 0

def challengerBank : Bank where
  config := {}
  totalSupply := 1000
  accounts := (∅ : Map Address AccountState).insert 1 { balance := 1000, locked := 100 }

def sampleChallenge : List SlashingCall := [.submitChallenge 1 5 2 9 100 0 [11, 12, 13]]

/-- A list with the challenger and the prover in it, one that is too short, and one that names a
node twice. -/
theorem challenger_drawn :
    (((Run.exec (step sampleSha256) (new {} challengerBank)
      [.submitChallenge 1 5 2 9 100 0 [1, 2, 11]]).challenges.lookup sampleId).any fun challenge =>
        decide (challenge.challenger ∈ challenge.committee ∧
          challenge.prover ∈ challenge.committee)) = true ∧
      selectCommittee sampleSha256 {} [11, 12] sampleId =
        .error (.Slashing (notEnoughNodes 3 2)) ∧
      selectCommittee sampleSha256 {} [11, 12, 11, 12] sampleId = .ok [12, 11, 12] := by
  decide +kernel

def sampleVotes : List SlashingCall :=
  sampleChallenge ++ [.submitCommitteeVote sampleId ⟨11, true, 8, 1, []⟩,
    .submitCommitteeVote sampleId ⟨12, true, 8, 1, []⟩,
    .submitCommitteeVote sampleId ⟨13, false, 9, 1, []⟩]

instance (manager : SlashingManager) (challenge : Challenge)
    (outcome : Except SystemContractError SlashingResult × SlashingManager) :
    Decidable (BurnsPenalty manager challenge outcome) :=
  match outcome with
  | (.ok _, _) => inferInstanceAs (Decidable (_ ∧ _))
  | (.error _, _) => inferInstanceAs (Decidable False)

instance (challenge : Challenge) (threshold : ℚ) : Decidable (challenge.Lost threshold) :=
  inferInstanceAs (Decidable (_ < _))

def sampleRun (calls : List SlashingCall) : SlashingManager :=
  Run.exec (step sampleSha256) (new {} challengerBank) calls

/-- No member has voted and all may still vote for the challenge, but a fifth of the challenger's
stake is burnt. -/
theorem finalizeChallenge_burns_undecided :
    ¬∀ challenge, (sampleRun sampleChallenge).challenges.lookup sampleId = some challenge →
      (sampleRun sampleChallenge).Keeps sampleId 1 challenge := by
  intro keeps
  have burnt : ((sampleRun sampleChallenge).challenges.lookup sampleId).any (fun challenge =>
      BurnsPenalty (sampleRun sampleChallenge) challenge
        (finalizeChallenge sampleId 1 (sampleRun sampleChallenge)) ∧
      ¬challenge.Lost (sampleRun sampleChallenge).config.committeeThreshold) := by decide +kernel
  obtain ⟨challenge, found, both⟩ := Option.any_eq_true _ _ |>.mp burnt
  obtain ⟨charged, open_⟩ := of_decide_eq_true both
  exact open_ ((keeps challenge found).penalty charged)

/-- Two votes of three are less than the default threshold, and the challenger pays. -/
theorem finalizeChallenge_keeps_decided :
    Run.Along (step sampleSha256) DistinctNodes (new {} challengerBank) sampleVotes ∧
    ∀ challenge, (sampleRun sampleVotes).challenges.lookup sampleId = some challenge →
      (sampleRun sampleVotes).Keeps sampleId 1 challenge := by
  have distinct : Run.Along (step sampleSha256) DistinctNodes (new {} challengerBank)
      sampleVotes := by
    refine ⟨?_, trivial, trivial, trivial, trivial⟩
    change [11, 12, 13].Nodup
    decide
  refine ⟨distinct, (finalizeChallenge_keeps_iff sampleSha256 {} challengerBank sampleVotes distinct
    sampleId 1).mpr fun challenge found => .inl ?_⟩
  have lost : ((sampleRun sampleVotes).challenges.lookup sampleId).all (fun challenge =>
      challenge.Lost (sampleRun sampleVotes).config.committeeThreshold) := by decide +kernel
  have found : (sampleRun sampleVotes).challenges.lookup sampleId = some challenge := found
  rw [found] at lost
  exact of_decide_eq_true lost

end Runs

end SlashingManager

end Vm
