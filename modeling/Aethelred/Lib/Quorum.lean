import Mathlib.Algebra.Order.BigOperators.Group.Finset
import Mathlib.Data.UInt

/- Quorums of a finite set of parties: how many members two of them share, and when one of the
shared members has to be honest. -/
namespace Quorum

open Finset

variable {α : Type} [DecidableEq α] {parties first second faulty : Finset α} {size faults : Nat}

theorem card_add_card_le (inside : first ⊆ parties) (inside' : second ⊆ parties) :
    first.card + second.card ≤ parties.card + (first ∩ second).card := by
  have union : (first ∪ second).card ≤ parties.card :=
    card_le_card (union_subset inside inside')
  have both := card_union_add_card_inter first second
  omega

theorem exists_honest (more : faulty.card < (first ∩ second).card) :
    ∃ party, party ∈ first ∧ party ∈ second ∧ party ∉ faulty := by
  obtain ⟨party, shared, honest⟩ := exists_mem_notMem_of_card_lt_card more
  obtain ⟨one, two⟩ := mem_inter.mp shared
  exact ⟨party, one, two, honest⟩

/-- Quorums that are small enough can avoid each other but for as many members as may be faulty. -/
theorem exists_pair (fits : size ≤ parties.card) (small : 2 * size ≤ parties.card + faults)
    (most : faults ≤ size) :
    ∃ first second, first ⊆ parties ∧ second ⊆ parties ∧ first.card = size ∧
      second.card = size ∧ (first ∩ second).card ≤ faults := by
  obtain ⟨first, inside, sized⟩ := exists_subset_card_eq fits
  obtain ⟨common, within, few⟩ := exists_subset_card_eq (most.trans_eq sized.symm)
  have others : size - faults ≤ (parties \ first).card := by
    rw [card_sdiff_of_subset inside]
    omega
  obtain ⟨rest, apart, rested⟩ := exists_subset_card_eq others
  have outside : Disjoint common rest := by
    apply disjoint_left.mpr
    intro party shared resting
    exact (mem_sdiff.mp (apart resting)).2 (within shared)
  refine ⟨first, common ∪ rest, inside, ?_, sized, ?_, ?_⟩
  · apply union_subset (within.trans inside)
    exact apart.trans sdiff_subset
  · rw [card_union_of_disjoint outside, few, rested]
    omega
  · rw [← few]
    apply card_le_card
    intro party shared
    obtain ⟨one, two⟩ := mem_inter.mp shared
    rcases mem_union.mp two with common | resting
    · exact common
    · exact absurd one (mem_sdiff.mp (apart resting)).2

/-- Two groups without a common member have no more weight together than everyone. -/
theorem weight_add_weight_le {weight : α → Int} (nonnegative : ∀ party ∈ parties, 0 ≤ weight party)
    (inside : first ⊆ parties) (inside' : second ⊆ parties) (apart : Disjoint first second) :
    ∑ party ∈ first, weight party + ∑ party ∈ second, weight party ≤
      ∑ party ∈ parties, weight party := by
  rw [← sum_union apart]
  apply sum_le_sum_of_subset_of_nonneg (union_subset inside inside')
  intro party member _
  exact nonnegative party member

/-- More than half of the weight is not reached by two groups without a common member. -/
theorem not_both_reach {weight : α → Int} {need : Int}
    (nonnegative : ∀ party ∈ parties, 0 ≤ weight party) (inside : first ⊆ parties)
    (inside' : second ⊆ parties) (apart : Disjoint first second)
    (most : ∑ party ∈ parties, weight party < 2 * need) :
    ¬(need ≤ ∑ party ∈ first, weight party ∧ need ≤ ∑ party ∈ second, weight party) := by
  intro both
  have together := weight_add_weight_le nonnegative inside inside' apart
  omega

end Quorum

/- Counting what several parties contribute, each party by a list of its own. -/
namespace Counting

variable {α β : Type}

def contributors (parts : α → List β) (parties : List α) : List α :=
  parties.filter fun party => (parts party).length ≠ 0

section

variable (parts : α → List β)
include parts

@[simp] theorem contributors_nil : contributors parts [] = [] := rfl

theorem contributors_cons (party : α) (rest : List α) :
    contributors parts (party :: rest) =
      if (parts party).length = 0 then contributors parts rest
      else party :: contributors parts rest := by
  unfold contributors
  rw [List.filter_cons]
  by_cases nothing : (parts party).length = 0 <;> simp [nothing]

theorem length_contributors_le (parties : List α) :
    (contributors parts parties).length ≤ (parties.flatMap parts).length := by
  induction parties with
  | nil => simp
  | cons party rest ih =>
    rw [contributors_cons, List.flatMap_cons, List.length_append]
    split
    · omega
    · rw [List.length_cons]
      omega

theorem length_contributors_eq_iff (parties : List α) :
    (parties.flatMap parts).length = (contributors parts parties).length ↔
      ∀ party ∈ parties, (parts party).length ≤ 1 := by
  induction parties with
  | nil => simp
  | cons party rest ih =>
    have bound := length_contributors_le parts rest
    rw [contributors_cons, List.flatMap_cons, List.length_append, List.forall_mem_cons, ← ih]
    split
    · omega
    · rw [List.length_cons]
      omega

theorem sum_contributors (weight : β → Int) (power : α → Int)
    (parties : List α) (own : ∀ party, ∀ part ∈ parts party, weight part = power party)
    (once : ∀ party ∈ parties, (parts party).length ≤ 1) :
    ((parties.flatMap parts).map weight).sum = ((contributors parts parties).map power).sum := by
  induction parties with
  | nil => simp
  | cons party rest ih =>
    obtain ⟨here, later⟩ := List.forall_mem_cons.mp once
    rw [contributors_cons, List.flatMap_cons, List.map_append, List.sum_append, ih later]
    match listed : parts party with
    | [] => simp
    | [part] =>
      have same := own party part (by rw [listed]; exact List.mem_singleton_self part)
      simp [same]
    | first :: second :: others =>
      rw [listed] at here
      simp at here

end

theorem sum_nonneg (power : α → Int) (parties : List α)
    (nonneg : ∀ party ∈ parties, 0 ≤ power party) : 0 ≤ (parties.map power).sum :=
  List.sum_nonneg (by simpa using nonneg)

end Counting
