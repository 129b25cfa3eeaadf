import Mathlib.Data.UInt

/- What does not depend on the order of a list, and what does. -/
namespace Reorder

open List

variable {α β : Type}

variable {items : List α}

theorem exists_perm_cons {first : α} (member : first ∈ items) :
    ∃ rest, items.Perm (first :: rest) := by
  obtain ⟨before, after, rfl⟩ := append_of_mem member
  exact ⟨before ++ after, perm_middle⟩

theorem exists_perm_cons_cons {first second : α} (member : first ∈ items) (other : second ∈ items)
    (differ : second ≠ first) : ∃ rest, items.Perm (first :: second :: rest) := by
  obtain ⟨rest, moved⟩ := exists_perm_cons member
  have later : second ∈ rest := by
    rcases mem_cons.mp (moved.subset other) with same | later
    · exact absurd same differ
    · exact later
  obtain ⟨remaining, again⟩ := exists_perm_cons later
  exact ⟨remaining, moved.trans (again.cons first)⟩

theorem flatMap_eq_of_commute (parts : α → List β) {items reordered : List α}
    (perm : items.Perm reordered)
    (commute : ∀ a ∈ items, ∀ b ∈ items, parts a ++ parts b = parts b ++ parts a) :
    items.flatMap parts = reordered.flatMap parts := by
  induction perm with
  | nil => rfl
  | cons item _ ih =>
    rw [flatMap_cons, flatMap_cons, ih fun a left b right =>
      commute a (mem_cons_of_mem _ left) b (mem_cons_of_mem _ right)]
  | swap first second rest =>
    simp only [flatMap_cons, ← append_assoc]
    rw [commute second (by simp) first (by simp)]
  | trans left _ firstStep secondStep =>
    rw [firstStep commute, secondStep fun a member b other =>
      commute a (left.mem_iff.mpr member) b (left.mem_iff.mpr other)]

theorem commute_of_flatMap_eq (parts : α → List β)
    (same : ∀ reordered, items.Perm reordered → items.flatMap parts = reordered.flatMap parts)
    {a b : α} (member : a ∈ items) (other : b ∈ items) :
    parts a ++ parts b = parts b ++ parts a := by
  by_cases equal : b = a
  · rw [equal]
  · obtain ⟨rest, moved⟩ := exists_perm_cons_cons member other equal
    have forward := same _ moved
    have swapped := same _ (moved.trans (Perm.swap b a rest))
    rw [forward] at swapped
    simp only [flatMap_cons, ← append_assoc] at swapped
    exact append_cancel_right swapped

theorem find?_flatMap_of_perm_front {parts : α → List β} {accepts : β → Bool} {first : α}
    {rest : List α} {hit : β} (found : (parts first).find? accepts = some hit) :
    ((first :: rest).flatMap parts).find? accepts = some hit := by
  rw [flatMap_cons, find?_append, found, Option.some_or]

theorem exists_mem_of_find?_flatMap {parts : α → List β} {accepts : β → Bool}
    {hit : β} (found : (items.flatMap parts).find? accepts = some hit) :
    ∃ item ∈ items, (parts item).find? accepts = some hit := by
  induction items with
  | nil => cases found
  | cons item rest ih =>
    rw [flatMap_cons, find?_append] at found
    cases here : (parts item).find? accepts with
    | some first =>
      rw [here, Option.some_or] at found
      exact ⟨item, by simp, here.trans found⟩
    | none =>
      rw [here, Option.none_or] at found
      obtain ⟨later, member, found⟩ := ih found
      exact ⟨later, mem_cons_of_mem _ member, found⟩

end Reorder
