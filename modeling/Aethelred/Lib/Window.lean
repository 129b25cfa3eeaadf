import Mathlib.Data.UInt

/- A list of timed items of which only the recent ones are held, where what is too old is dropped
when an item comes in and at no other moment. -/
namespace Window

open List

variable {α : Type} (time : α → Nat) (width : Nat)

def within (now : Nat) (items : List α) : List α := items.filter fun item => now - width ≤ time item

def held (items : List α) : List α :=
  match items.getLast? with
  | some last => within time width (time last) items
  | none => []

def stale (now : Nat) (items : List α) : List α :=
  (held time width items).filter fun item => time item < now - width

variable {time} {width} {items : List α} {earlier now : Nat}

theorem within_within (le : earlier ≤ now) :
    within time width now (within time width earlier items) = within time width now items := by
  unfold within
  rw [filter_filter]
  apply filter_congr
  intro item _
  by_cases recent : now - width ≤ time item
  · have before : earlier - width ≤ time item := by omega
    simp [recent, before]
  · simp [recent]

theorem within_held (past : ∀ item ∈ items, time item ≤ now) :
    within time width now (held time width items) = within time width now items := by
  unfold held
  cases found : items.getLast? with
  | none =>
    rw [getLast?_eq_none_iff.mp found]
  | some last => exact within_within (past last (mem_of_getLast? found))

theorem held_concat {last : α} (past : ∀ item ∈ items, time item ≤ time last) :
    within time width (time last) (held time width items ++ [last]) =
      held time width (items ++ [last]) := by
  have whole : held time width (items ++ [last]) =
      within time width (time last) (items ++ [last]) := by
    rw [held, getLast?_concat]
  have split (front : List α) : within time width (time last) (front ++ [last]) =
      within time width (time last) front ++ within time width (time last) [last] :=
    filter_append _ _
  rw [whole, split, split, within_held past]

theorem held_perm (past : ∀ item ∈ items, time item ≤ now) :
    (held time width items).Perm
      (within time width now items ++ stale time width now items) := by
  rw [← within_held past]
  have parts := filter_append_perm (fun item => decide (now - width ≤ time item))
    (held time width items)
  refine parts.symm.trans (Perm.of_eq ?_)
  congr 1
  apply filter_congr
  intro item _
  rw [← decide_not]
  exact decide_eq_decide.mpr Nat.not_le

section Front

variable {old : α → Bool}

theorem dropWhile_young_iff :
    (∀ item ∈ items.dropWhile old, old item = false) ↔
      items.Pairwise fun first second => old first = false → old second = false := by
  induction items with
  | nil => simp
  | cons head tail ih =>
    cases aged : old head with
    | true => simp [aged, ih]
    | false =>
      rw [dropWhile_cons_of_neg (by simp [aged]), forall_mem_cons, pairwise_cons]
      simp only [aged, true_and, forall_const]
      refine ⟨fun young => ⟨young, ?_⟩, fun both => both.1⟩
      exact pairwise_of_forall_mem_list fun _ _ second member _ => young second member

end Front

end Window
