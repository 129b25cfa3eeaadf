import Mathlib.Data.UInt

/- The binary heap algorithms over anything that can compare and swap positions. -/
namespace Go.Heap

open List Nat

structure Interface (σ α : Type) where
  len : σ → Nat
  less : σ → Nat → Nat → Bool
  swap : σ → Nat → Nat → σ
  push : σ → α → σ
  /-- The last element and the rest. -/
  pop : σ → Option (α × σ)

def parent (j : Nat) : Nat := (j - 1) / 2

section Algorithms

variable {σ α : Type} (h : Interface σ α)

def upLoop : Nat → σ → Nat → σ
  | 0, s, _ => s
  | fuel + 1, s, j =>
    if parent j = j ∨ ¬h.less s j (parent j) then s
    else upLoop fuel (h.swap s (parent j) j) (parent j)

variable (s : σ)

def up (j : Nat) : σ := upLoop h j s j

/-- The lesser of the children of `i` among the first `n` positions. -/
def lesserChild (i n : Nat) : Nat :=
  if 2 * i + 2 < n ∧ h.less s (2 * i + 2) (2 * i + 1) then 2 * i + 2 else 2 * i + 1

def downLoop (n : Nat) : Nat → σ → Nat → σ × Nat
  | 0, s, i => (s, i)
  | fuel + 1, s, i =>
    if 2 * i + 1 ≥ n then (s, i)
    else if ¬h.less s (lesserChild h s i n) i then (s, i)
    else downLoop n fuel (h.swap s i (lesserChild h s i n)) (lesserChild h s i n)

def down (i n : Nat) : σ × Nat := downLoop h n (n - i) s i

/-- `for i := count - 1; i >= 0; i--`. -/
def initLoop (n : Nat) : Nat → σ → σ
  | 0, s => s
  | i + 1, s => initLoop n i (down h s i n).1

def init : σ := initLoop h (h.len s) (h.len s / 2) s

def push (x : α) : σ :=
  let s := h.push s x
  up h s (h.len s - 1)

def pop : Option (α × σ) :=
  let n := h.len s - 1
  h.pop (down h (h.swap s 0 n) 0 n).1

/-- Sinks the element at `i`, or lets it rise where it did not sink. -/
def settle (i n : Nat) : σ :=
  let (sunk, rest) := down h s i n
  if rest > i then sunk else up h sunk i

def remove (i : Nat) : Option (α × σ) :=
  let n := h.len s - 1
  if n ≠ i then h.pop (settle h (h.swap s i n) i n) else h.pop s

def fix (i : Nat) : σ := settle h s i (h.len s)

end Algorithms

/-- Reached by exchanging positions below `n`. -/
inductive Exchanged {σ α : Type} (h : Interface σ α) (n : Nat) : σ → σ → Prop where
  | refl (s : σ) : Exchanged h n s s
  | step {s t : σ} {i j : Nat} (first : i < n) (second : j < n)
      (rest : Exchanged h n (h.swap s i j) t) : Exchanged h n s t

namespace Exchanged

variable {σ α : Type} {h : Interface σ α} {n : Nat} {s t u : σ}

theorem trans (first : Exchanged h n s t) (second : Exchanged h n t u) : Exchanged h n s u := by
  induction first with
  | refl s => exact second
  | step inside inside' rest ih => exact .step inside inside' (ih second)

theorem one {i j : Nat} (first : i < n) (second : j < n) : Exchanged h n s (h.swap s i j) :=
  .step first second (.refl _)

theorem mono {m : Nat} (exchanged : Exchanged h n s t) (within : n ≤ m) : Exchanged h m s t := by
  induction exchanged with
  | refl s => exact .refl s
  | step first second rest ih => exact .step (by omega) (by omega) ih

theorem keeps (exchanged : Exchanged h n s t) (holds : σ → Prop)
    (kept : ∀ s i j, i < n → j < n → holds s → holds (h.swap s i j)) (initial : holds s) :
    holds t := by
  induction exchanged with
  | refl s => exact initial
  | step first second rest ih => exact ih (kept _ _ _ first second initial)

end Exchanged

section Reach

variable {σ α : Type} (h : Interface σ α) {n : Nat}

theorem parent_le (j : Nat) : parent j ≤ j := by
  unfold parent
  omega

theorem upLoop_exchanged (fuel : Nat) (s : σ) {j : Nat} (inside : j < n) :
    Exchanged h n s (upLoop h fuel s j) := by
  induction fuel generalizing s j with
  | zero => exact .refl s
  | succ fuel ih =>
    have above := parent_le j
    unfold upLoop
    split
    · exact .refl s
    · exact .step (by omega) inside (ih _ (by omega))

variable (s : σ)

theorem up_exchanged {j : Nat} (inside : j < n) : Exchanged h n s (up h s j) :=
  upLoop_exchanged h j s inside

theorem lesserChild_inside {i : Nat} (has : 2 * i + 1 < n) :
    lesserChild h s i n < n ∧ i < lesserChild h s i n := by
  unfold lesserChild
  split <;> omega

theorem downLoop_exchanged (fuel : Nat) (s : σ) (i : Nat) :
    Exchanged h n s (downLoop h n fuel s i).1 := by
  induction fuel generalizing s i with
  | zero => exact .refl s
  | succ fuel ih =>
    unfold downLoop
    split
    · exact .refl s
    · rename_i has
      have inside := lesserChild_inside h s (not_le.mp has)
      split
      · exact .refl s
      · exact .step (by omega) inside.1 (ih _ _)

theorem down_exchanged (i : Nat) : Exchanged h n s (down h s i n).1 :=
  downLoop_exchanged h (n - i) s i

theorem initLoop_exchanged (count : Nat) (s : σ) : Exchanged h n s (initLoop h n count s) := by
  induction count generalizing s with
  | zero => exact .refl s
  | succ count ih => exact (down_exchanged h s count).trans (ih _)

theorem init_exchanged : Exchanged h (h.len s) s (init h s) :=
  initLoop_exchanged h _ s

theorem settle_exchanged {i m : Nat} (inside : i < n) (within : m ≤ n) :
    Exchanged h n s (settle h s i m) := by
  simp only [settle]
  split
  · exact (down_exchanged h s i).mono within
  · exact ((down_exchanged h s i).mono within).trans (up_exchanged h _ inside)

theorem fix_exchanged {i : Nat} (inside : i < h.len s) : Exchanged h (h.len s) s (fix h s i) :=
  settle_exchanged h s inside (le_refl _)

end Reach

/-- The interface acts on the list of entries as `sort` and `heap` ask. -/
structure Interface.Lawful {σ α : Type} (h : Interface σ α) (entries : σ → List α) : Prop where
  len : ∀ s, h.len s = (entries s).length
  swap : ∀ s {i j} (first : i < (entries s).length) (second : j < (entries s).length),
    entries (h.swap s i j) = ((entries s).set i (entries s)[j]).set j (entries s)[i]
  push : ∀ s x, entries (h.push s x) = entries s ++ [x]
  pop : ∀ s (nonempty : entries s ≠ []), ∃ t, h.pop s = some ((entries s).getLast nonempty, t) ∧
    entries t = (entries s).dropLast

section Contents

variable {σ α : Type} {h : Interface σ α} {entries : σ → List α} (lawful : h.Lawful entries)

include lawful

section

variable {n : Nat} {s t : σ} (exchanged : Exchanged h n s t) (within : n ≤ h.len s)
include exchanged within

theorem Exchanged.perm : (entries t).Perm (entries s) := by
  refine exchanged.keeps (fun u => (entries u).Perm (entries s)) ?_ .rfl
  intro u i j first second perm
  have same := perm.length_eq
  have bound := lawful.len s
  rw [lawful.swap u (by omega) (by omega)]
  exact (set_set_perm (by omega) (by omega)).trans perm

theorem Exchanged.len_eq : h.len t = h.len s := by
  rw [lawful.len, lawful.len, (exchanged.perm lawful within).length_eq]

end

variable (s : σ)

theorem init_perm : (entries (init h s)).Perm (entries s) :=
  (init_exchanged h s).perm lawful (le_refl _)

theorem fix_perm {i : Nat} (inside : i < h.len s) : (entries (fix h s i)).Perm (entries s) :=
  (fix_exchanged h s inside).perm lawful (le_refl _)

theorem push_perm (x : α) : (entries (push h s x)).Perm (x :: entries s) := by
  have added := lawful.push s x
  have size : h.len (h.push s x) = (entries s).length + 1 := by
    rw [lawful.len, added, length_append, length_singleton]
  have moved := up_exchanged h (h.push s x) (n := h.len (h.push s x)) (j := h.len (h.push s x) - 1)
    (by omega)
  refine (moved.perm lawful (le_refl _)).trans ?_
  rw [added]
  exact perm_append_singleton x (entries s)

theorem Exchanged.drop_eq {n : Nat} {s t : σ} (exchanged : Exchanged h n s t)
    (within : n ≤ h.len s) : (entries t).drop n = (entries s).drop n := by
  refine (exchanged.keeps (fun u => (entries u).drop n = (entries s).drop n ∧
    h.len s ≤ h.len u) ?_ ⟨rfl, le_refl _⟩).1
  intro u i j first second ⟨kept, size⟩
  have bound := lawful.len u
  have swapped := lawful.swap u (i := i) (j := j) (by omega) (by omega)
  constructor
  · rw [swapped, drop_set_of_lt second, drop_set_of_lt first, kept]
  · rw [lawful.len (h.swap u i j), swapped, length_set, length_set]
    omega

theorem Exchanged.pop {n : Nat} {s u : σ} (exchanged : Exchanged h n s u)
    (size : h.len s = n + 1) {x : α} (last : (entries s)[n]? = some x) :
    ∃ t, h.pop u = some (x, t) ∧ entries t = (entries u).dropLast ∧
      (entries s).Perm (x :: entries t) := by
  have kept := exchanged.drop_eq lawful (by omega)
  have perm := exchanged.perm lawful (by omega)
  have sizeU : (entries u).length = n + 1 := by
    rw [perm.length_eq, ← lawful.len, size]
  have nonempty : entries u ≠ [] := ne_nil_of_length_eq_add_one sizeU
  obtain ⟨t, popped, rest⟩ := lawful.pop u nonempty
  have lastU : (entries u).getLast nonempty = x := by
    have here : (entries u)[n]? = some x := by
      have first := congrArg (fun l => l[0]?) kept
      simpa [last] using first
    rw [getLast_eq_getElem]
    have inside : n < (entries u).length := by omega
    rw [getElem?_eq_getElem inside, Option.some.injEq] at here
    simpa [sizeU] using here
  refine ⟨t, lastU ▸ popped, rest, perm.symm.trans ?_⟩
  have split := dropLast_append_getLast nonempty
  rw [rest, ← lastU]
  conv => lhs; rw [← split]
  exact perm_append_singleton _ _

theorem remove_perm {i : Nat} {x : α} (found : (entries s)[i]? = some x) :
    ∃ t, remove h s i = some (x, t) ∧ (entries s).Perm (x :: entries t) := by
  have size := lawful.len s
  obtain ⟨inside, value⟩ := List.getElem?_eq_some_iff.mp found
  unfold remove
  by_cases last : h.len s - 1 = i
  · simp only [last, ne_eq, not_true_eq_false, ↓reduceIte]
    obtain ⟨t, popped, -, perm⟩ := (Exchanged.refl (h := h) (n := i) s).pop lawful (by omega) found
    exact ⟨t, popped, perm⟩
  · simp only [ne_eq, last, not_false_eq_true, ↓reduceIte]
    have swapped := lawful.swap s inside (j := h.len s - 1) (by omega)
    have whole := (Exchanged.one (h := h) (n := h.len s) (s := s) (i := i) (j := h.len s - 1)
      (by omega) (by omega))
    have settled := settle_exchanged h (h.swap s i (h.len s - 1)) (n := h.len s - 1) (i := i)
      (by omega) (le_refl _)
    obtain ⟨t, popped, -, perm⟩ := settled.pop lawful (x := x)
      (by rw [whole.len_eq lawful (le_refl _)]; omega)
      (by rw [swapped, getElem?_set_self (by rw [length_set]; omega), value])
    exact ⟨t, popped, (whole.perm lawful (le_refl _)).symm.trans perm⟩

theorem pop_perm {x : α} (root : (entries s)[0]? = some x) :
    ∃ t, pop h s = some (x, t) ∧ (entries s).Perm (x :: entries t) := by
  have size := lawful.len s
  obtain ⟨inside, value⟩ := List.getElem?_eq_some_iff.mp root
  have swapped := lawful.swap s inside (j := h.len s - 1) (by omega)
  have whole := (Exchanged.one (h := h) (n := h.len s) (s := s) (i := 0) (j := h.len s - 1)
    (by omega) (by omega))
  have sunk := down_exchanged h (h.swap s 0 (h.len s - 1)) 0 (n := h.len s - 1)
  obtain ⟨t, popped, -, perm⟩ := sunk.pop lawful (x := x)
    (by rw [whole.len_eq lawful (le_refl _)]; omega)
    (by rw [swapped, getElem?_set_self (by rw [length_set]; omega), value])
  exact ⟨t, popped, (whole.perm lawful (le_refl _)).symm.trans perm⟩

end Contents

end Go.Heap
