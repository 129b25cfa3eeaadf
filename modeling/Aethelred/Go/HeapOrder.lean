import Aethelred.Go.Heap

/- What the heap algorithms keep in order. -/
namespace Go.Heap

open List Option Nat

section Layout

variable {α : Type} (le : α → α → Prop) (f : Nat → α)

/-- Each of the first `n` positions is in order with its parent, where that is at least `lo`. -/
def Ordered (lo n : Nat) : Prop :=
  ∀ j, 0 < j → j < n → lo ≤ parent j → le (f (parent j)) (f j)

/-- In order but for position `x`, whose children are in order with its parent. -/
structure OrderedBut (lo n x : Nat) : Prop where
  edges : ∀ j, 0 < j → j < n → lo ≤ parent j → j ≠ x → parent j ≠ x → le (f (parent j)) (f j)
  bridge : 0 < x → lo ≤ parent x → ∀ j, 0 < j → j < n → parent j = x → le (f (parent x)) (f j)

variable {le f} {lo n x : Nat}

theorem parent_lt {j : Nat} (positive : 0 < j) : parent j < j := by
  unfold parent
  omega

theorem parent_eq_iff {j i : Nat} (positive : 0 < j) :
    parent j = i ↔ j = 2 * i + 1 ∨ j = 2 * i + 2 := by
  unfold parent
  omega

/-- Exchanged with its least child, the misplaced item sinks one place. -/
theorem OrderedBut.sink (but : OrderedBut le f lo n x) {c : Nat} (inside : c < n)
    (child : 0 < c ∧ parent c = x) (reached : lo ≤ x)
    (least : ∀ k, 0 < k → k < n → parent k = x → le (f c) (f k)) :
    OrderedBut le (fun k => f (Equiv.swap x c k)) lo n c := by
  have below : x < c := child.2 ▸ parent_lt child.1
  constructor
  · intro j positive within reachedJ notChild parentNot
    have above := parent_lt positive
    by_cases atX : j = x
    · subst atX
      have higher : parent j ≠ j := by omega
      rw [Equiv.swap_apply_of_ne_of_ne higher parentNot, Equiv.swap_apply_left]
      exact but.bridge positive reachedJ c child.1 inside child.2
    · rw [Equiv.swap_apply_of_ne_of_ne atX notChild]
      by_cases parentX : parent j = x
      · rw [parentX, Equiv.swap_apply_left]
        exact least j positive within parentX
      · rw [Equiv.swap_apply_of_ne_of_ne parentX parentNot]
        exact but.edges j positive within reachedJ atX parentX
  · intro _ _ j positive within parentC
    have above := parent_lt positive
    have notX : j ≠ x := by omega
    have notC : j ≠ c := by omega
    rw [child.2, Equiv.swap_apply_left, Equiv.swap_apply_of_ne_of_ne notX notC]
    have edge := but.edges j positive within (by omega) notX (by omega)
    rwa [parentC] at edge

/-- Exchanged with its parent, it rises one place. -/
theorem OrderedBut.rise (but : OrderedBut le f 0 n x) (positive : 0 < x) (inside : x < n)
    (trans : ∀ {a b c}, le a b → le b c → le a c) (lesser : le (f x) (f (parent x))) :
    OrderedBut le (fun k => f (Equiv.swap (parent x) x k)) 0 n (parent x) ∧
      ∀ j, 0 < j → j < n → parent j = parent x →
        le (f (Equiv.swap (parent x) x (parent x))) (f (Equiv.swap (parent x) x j)) := by
  have above := parent_lt positive
  have sibling : ∀ j, 0 < j → j < n → j ≠ x → parent j = parent x → le (f (parent x)) (f j) := by
    intro j positiveJ within atX parentJ
    have edge := but.edges j positiveJ within (zero_le _) atX (by omega)
    rwa [parentJ] at edge
  refine ⟨⟨?_, ?_⟩, ?_⟩
  · intro j positiveJ within _ notParent parentNot
    have atX : j ≠ x := fun same => parentNot (congrArg parent same)
    rw [Equiv.swap_apply_of_ne_of_ne notParent atX]
    by_cases parentX : parent j = x
    · rw [parentX, Equiv.swap_apply_right]
      exact but.bridge positive (zero_le _) j positiveJ within parentX
    · rw [Equiv.swap_apply_of_ne_of_ne parentNot parentX]
      exact but.edges j positiveJ within (zero_le _) atX parentX
  · intro positiveP _ j positiveJ within parentJ
    have higher := parent_lt positiveP
    have pairs := parent_lt positiveJ
    have notP : parent (parent x) ≠ parent x := by omega
    have notX : parent (parent x) ≠ x := by omega
    have edge := but.edges (parent x) positiveP (by omega) (zero_le _) (by omega) notX
    rw [Equiv.swap_apply_of_ne_of_ne notP notX]
    by_cases atX : j = x
    · rw [atX, Equiv.swap_apply_right]
      exact edge
    · have notParent : j ≠ parent x := by omega
      rw [Equiv.swap_apply_of_ne_of_ne notParent atX]
      exact trans edge (sibling j positiveJ within atX parentJ)
  · intro j positiveJ within parentJ
    have pairs := parent_lt positiveJ
    rw [Equiv.swap_apply_left]
    by_cases atX : j = x
    · rw [atX, Equiv.swap_apply_right]
      exact lesser
    · have notParent : j ≠ parent x := by omega
      rw [Equiv.swap_apply_of_ne_of_ne notParent atX]
      exact trans lesser (sibling j positiveJ within atX parentJ)

/-- The last item may be misplaced where it is put. -/
theorem Ordered.swap_last (ordered : Ordered le f 0 (n + 1)) (inside : x ≤ n)
    (trans : ∀ {a b c}, le a b → le b c → le a c) :
    OrderedBut le (fun k => f (Equiv.swap x n k)) 0 n x := by
  constructor
  · intro j positive within _ atX parentX
    have above := parent_lt positive
    have notLast : j ≠ n := by omega
    have parentNotLast : parent j ≠ n := by omega
    rw [Equiv.swap_apply_of_ne_of_ne atX notLast,
      Equiv.swap_apply_of_ne_of_ne parentX parentNotLast]
    exact ordered j positive (by omega) (zero_le _)
  · intro positiveX _ j positive within child
    have above := parent_lt positive
    have higher := parent_lt positiveX
    have parentNot : parent x ≠ x := by omega
    have parentNotLast : parent x ≠ n := by omega
    have notX : j ≠ x := by omega
    have notLast : j ≠ n := by omega
    rw [Equiv.swap_apply_of_ne_of_ne parentNot parentNotLast,
      Equiv.swap_apply_of_ne_of_ne notX notLast]
    have entering := ordered x positiveX (by omega) (zero_le _)
    have leaving := ordered j positive (by omega) (zero_le _)
    rw [child] at leaving
    exact trans entering leaving

theorem OrderedBut.ordered (but : OrderedBut le f lo n x)
    (entering : 0 < x → lo ≤ parent x → le (f (parent x)) (f x))
    (leaving : ∀ j, 0 < j → j < n → parent j = x → le (f x) (f j)) : Ordered le f lo n := by
  intro j positive inside reached
  by_cases atX : j = x
  · subst atX
    exact entering positive reached
  · by_cases child : parent j = x
    · rw [child]
      exact leaving j positive inside child
    · exact but.edges j positive inside reached atX child

theorem Ordered.root (ordered : Ordered le f 0 n) (refl : ∀ a, le a a)
    (trans : ∀ {a b c}, le a b → le b c → le a c) {k : Nat} (inside : k < n) : le (f 0) (f k) := by
  induction k using Nat.strongRecOn with
  | ind k ih =>
    by_cases zero : k = 0
    · rw [zero]
      exact refl _
    · have positive : 0 < k := by omega
      have above := parent_lt positive
      exact trans (ih (parent k) above (by omega)) (ordered k positive inside (zero_le _))

end Layout

def item {α : Type} [Inhabited α] (entries : List α) (k : Nat) : α := entries.getD k default

theorem item_swapped {α : Type} [Inhabited α] {entries : List α} {i j : Nat}
    (first : i < entries.length) (second : j < entries.length) (k : Nat) :
    item ((entries.set i entries[j]).set j entries[i]) k = item entries (Equiv.swap i j k) := by
  unfold item
  by_cases atJ : k = j
  · subst atJ
    rw [Equiv.swap_apply_right]
    simp [getD_eq_getElem?_getD, first, second]
  · by_cases atI : k = i
    · subst atI
      rw [Equiv.swap_apply_left]
      simp [getD_eq_getElem?_getD, first, second, getElem_set_ne (Ne.symm atJ)]
    · rw [Equiv.swap_apply_of_ne_of_ne atI atJ]
      simp [getD_eq_getElem?_getD, getElem?_set_ne (Ne.symm atJ),
        getElem?_set_ne (Ne.symm atI)]

/-- `Less` compares by a total order. -/
structure Interface.Compares {σ α : Type} [Inhabited α] (h : Interface σ α)
    (entries : σ → List α) (le : α → α → Prop) : Prop where
  less_iff : ∀ s {i j : Nat}, i < (entries s).length → j < (entries s).length →
    (h.less s i j = true ↔ ¬le (item (entries s) j) (item (entries s) i))
  trans : ∀ {a b c}, le a b → le b c → le a c
  total : ∀ a b, le a b ∨ le b a

section Sifting

variable {σ α : Type} [Inhabited α] {h : Interface σ α} {entries : σ → List α}
  {le : α → α → Prop} (lawful : h.Lawful entries) (compares : h.Compares entries le)

include compares in
theorem Interface.Compares.refl (a : α) : le a a := by
  rcases compares.total a a with holds | holds <;> exact holds

variable {s : σ} {i j : Nat}

include compares in
theorem Interface.Compares.of_not_less (first : i < (entries s).length)
    (second : j < (entries s).length) (notLess : ¬h.less s i j = true) :
    le (item (entries s) j) (item (entries s) i) := by
  rw [compares.less_iff s first second] at notLess
  exact not_not.mp notLess

include compares in
theorem Interface.Compares.of_less (first : i < (entries s).length)
    (second : j < (entries s).length) (less : h.less s i j = true) :
    le (item (entries s) i) (item (entries s) j) := by
  rw [compares.less_iff s first second] at less
  exact (compares.total _ _).resolve_right less

include lawful in
theorem item_swap (first : i < (entries s).length) (second : j < (entries s).length) :
    item (entries (h.swap s i j)) = fun k => item (entries s) (Equiv.swap i j k) := by
  funext k
  rw [lawful.swap s first second, item_swapped first second]

omit [Inhabited α] in
include lawful in
theorem length_swap (first : i < (entries s).length) (second : j < (entries s).length) :
    (entries (h.swap s i j)).length = (entries s).length := by
  rw [lawful.swap s first second, length_set, length_set]

include compares in
theorem lesserChild_least {i n k : Nat} (within : n ≤ (entries s).length)
    (positive : 0 < k) (inside : k < n) (child : parent k = i) :
    le (item (entries s) (lesserChild h s i n)) (item (entries s) k) := by
  rw [parent_eq_iff positive] at child
  unfold lesserChild
  split
  · rename_i right
    rcases child with rfl | rfl
    · exact compares.of_less (by omega) (by omega) right.2
    · exact compares.refl _
  · rename_i left
    rcases child with rfl | rfl
    · exact compares.refl _
    · exact compares.of_not_less (by omega) (by omega) (fun less => left ⟨inside, less⟩)

omit [Inhabited α] in
theorem downLoop_rest_ge (n fuel : Nat) (s : σ) (i : Nat) : i ≤ (downLoop h n fuel s i).2 := by
  induction fuel generalizing s i with
  | zero => exact le_refl i
  | succ fuel ih =>
    unfold downLoop
    split
    · exact le_refl i
    · rename_i has
      split
      · exact le_refl i
      · have lower := (lesserChild_inside h s (not_le.mp has)).2
        exact le_trans (le_of_lt lower) (ih _ _)

omit [Inhabited α] in
theorem downLoop_unmoved {n fuel : Nat} {i : Nat}
    (unmoved : (downLoop h n fuel s i).2 ≤ i) : (downLoop h n fuel s i).1 = s := by
  cases fuel with
  | zero => rfl
  | succ fuel =>
    unfold downLoop at unmoved ⊢
    split
    · rfl
    · rename_i has
      split
      · rfl
      · rename_i less
        have lower := (lesserChild_inside h s (not_le.mp has)).2
        rw [if_neg has, if_neg less] at unmoved
        have sunk := downLoop_rest_ge (h := h) n fuel (h.swap s i (lesserChild h s i n))
          (lesserChild h s i n)
        omega

include lawful compares in
/-- Sinking repairs the order below the element, and above it too if it moved. -/
theorem downLoop_ordered {lo n : Nat} (fuel : Nat) {x : Nat} (within : n ≤ (entries s).length)
    (enough : n ≤ x + fuel) (reached : lo ≤ x) (but : OrderedBut le (item (entries s)) lo n x)
    {j : Nat} (positive : 0 < j) (inside : j < n) (reachedJ : lo ≤ parent j)
    (entering : j = x → x < (downLoop h n fuel s x).2 ∨
      le (item (entries s) (parent x)) (item (entries s) x)) :
    le (item (entries (downLoop h n fuel s x).1) (parent j))
      (item (entries (downLoop h n fuel s x).1) j) := by
  induction fuel generalizing s x with
  | zero =>
    have above := parent_lt positive
    exact but.edges j positive inside reachedJ (by omega) (by omega)
  | succ fuel ih =>
    have children := @parent_eq_iff j x positive
    by_cases leaf : 2 * x + 1 ≥ n
    · rw [downLoop, if_pos leaf] at entering ⊢
      by_cases atX : j = x
      · subst atX
        exact (entering rfl).resolve_left (lt_irrefl _)
      · exact but.edges j positive inside reachedJ atX (by omega)
    · have has := not_le.mp leaf
      obtain ⟨childInside, childBelow⟩ := lesserChild_inside h s has
      by_cases stays : ¬h.less s (lesserChild h s x n) x = true
      · rw [downLoop, if_neg leaf, if_pos stays] at entering ⊢
        have beyond := compares.of_not_less (by omega) (by omega) stays
        by_cases atX : j = x
        · subst atX
          exact (entering rfl).resolve_left (lt_irrefl _)
        · by_cases child : parent j = x
          · rw [child]
            exact compares.trans beyond
              (lesserChild_least compares within positive inside child)
          · exact but.edges j positive inside reachedJ atX child
      · have sinks := compares.of_less (by omega) (by omega) (not_not.mp stays)
        rw [downLoop, if_neg leaf, if_neg stays]
        have layout := item_swap lawful (s := s) (i := x) (j := lesserChild h s x n)
          (by omega) (by omega)
        have parentChild : parent (lesserChild h s x n) = x := by
          rw [parent_eq_iff (by omega)]
          unfold lesserChild
          split <;> omega
        have size := length_swap lawful (s := s) (i := x) (j := lesserChild h s x n)
          (by omega) (by omega)
        apply ih (by omega) (by omega) (by omega)
        · rw [layout]
          exact but.sink childInside ⟨by omega, parentChild⟩ reached fun k positiveK insideK =>
            lesserChild_least compares within positiveK insideK
        · intro _
          right
          rw [layout, parentChild]
          simp only [Equiv.swap_apply_left, Equiv.swap_apply_right]
          exact sinks

include lawful compares in
/-- `up` restores the order. -/
theorem upLoop_ordered {n fuel : Nat} {x : Nat} (within : n ≤ (entries s).length)
    (enough : x ≤ fuel) (inside : x < n) (but : OrderedBut le (item (entries s)) 0 n x)
    (below : ∀ j, 0 < j → j < n → parent j = x →
      le (item (entries s) x) (item (entries s) j)) :
    Ordered le (item (entries (upLoop h fuel s x))) 0 n := by
  induction fuel generalizing s x with
  | zero => exact but.ordered (fun positive _ => absurd positive (by omega)) below
  | succ fuel ih =>
    by_cases rests : parent x = x ∨ ¬h.less s x (parent x) = true
    · rw [upLoop, if_pos rests]
      refine but.ordered (fun positive _ => ?_) below
      have above := parent_lt positive
      have notLess := rests.resolve_left (by omega)
      exact compares.of_not_less (by omega) (by omega) notLess
    · rw [upLoop, if_neg rests]
      obtain ⟨notRoot, less⟩ := not_or.mp rests
      have positive : 0 < x := by
        unfold parent at notRoot
        omega
      have above := parent_lt positive
      have layout := item_swap lawful (s := s) (i := parent x) (j := x) (by omega) (by omega)
      have size := length_swap lawful (s := s) (i := parent x) (j := x) (by omega) (by omega)
      have lesser := compares.of_less (by omega) (by omega) (not_not.mp less)
      obtain ⟨risen, beyond⟩ := but.rise positive inside compares.trans lesser
      apply ih (by omega) (by omega) (by omega)
      · rw [layout]
        exact risen
      · rw [layout]
        exact beyond

include lawful compares in
theorem settle_ordered {n : Nat} {x : Nat} (within : n ≤ (entries s).length)
    (inside : x < n) (but : OrderedBut le (item (entries s)) 0 n x) :
    Ordered le (item (entries (settle h s x n))) 0 n := by
  have sunk := fun j positive below reached => downLoop_ordered lawful compares (n - x)
    within (by omega) (zero_le x) but (j := j) positive below reached
  simp only [settle]
  by_cases moved : (down h s x n).2 > x
  · rw [if_pos moved]
    intro j positive below reached
    exact sunk j positive below reached fun _ => .inl moved
  · rw [if_neg moved]
    have unmoved : (down h s x n).1 = s := downLoop_unmoved (not_lt.mp moved)
    rw [unmoved]
    refine upLoop_ordered lawful compares within (le_refl x) inside but ?_
    intro j positive below child
    have above := parent_lt positive
    have edge := sunk j positive below (zero_le _) fun same => absurd same (by omega)
    rw [← down, unmoved, child] at edge
    exact edge

include lawful compares in
theorem initLoop_ordered {n count : Nat} (within : n ≤ (entries s).length)
    (ordered : Ordered le (item (entries s)) count n) :
    Ordered le (item (entries (initLoop h n count s))) 0 n := by
  induction count generalizing s with
  | zero => exact ordered
  | succ i ih =>
    have size := (down_exchanged h s i (n := n)).len_eq lawful (by rw [lawful.len]; exact within)
    rw [lawful.len, lawful.len] at size
    refine ih (by omega) fun j positive inside reached => ?_
    have but : OrderedBut le (item (entries s)) i n i := by
      constructor
      · intro k positiveK insideK reachedK _ parentNot
        exact ordered k positiveK insideK (by omega)
      · intro positiveI reachedI
        have above := parent_lt positiveI
        omega
    refine downLoop_ordered lawful compares (n - i) within (by omega) (le_refl i) but
      positive inside reached fun same => ?_
    have above := parent_lt positive
    omega

include lawful compares in
theorem init_ordered (s : σ) : Ordered le (item (entries (init h s))) 0 (entries s).length := by
  unfold init
  rw [lawful.len]
  refine initLoop_ordered lawful compares (le_refl _) fun j positive inside reached => ?_
  unfold parent at reached
  omega

variable {l : List α}

theorem Ordered.dropLast {n : Nat} (size : l.length = n + 1)
    (ordered : Ordered le (item l) 0 n) : Ordered le (item l.dropLast) 0 l.dropLast.length := by
  have shorter : l.dropLast.length = n := by rw [length_dropLast, size, Nat.add_sub_cancel]
  have same : ∀ k, k < n → item l.dropLast k = item l k := by
    intro k inside
    simp only [item, getD_eq_getElem?_getD, getElem?_dropLast]
    rw [if_pos (by omega)]
  intro j positive inside reached
  have above := parent_lt positive
  rw [same j (by omega), same (parent j) (by omega)]
  exact ordered j positive (by omega) reached

include lawful in
theorem pop_keeps_ordered {s t : σ} {x : α} {n : Nat} (size : (entries s).length = n + 1)
    (ordered : Ordered le (item (entries s)) 0 n) (popped : h.pop s = some (x, t)) :
    Ordered le (item (entries t)) 0 (entries t).length := by
  obtain ⟨rest, taken, shorter⟩ := lawful.pop s (ne_nil_of_length_eq_add_one size)
  rw [taken, some.injEq, Prod.mk.injEq] at popped
  obtain ⟨-, rfl⟩ := popped
  rw [shorter]
  exact ordered.dropLast size

include lawful compares in
/-- `Pop` takes a least item and keeps the order. -/
theorem pop_ordered {s t : σ} {x : α} (ordered : Ordered le (item (entries s)) 0 (entries s).length)
    (nonempty : entries s ≠ []) (popped : pop h s = some (x, t)) :
    (∀ y ∈ entries s, le x y) ∧ Ordered le (item (entries t)) 0 (entries t).length := by
  have positive : 0 < (entries s).length := length_pos_iff.mpr nonempty
  obtain ⟨n, size⟩ : ∃ n, (entries s).length = n + 1 := ⟨_, (succ_pred_eq_of_pos positive).symm⟩
  have last : h.len s - 1 = n := by rw [lawful.len, size, Nat.add_sub_cancel]
  constructor
  · obtain ⟨t', popped', -⟩ := pop_perm lawful s (getElem?_eq_getElem positive)
    rw [popped', some.injEq, Prod.mk.injEq] at popped
    intro y member
    obtain ⟨k, inside, rfl⟩ := mem_iff_getElem.mp member
    have least := ordered.root compares.refl compares.trans inside
    simpa only [item, getD_eq_getElem?_getD, getElem?_eq_getElem inside,
      getElem?_eq_getElem positive, getD_some, ← popped.1] using least
  · have layout := item_swap lawful (s := s) (i := 0) (j := n) (by omega) (by omega)
    have sizeSwap := length_swap lawful (s := s) (i := 0) (j := n) (by omega) (by omega)
    have sunk := (down_exchanged h (h.swap s 0 n) 0 (n := n)).perm lawful
      (by rw [lawful.len]; omega)
    rw [pop, last] at popped
    refine pop_keeps_ordered lawful (n := n) (by rw [sunk.length_eq]; omega) ?_ popped
    intro j positiveJ inside reached
    refine downLoop_ordered lawful compares (n - 0) (by omega) (by omega)
      (le_refl 0) ?_ positiveJ inside reached (fun same => absurd same (by omega))
    rw [layout]
    rw [size] at ordered
    exact ordered.swap_last (zero_le n) compares.trans

theorem item_append {x : α} {k : Nat} (inside : k < l.length) : item (l ++ [x]) k = item l k := by
  simp only [item, getD_eq_getElem?_getD, getElem?_append_left inside]

include lawful compares in
/-- `Push` keeps the order. -/
theorem push_ordered (x : α) (ordered : Ordered le (item (entries s)) 0 (entries s).length) :
    Ordered le (item (entries (push h s x))) 0 (entries (push h s x)).length := by
  have added := lawful.push s x
  have size : (entries (h.push s x)).length = (entries s).length + 1 := by
    rw [added, length_append, length_singleton]
  have last : h.len (h.push s x) - 1 = (entries s).length := by
    rw [lawful.len, size, Nat.add_sub_cancel]
  have risen := (up_exchanged h (h.push s x) (j := (entries s).length)
    (n := (entries s).length + 1) (lt_succ_self _)).perm lawful
      (by rw [lawful.len]; exact le_of_eq size.symm)
  simp only [push, last]
  rw [risen.length_eq, size]
  have leaf : ∀ j, 0 < j → j < (entries s).length + 1 → parent j ≠ (entries s).length := by
    intro j positive inside child
    have above := parent_lt positive
    omega
  refine upLoop_ordered lawful compares (by omega) (le_refl _) (lt_succ_self _) ?_
    fun j positive inside child => absurd child (leaf j positive inside)
  constructor
  · intro j positive inside reached notLast _
    have above := parent_lt positive
    rw [added, item_append (by omega), item_append (by omega)]
    exact ordered j positive (by omega) reached
  · intro _ _ j positive inside child
    exact absurd child (leaf j positive inside)

theorem Ordered.congr {le le' : α → α → Prop} {n : Nat} (within : n ≤ l.length)
    (ordered : Ordered le (item l) 0 n)
    (same : ∀ x ∈ l, ∀ y ∈ l, le x y → le' x y) : Ordered le' (item l) 0 n := by
  intro j positive inside reached
  have above := parent_lt positive
  have member : ∀ k, k < n → item l k ∈ l := by
    intro k small
    simp only [item, getD_eq_getElem?_getD,
      getElem?_eq_getElem (show k < l.length by omega),
      getD_some]
    exact getElem_mem _
  exact same _ (member _ (by omega)) _ (member _ inside) (ordered j positive inside reached)

/-- An item whose priority changed is the only one misplaced. -/
theorem Ordered.but {le le' : α → α → Prop} {x : Nat} (ordered : Ordered le (item l) 0 l.length)
    (nodup : l.Nodup) (inside : x < l.length) (trans : ∀ {a b c}, le a b → le b c → le a c)
    (same : ∀ a ∈ l, ∀ b ∈ l, a ≠ l[x] → b ≠ l[x] → le a b → le' a b) :
    OrderedBut le' (item l) 0 l.length x := by
  have value : ∀ {k} (small : k < l.length), item l k = l[k] := by
    intro k small
    simp only [item, getD_eq_getElem?_getD, getElem?_eq_getElem small, getD_some]
  have apart : ∀ {k} (small : k < l.length), k ≠ x → l[k] ≠ l[x] := by
    intro k small differs equal
    exact differs ((Nodup.getElem_inj_iff nodup).mp equal)
  constructor
  · intro j positive insideJ reached notX parentNot
    have above := parent_lt positive
    have before := ordered j positive insideJ reached
    have insideP : parent j < l.length := by omega
    rw [value insideJ, value insideP] at before ⊢
    exact same _ (getElem_mem _) _ (getElem_mem _) (apart insideP parentNot)
      (apart insideJ notX) before
  · intro positiveX _ j positive insideJ child
    have above := parent_lt positive
    have higher := parent_lt positiveX
    have entering := ordered x positiveX inside (zero_le _)
    have leaving := ordered j positive insideJ (zero_le _)
    rw [child] at leaving
    have before := trans entering leaving
    have insideP : parent x < l.length := by omega
    rw [value insideJ, value insideP] at before ⊢
    exact same _ (getElem_mem _) _ (getElem_mem _) (apart insideP (by omega))
      (apart insideJ (by omega)) before

include lawful compares in
theorem remove_ordered {s t : σ} {x : α} {i : Nat}
    (ordered : Ordered le (item (entries s)) 0 (entries s).length)
    (inside : i < (entries s).length) (removed : remove h s i = some (x, t)) :
    Ordered le (item (entries t)) 0 (entries t).length := by
  obtain ⟨n, size⟩ : ∃ n, (entries s).length = n + 1 :=
    ⟨_, (succ_pred_eq_of_pos (zero_lt_of_lt inside)).symm⟩
  have last : h.len s - 1 = n := by rw [lawful.len, size, Nat.add_sub_cancel]
  simp only [remove, last] at removed
  rw [size] at ordered
  by_cases atEnd : n ≠ i
  · rw [if_pos atEnd] at removed
    have layout := item_swap lawful (s := s) (i := i) (j := n) inside (by omega)
    have sizeSwap := length_swap lawful (s := s) (i := i) (j := n) inside (by omega)
    have settled := (settle_exchanged h (h.swap s i n) (i := i) (n := n) (m := n) (by omega)
      (le_refl n)).perm lawful (by rw [lawful.len]; omega)
    refine pop_keeps_ordered lawful (n := n) (by rw [settled.length_eq]; omega) ?_ removed
    refine settle_ordered lawful compares (by omega) (by omega) ?_
    rw [layout]
    exact ordered.swap_last (by omega) compares.trans
  · rw [if_neg atEnd] at removed
    refine pop_keeps_ordered lawful (n := n) size ?_ removed
    intro j positive below reached
    exact ordered j positive (by omega) reached

end Sifting

/- Heaps whose elements know their own positions. -/

section Indexed

variable {σ α : Type} [DecidableEq α] (h : Interface σ α) (entries : σ → List α)
  (index : σ → α → Int)

/-- Exchanging and adding elements writes their positions down, and taking the last one touches no
other. -/
structure Interface.Indexed : Prop where
  swap : ∀ s {i j} (first : i < (entries s).length) (second : j < (entries s).length) x,
    index (h.swap s i j) x = if x = (entries s)[i] then (j : Int)
      else if x = (entries s)[j] then (i : Int) else index s x
  push : ∀ s x y, index (h.push s x) y = if y = x then ((entries s).length : Int) else index s y
  pop : ∀ s x t, h.pop s = some (x, t) → ∀ y, y ≠ x → index t y = index s y

/-- No element is twice in the heap, and each is where it says. -/
structure Positioned (s : σ) : Prop where
  nodup : (entries s).Nodup
  at_index : ∀ {i : Nat} {x : α}, (entries s)[i]? = some x → index s x = i

variable {h entries index} (lawful : h.Lawful entries) (indexed : h.Indexed entries index)

omit [DecidableEq α] in
theorem Positioned.getElem? {s : σ} (positioned : Positioned entries index s) {x : α}
    (member : x ∈ entries s) : (entries s)[(index s x).toNat]? = some x ∧ 0 ≤ index s x := by
  obtain ⟨i, found⟩ := mem_iff_getElem?.mp member
  rw [positioned.at_index found, Int.toNat_natCast]
  exact ⟨found, Int.natCast_nonneg i⟩

include lawful indexed in
/-- `Swap` keeps the index of positions. -/
theorem Positioned.swap {s : σ} (positioned : Positioned entries index s) {i j : Nat}
    (first : i < (entries s).length) (second : j < (entries s).length) :
    Positioned entries index (h.swap s i j) := by
  have swapped := lawful.swap s first second
  constructor
  · rw [swapped]
    exact (set_set_perm first second).nodup_iff.mpr positioned.nodup
  · intro k x found
    rw [swapped] at found
    rw [indexed.swap s first second]
    by_cases atJ : k = j
    · subst atJ
      rw [getElem?_set_self (by rw [length_set]; exact second)] at found
      rw [if_pos (some.inj found).symm]
    · rw [getElem?_set_ne (Ne.symm atJ)] at found
      by_cases atI : k = i
      · subst atI
        rw [getElem?_set_self first] at found
        have here := (some.inj found).symm
        by_cases same : x = (entries s)[k]
        · have twice := (Nodup.getElem_inj_iff positioned.nodup).mp (same.symm.trans here)
          exact absurd twice atJ
        · rw [if_neg same, if_pos here]
      · rw [getElem?_set_ne (Ne.symm atI)] at found
        obtain ⟨inside, here⟩ := List.getElem?_eq_some_iff.mp found
        rw [if_neg, if_neg]
        · exact positioned.at_index found
        · intro same
          exact atJ ((Nodup.getElem_inj_iff positioned.nodup).mp (here.trans same))
        · intro same
          exact atI ((Nodup.getElem_inj_iff positioned.nodup).mp (here.trans same))

include lawful indexed in
theorem Exchanged.positioned {n : Nat} {s t : σ} (exchanged : Exchanged h n s t)
    (within : n ≤ (entries s).length) (positioned : Positioned entries index s) :
    Positioned entries index t := by
  refine (exchanged.keeps (fun u => n ≤ (entries u).length ∧ Positioned entries index u) ?_
    ⟨within, positioned⟩).2
  intro u i j first second ⟨size, before⟩
  refine ⟨?_, before.swap lawful indexed (by omega) (by omega)⟩
  rw [length_swap lawful (by omega) (by omega)]
  exact size

include lawful indexed in
theorem init_positioned {s : σ} (positioned : Positioned entries index s) :
    Positioned entries index (init h s) :=
  (init_exchanged h s).positioned lawful indexed (le_of_eq (lawful.len s)) positioned

include lawful indexed in
theorem fix_positioned {s : σ} (positioned : Positioned entries index s) {i : Nat}
    (inside : i < (entries s).length) : Positioned entries index (fix h s i) :=
  (fix_exchanged h s (by rw [lawful.len]; exact inside)).positioned lawful indexed
    (le_of_eq (lawful.len s)) positioned

include lawful indexed in
/-- `Push` keeps the index of positions. -/
theorem push_positioned {s : σ} (positioned : Positioned entries index s) {x : α}
    (fresh : x ∉ entries s) : Positioned entries index (push h s x) := by
  have added := lawful.push s x
  have pushed : Positioned entries index (h.push s x) := by
    constructor
    · rw [added, nodup_append]
      refine ⟨positioned.nodup, nodup_singleton x, fun old listed new given same => ?_⟩
      rw [same, mem_singleton.mp given] at listed
      exact fresh listed
    · intro k y found
      rw [added] at found
      rw [indexed.push]
      by_cases old : k < (entries s).length
      · rw [getElem?_append_left old] at found
        have differs : y ≠ x := fun same => fresh (same ▸ mem_of_getElem? found)
        rw [if_neg differs]
        exact positioned.at_index found
      · rw [getElem?_append_right (not_lt.mp old), getElem?_singleton] at found
        split at found
        · rename_i last
          rw [if_pos (some.inj found).symm]
          omega
        · cases found
  have size : h.len (h.push s x) = (entries (h.push s x)).length := lawful.len _
  refine (up_exchanged h (h.push s x) (n := h.len (h.push s x)) ?_).positioned lawful indexed
    (le_of_eq size) pushed
  rw [size, added, length_append, length_singleton]
  omega

include lawful indexed in
theorem Positioned.pop {s t : σ} {x : α} (positioned : Positioned entries index s)
    (nonempty : entries s ≠ []) (popped : h.pop s = some (x, t)) : Positioned entries index t := by
  obtain ⟨rest, taken, shorter⟩ := lawful.pop s nonempty
  rw [taken, some.injEq, Prod.mk.injEq] at popped
  obtain ⟨last, rfl⟩ := popped
  have split := dropLast_append_getLast nonempty
  have apart := positioned.nodup
  rw [← split, nodup_append] at apart
  constructor
  · rw [shorter]
    exact apart.1
  · intro k y found
    rw [shorter] at found
    have differs : y ≠ (entries s).getLast nonempty :=
      apart.2.2 y (mem_of_getElem? found) _ (mem_singleton_self _)
    rw [indexed.pop s _ _ taken y differs]
    apply positioned.at_index
    obtain ⟨inside, value⟩ := List.getElem?_eq_some_iff.mp found
    rw [← split, getElem?_append_left inside]
    exact found

include lawful indexed in
theorem pop_positioned {s t : σ} {x : α} (positioned : Positioned entries index s)
    (nonempty : entries s ≠ []) (popped : Heap.pop h s = some (x, t)) :
    Positioned entries index t := by
  have positive : 0 < (entries s).length := length_pos_iff.mpr nonempty
  have size := lawful.len s
  have swapped := positioned.swap lawful indexed (i := 0) (j := h.len s - 1) positive (by omega)
  have sizeSwap := length_swap lawful (s := s) (i := 0) (j := h.len s - 1) positive (by omega)
  have sunk := down_exchanged h (h.swap s 0 (h.len s - 1)) 0 (n := h.len s - 1)
  have perm := sunk.perm lawful (by rw [lawful.len (h.swap s 0 (h.len s - 1))]; omega)
  unfold Heap.pop at popped
  refine (sunk.positioned lawful indexed (by omega) swapped).pop lawful indexed ?_ popped
  apply ne_nil_of_length_pos
  rw [perm.length_eq]
  omega

include lawful indexed in
theorem remove_positioned {s t : σ} {x : α} {i : Nat} (positioned : Positioned entries index s)
    (inside : i < (entries s).length) (removed : remove h s i = some (x, t)) :
    Positioned entries index t := by
  have size := lawful.len s
  have nonempty : entries s ≠ [] := ne_nil_of_length_pos (by omega)
  unfold remove at removed
  dsimp only at removed
  split at removed
  · rename_i other
    have swapped := positioned.swap lawful indexed (i := i) (j := h.len s - 1) inside (by omega)
    have sizeSwap := length_swap lawful (s := s) (i := i) (j := h.len s - 1) inside (by omega)
    have settled := settle_exchanged h (h.swap s i (h.len s - 1)) (n := h.len s - 1) (i := i)
      (by omega) (le_refl _)
    have perm := settled.perm lawful (by rw [lawful.len (h.swap s i (h.len s - 1))]; omega)
    refine (settled.positioned lawful indexed (by omega) swapped).pop lawful indexed ?_ removed
    apply ne_nil_of_length_pos
    rw [perm.length_eq]
    omega
  · exact positioned.pop lawful indexed nonempty removed

end Indexed

end Go.Heap
