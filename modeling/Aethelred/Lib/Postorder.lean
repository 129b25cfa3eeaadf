import Mathlib.Data.UInt

/- A depth-first walk over a graph of named nodes that lists a node after everything it links to. -/
namespace Postorder

open List

variable {κ ν : Type} [DecidableEq κ]

/-- Nodes with names, each with the names it links to. -/
structure Graph (κ ν : Type) where
  find : κ → Option ν
  name : ν → κ
  links : ν → List κ

namespace Graph

variable (g : Graph κ ν)

/-- The names seen so far and the nodes finished so far, after a walk from the node. -/
def visit : Nat → ν → List κ × List ν → List κ × List ν
  | 0, _, state => state
  | fuel + 1, node, state =>
    if g.name node ∈ state.1 then state
    else
      let after := (g.links node).foldl (fun state link =>
        match g.find link with
        | some next => visit fuel next state
        | none => state) (g.name node :: state.1, state.2)
      (after.1, after.2 ++ [node])

def follow (fuel : Nat) (state : List κ × List ν) (link : κ) : List κ × List ν :=
  match g.find link with
  | some next => g.visit fuel next state
  | none => state

variable {g} {fuel : Nat} {node next : ν} {state : List κ × List ν} {link : κ}

theorem visit_seen (seen : g.name node ∈ state.1) : g.visit (fuel + 1) node state = state :=
  if_pos seen

theorem visit_new (new : g.name node ∉ state.1) :
    g.visit (fuel + 1) node state =
      (((g.links node).foldl (g.follow fuel) (g.name node :: state.1, state.2)).1,
        ((g.links node).foldl (g.follow fuel) (g.name node :: state.1, state.2)).2 ++ [node]) :=
  if_neg new

theorem follow_some (found : g.find link = some next) :
    g.follow fuel state link = g.visit fuel next state := by
  rw [follow, found]

section Stable

theorem foldl_seen_subset (keeps : ∀ node state, state.1 ⊆ (g.visit fuel node state).1)
    (links : List κ) : state.1 ⊆ (links.foldl (g.follow fuel) state).1 := by
  induction links generalizing state with
  | nil => exact fun _ seen => seen
  | cons link rest ih =>
    refine fun key seen => ih ?_
    unfold follow
    split
    · exact keeps _ _ seen
    · exact seen

theorem seen_subset (node : ν) (state : List κ × List ν) :
    state.1 ⊆ (g.visit fuel node state).1 := by
  induction fuel generalizing node state with
  | zero => exact fun _ seen => seen
  | succ fuel ih =>
    by_cases seen : g.name node ∈ state.1
    · rw [visit_seen seen]
      exact fun _ seen => seen
    · rw [visit_new seen]
      intro key already
      exact foldl_seen_subset ih _ (mem_cons_of_mem _ already)

def unseen (names : Finset κ) (seen : List κ) : Nat := (names \ seen.toFinset).card

theorem unseen_mono {names : Finset κ} {seen more : List κ} (subset : seen ⊆ more) :
    unseen names more ≤ unseen names seen := by
  apply Finset.card_le_card
  apply Finset.sdiff_subset_sdiff (Finset.Subset.refl names)
  intro key
  simpa using @subset key

theorem unseen_cons_lt {names : Finset κ} {seen : List κ} {key : κ} (named : key ∈ names)
    (new : key ∉ seen) : unseen names (key :: seen) < unseen names seen := by
  apply Finset.card_lt_card
  rw [Finset.ssubset_iff_of_subset]
  · refine ⟨key, ?_, ?_⟩
    · simp [named, new]
    · simp
  · apply Finset.sdiff_subset_sdiff (Finset.Subset.refl names)
    intro other
    simp only [mem_toFinset, mem_cons]
    exact Or.inr

variable {names : Finset κ} (named : ∀ link next, g.find link = some next → g.name next ∈ names)

include named in
/-- Fuel beyond the unseen names changes nothing. -/
theorem visit_stable {fuel more : Nat} (node : ν) (state : List κ × List ν)
    (here : g.name node ∈ names) (enough : unseen names state.1 < fuel) (order : fuel ≤ more) :
    g.visit more node state = g.visit fuel node state := by
  induction fuel generalizing more node state with
  | zero => omega
  | succ fuel ih =>
    obtain ⟨more, rfl⟩ : ∃ less, more = less + 1 := ⟨more - 1, by omega⟩
    by_cases seen : g.name node ∈ state.1
    · rw [visit_seen seen, visit_seen seen]
    · have left : ∀ (links : List κ) (state : List κ × List ν), unseen names state.1 < fuel →
          links.foldl (g.follow more) state = links.foldl (g.follow fuel) state := by
        intro links
        induction links with
        | nil => exact fun _ _ => rfl
        | cons link rest rests =>
          intro state enough
          have same : g.follow more state link = g.follow fuel state link := by
            unfold follow
            split
            next next found => exact ih next state (named link next found) enough (by omega)
            next => rfl
          have fewer : unseen names (g.follow fuel state link).1 ≤ unseen names state.1 := by
            apply unseen_mono
            unfold follow
            split
            · exact seen_subset _ _
            · exact fun _ seen => seen
          rw [foldl_cons, foldl_cons, same]
          exact rests _ (by omega)
      have fewer := unseen_cons_lt here seen
      rw [visit_new seen, visit_new seen, left _ _ (by dsimp only; omega)]

end Stable

section Sorted

variable (g) in
/-- Different names, and each node after the names it links to. -/
inductive Sorted : List ν → Prop
  | nil : Sorted []
  | snoc {done : List ν} {node : ν} : Sorted done → g.name node ∉ done.map g.name →
      (∀ link ∈ g.links node, link ∈ done.map g.name) → Sorted (done ++ [node])

omit [DecidableEq κ] in
theorem Sorted.nodup {done : List ν} (sorted : g.Sorted done) : (done.map g.name).Nodup := by
  induction sorted with
  | nil => simp
  | snoc sorted new linked ih =>
    rw [map_append, nodup_append]
    refine ⟨ih, by simp, ?_⟩
    intro key listed other last same
    simp only [map_cons, map_nil, mem_singleton] at last
    exact new (last ▸ same ▸ listed)

omit [DecidableEq κ] in
theorem Sorted.before {done : List ν} (sorted : g.Sorted done) {earlier later : List ν}
    (split : done = earlier ++ node :: later) (member : link ∈ g.links node) :
    link ∈ earlier.map g.name := by
  induction sorted generalizing later with
  | nil => simp at split
  | @snoc done last sorted new linked ih =>
    rcases eq_nil_or_concat later with rfl | ⟨later, final, rfl⟩
    · obtain ⟨rfl, same⟩ := append_inj' split rfl
      obtain rfl := (cons.inj same).1
      exact linked link member
    · rw [concat_eq_append, ← cons_append, ← append_assoc] at split
      exact ih (append_inj' split rfl).1

variable (g) in
/-- What the node links to, through any number of links. -/
def Reaches : ν → ν → Prop :=
  Relation.ReflTransGen fun node next => ∃ link ∈ g.links node, g.find link = some next

/-- The state of a walk: the names seen are those of the finished nodes and of the nodes on the way
to the present one. -/
structure Underway (g : Graph κ ν) (stack : List κ) (state : List κ × List ν) : Prop where
  seen : ∀ key, key ∈ state.1 ↔ key ∈ stack ∨ key ∈ state.2.map g.name
  sorted : g.Sorted state.2

variable {rank : κ → Nat} {good : ν → Prop} {stack : List κ}

/-- Every link of a good node leads to a good node of lower rank. -/
def Descends (g : Graph κ ν) (rank : κ → Nat) (good : ν → Prop) : Prop :=
  ∀ node, good node → ∀ link ∈ g.links node, ∃ next, g.find link = some next ∧ good next ∧
    g.name next = link ∧ rank link < rank (g.name node)

/-- What a walk from a node leaves: it is finished, after what it reaches. -/
structure Walked (g : Graph κ ν) (rank : κ → Nat) (stack : List κ) (node : ν)
    (before after : List κ × List ν) : Prop where
  underway : Underway g stack after
  added : ∃ new, after.2 = before.2 ++ new ∧
    ∀ other ∈ new, g.Reaches node other ∧ rank (g.name other) ≤ rank (g.name node)
  finished : g.name node ∈ after.2.map g.name

/-- What the walks along some links of a node leave. -/
structure Followed (g : Graph κ ν) (rank : κ → Nat) (stack : List κ) (node : ν) (links : List κ)
    (before after : List κ × List ν) : Prop where
  underway : Underway g stack after
  added : ∃ new, after.2 = before.2 ++ new ∧
    ∀ other ∈ new, g.Reaches node other ∧ rank (g.name other) < rank (g.name node)
  finished : ∀ link ∈ links, link ∈ after.2.map g.name

/-- Following all links of a node walks each of them. -/
theorem follow_all (fuel : Nat) (descends : Descends g rank good) (isGood : good node)
    (walks : ∀ next state, good next → rank (g.name next) < rank (g.name node) →
      Underway g stack state → Walked g rank stack next state (g.visit fuel next state))
    (links : List κ) (ours : links ⊆ g.links node) (underway : Underway g stack state) :
    Followed g rank stack node links state (links.foldl (g.follow fuel) state) := by
  induction links generalizing state with
  | nil => exact ⟨underway, ⟨[], by simp⟩, by simp⟩
  | cons link rest ih =>
    have linked : link ∈ g.links node := ours mem_cons_self
    obtain ⟨next, found, nextGood, named, lower⟩ := descends node isGood link linked
    have walked := walks next state nextGood (named ▸ lower) underway
    rw [← follow_some found] at walked
    have followed := ih (fun _ later => ours (mem_cons_of_mem _ later)) walked.underway
    obtain ⟨first, firstEq, firstReach⟩ := walked.added
    obtain ⟨more, moreEq, moreReach⟩ := followed.added
    rw [foldl_cons]
    refine ⟨followed.underway, ⟨first ++ more, ?_, ?_⟩, ?_⟩
    · rw [moreEq, firstEq, append_assoc]
    · intro other member
      rcases mem_append.mp member with early | late
      · obtain ⟨reached, rank_le⟩ := firstReach other early
        rw [named] at rank_le
        exact ⟨.head ⟨link, linked, found⟩ reached, by omega⟩
      · exact moreReach other late
    · intro other member
      rcases mem_cons.mp member with rfl | late
      · rw [moreEq, map_append, mem_append]
        exact Or.inl (named ▸ walked.finished)
      · exact followed.finished other late

/-- A visit walks everything below its node, and only that. -/
theorem visit_walked (descends : Descends g rank good) {fuel : Nat} (node : ν)
    (state : List κ × List ν) (stack : List κ) (isGood : good node)
    (enough : rank (g.name node) < fuel) (above : ∀ key ∈ stack, rank (g.name node) < rank key)
    (underway : Underway g stack state) :
    Walked g rank stack node state (g.visit fuel node state) := by
  induction fuel generalizing node state stack with
  | zero => omega
  | succ fuel ih =>
    by_cases seen : g.name node ∈ state.1
    · rw [visit_seen seen]
      refine ⟨underway, ⟨[], by simp⟩, ?_⟩
      rcases (underway.seen _).mp seen with stacked | finished
      · exact absurd (above _ stacked) (Nat.lt_irrefl _)
      · exact finished
    · have start : Underway g (g.name node :: stack) (g.name node :: state.1, state.2) := by
        refine ⟨fun key => ?_, underway.sorted⟩
        rw [mem_cons, mem_cons, underway.seen key, or_assoc]
      have followed := follow_all fuel descends isGood (fun next state nextGood lower =>
        ih next state _ nextGood (by omega) (by
          intro key stacked
          rcases mem_cons.mp stacked with rfl | stacked
          · exact lower
          · exact lower.trans (above key stacked))) (g.links node) (Subset.refl _) start
      rw [visit_new seen]
      obtain ⟨new, newEq, newReach⟩ := followed.added
      have fresh : g.name node ∉ ((g.links node).foldl (g.follow fuel)
          (g.name node :: state.1, state.2)).2.map g.name := by
        rw [newEq, map_append, mem_append]
        rintro (early | late)
        · exact seen ((underway.seen _).mpr (Or.inr early))
        · obtain ⟨other, member, same⟩ := mem_map.mp late
          have lower := (newReach other member).2
          rw [same] at lower
          exact Nat.lt_irrefl _ lower
      refine ⟨⟨fun key => ?_, .snoc followed.underway.sorted fresh followed.finished⟩,
        ⟨new ++ [node], ?_, ?_⟩, ?_⟩
      · rw [followed.underway.seen key, mem_cons, map_append, mem_append]
        simp only [map_cons, map_nil, mem_singleton]
        tauto
      · dsimp only
        rw [newEq, append_assoc]
      · intro other member
        rcases mem_append.mp member with early | last
        · exact ⟨(newReach other early).1, (newReach other early).2.le⟩
        · obtain rfl := mem_singleton.mp last
          exact ⟨.refl, Nat.le_refl _⟩
      · simp

theorem visit_start (descends : Descends g rank good) (isGood : good node)
    (enough : rank (g.name node) < fuel) :
    g.Sorted (g.visit fuel node ([], [])).2 ∧
      g.name node ∈ (g.visit fuel node ([], [])).2.map g.name ∧
      ∀ other ∈ (g.visit fuel node ([], [])).2, g.Reaches node other := by
  have walked := visit_walked descends node ([], []) [] isGood enough (by simp)
    ⟨by simp, .nil⟩
  obtain ⟨new, listed, reached⟩ := walked.added
  rw [nil_append] at listed
  refine ⟨walked.underway.sorted, walked.finished, fun other member => ?_⟩
  rw [listed] at member
  exact (reached other member).1

end Sorted

section Agreement

variable {g' : Graph κ ν} {same : ν → ν → Prop}

/-- Nodes of two graphs that look alike, and so do the nodes they link to. -/
structure Alike (g g' : Graph κ ν) (same : ν → ν → Prop) : Prop where
  name : ∀ {a b}, same a b → g.name a = g'.name b
  links : ∀ {a b}, same a b → g.links a = g'.links b
  next : ∀ {a b}, same a b → ∀ link ∈ g.links a, ∃ c d, g.find link = some c ∧
    g'.find link = some d ∧ same c d

/-- Walks from nodes that look alike see the same names and finish nodes that look alike. -/
theorem visit_alike (alike : Alike g g' same) (fuel : Nat) {a b : ν} (matched : same a b)
    (state state' : List κ × List ν) (seen : state.1 = state'.1)
    (done : Forall₂ same state.2 state'.2) :
    (g.visit fuel a state).1 = (g'.visit fuel b state').1 ∧
      Forall₂ same (g.visit fuel a state).2 (g'.visit fuel b state').2 := by
  induction fuel generalizing a b state state' with
  | zero => exact ⟨seen, done⟩
  | succ fuel ih =>
    by_cases already : g.name a ∈ state.1
    · have already' : g'.name b ∈ state'.1 := alike.name matched ▸ seen ▸ already
      rw [visit_seen already, visit_seen already']
      exact ⟨seen, done⟩
    · have already' : g'.name b ∉ state'.1 := alike.name matched ▸ seen ▸ already
      have along : ∀ (links : List κ), links ⊆ g.links a →
          ∀ (state state' : List κ × List ν), state.1 = state'.1 →
          Forall₂ same state.2 state'.2 →
          (links.foldl (g.follow fuel) state).1 = (links.foldl (g'.follow fuel) state').1 ∧
            Forall₂ same (links.foldl (g.follow fuel) state).2
              (links.foldl (g'.follow fuel) state').2 := by
        intro links
        induction links with
        | nil => exact fun _ _ _ seen done => ⟨seen, done⟩
        | cons link rest rests =>
          intro ours state state' seen done
          obtain ⟨c, d, found, found', matched⟩ := alike.next matched link
            (ours mem_cons_self)
          obtain ⟨seen, done⟩ := ih matched state state' seen done
          rw [← follow_some found, ← follow_some found'] at seen
          rw [← follow_some found, ← follow_some found'] at done
          exact rests (fun _ later => ours (mem_cons_of_mem _ later)) _ _ seen done
      rw [visit_new already, visit_new already', ← alike.links matched]
      obtain ⟨seen, done⟩ := along (g.links a) (Subset.refl _)
        (g.name a :: state.1, state.2) (g'.name b :: state'.1, state'.2)
        (by rw [alike.name matched, seen]) done
      refine ⟨seen, ?_⟩
      exact rel_append done (.cons matched .nil)

end Agreement

end Graph

end Postorder
