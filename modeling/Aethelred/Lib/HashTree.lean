import Mathlib.Data.UInt

/- Hash trees over a list of leaves. Each level is paired up from the left and a last one without
a partner moves up as it is, until one is left. The trees that are built this way are what the
digests stand for: a root without collisions below it has one tree, and a tree has one list of
leaves. -/
namespace HashTree

open List

variable {ω δ : Type}

def pairUp (join : δ → δ → δ) : List δ → List δ
  | left :: right :: rest => join left right :: pairUp join rest
  | rest => rest

theorem length_pairUp (join : δ → δ → δ) (level : List δ) :
    (pairUp join level).length = (level.length + 1) / 2 := by
  fun_induction pairUp join level with
  | case1 left right rest ih =>
    simp only [length_cons, ih]
    omega
  | case2 level few =>
    match level with
    | [] => simp
    | [last] => simp
    | left :: right :: rest => exact absurd rfl (few left right rest)

/-- The parent of an entry joins it with its sibling. -/
theorem getElem?_pairUp (join : δ → δ → δ) (symmetric : ∀ a b, join a b = join b a)
    (level : List δ) (index : Nat) (inside : index < level.length) :
    (pairUp join level)[index / 2]? = some ((level[if index % 2 = 0 then index + 1
      else index - 1]?).toList.foldl join level[index]) := by
  fun_induction pairUp join level generalizing index with
  | case1 left right rest ih =>
    match index with
    | 0 => rfl
    | 1 => exact congrArg some (symmetric left right)
    | index + 2 =>
      have shorter : index < rest.length := by simpa using inside
      have half : (index + 2) / 2 = index / 2 + 1 := by omega
      have partner : (if (index + 2) % 2 = 0 then index + 2 + 1 else index + 2 - 1) =
          (if index % 2 = 0 then index + 1 else index - 1) + 2 := by
        split <;> split <;> omega
      rw [half, partner, getElem?_cons_succ, ih index shorter]
      rfl
  | case2 level few =>
    match level with
    | [] => exact absurd inside (Nat.not_lt_zero index)
    | [last] =>
      obtain rfl : index = 0 := Nat.lt_one_iff.mp inside
      rfl
    | left :: right :: rest => exact absurd rfl (few left right rest)

def collapse (join : δ → δ → δ) (level : List δ) : List δ :=
  if 1 < level.length then collapse join (pairUp join level) else level
termination_by level.length
decreasing_by
  rw [length_pairUp]
  omega

theorem length_collapse (join : δ → δ → δ) {level : List δ} (nonempty : level ≠ []) :
    (collapse join level).length = 1 := by
  fun_induction collapse join level with
  | case1 level many ih =>
    apply ih
    intro none
    have few := congrArg length none
    rw [length_pairUp, length_nil] at few
    omega
  | case2 level few =>
    have some := length_pos_iff.mpr nonempty
    omega

inductive Tree (ω : Type) where
  | leaf (word : ω)
  | node (left right : Tree ω)

/-- How words are hashed and what word two digests are put into. -/
structure Scheme (ω δ : Type) where
  hash : ω → δ
  nodeWord : δ → δ → ω

namespace Scheme

variable (scheme : Scheme ω δ)

def join (left right : δ) : δ := scheme.hash (scheme.nodeWord left right)

def levelWords : List δ → List ω
  | left :: right :: rest => scheme.nodeWord left right :: levelWords rest
  | _ => []

def upperWords (level : List δ) : List ω :=
  if 1 < level.length then scheme.levelWords level ++ upperWords (pairUp scheme.join level) else []
termination_by level.length
decreasing_by
  rw [length_pairUp]
  omega

def words (leaves : List ω) : List ω := leaves ++ scheme.upperWords (leaves.map scheme.hash)

end Scheme

namespace Tree

variable (scheme : Scheme ω δ)

def root : Tree ω → δ
  | leaf word => scheme.hash word
  | node left right => scheme.join (root left) (root right)

def leaves : Tree ω → List ω
  | leaf word => [word]
  | node left right => leaves left ++ leaves right

def words : Tree ω → List ω
  | leaf word => [word]
  | node left right =>
    scheme.nodeWord (root scheme left) (root scheme right) :: (words left ++ words right)

/-- Trees with one root are equal when their words do not collide and no leaf is written like an
inner node. -/
theorem eq_of_root_eq {tree tree' : Tree ω}
    (pairs : ∀ a b c d, scheme.nodeWord a b = scheme.nodeWord c d → a = c ∧ b = d)
    (apart : ∀ word ∈ tree.leaves, ∀ a b, word ≠ scheme.nodeWord a b)
    (apart' : ∀ word ∈ tree'.leaves, ∀ a b, word ≠ scheme.nodeWord a b)
    (free : Set.InjOn scheme.hash {word | word ∈ tree.words scheme ∨ word ∈ tree'.words scheme})
    (same : tree.root scheme = tree'.root scheme) : tree = tree' := by
  induction tree generalizing tree' with
  | leaf word =>
    cases tree' with
    | leaf word' =>
      have equal := free (.inl (mem_singleton_self word))
        (.inr (mem_singleton_self word')) same
      rw [equal]
    | node left' right' =>
      have equal := free (.inl (mem_singleton_self word)) (.inr mem_cons_self) same
      exact absurd equal (apart word (mem_singleton_self word) _ _)
  | node left right leftIH rightIH =>
    cases tree' with
    | leaf word' =>
      have equal := free (.inl mem_cons_self) (.inr (mem_singleton_self word')) same
      exact absurd equal.symm (apart' word' (mem_singleton_self word') _ _)
    | node left' right' =>
      have equal := free (.inl mem_cons_self) (.inr mem_cons_self) same
      obtain ⟨lefts, rights⟩ := pairs _ _ _ _ equal
      simp only [leaves, mem_append] at apart apart'
      have leftFree : Set.InjOn scheme.hash {word | word ∈ left.words scheme ∨
          word ∈ left'.words scheme} := by
        apply free.mono
        intro word member
        exact member.imp (fun inside => mem_cons_of_mem _ (mem_append_left _ inside))
          (fun inside => mem_cons_of_mem _ (mem_append_left _ inside))
      have rightFree : Set.InjOn scheme.hash {word | word ∈ right.words scheme ∨
          word ∈ right'.words scheme} := by
        apply free.mono
        intro word member
        exact member.imp (fun inside => mem_cons_of_mem _ (mem_append_right _ inside))
          (fun inside => mem_cons_of_mem _ (mem_append_right _ inside))
      rw [leftIH (fun word member => apart word (.inl member))
          (fun word member => apart' word (.inl member)) leftFree lefts,
        rightIH (fun word member => apart word (.inr member))
          (fun word member => apart' word (.inr member)) rightFree rights]

end Tree

section Collapse

variable (scheme : Scheme ω δ)

section

variable (trees : List (Tree ω))
include trees

theorem leaves_pairUp :
    (pairUp .node trees).flatMap Tree.leaves = trees.flatMap Tree.leaves := by
  fun_induction pairUp Tree.node trees with
  | case1 left right rest ih => simp only [flatMap_cons, Tree.leaves, ih, append_assoc]
  | case2 level few => rfl

theorem leaves_collapse :
    (collapse .node trees).flatMap Tree.leaves = trees.flatMap Tree.leaves := by
  fun_induction collapse Tree.node trees with
  | case1 level many ih => rw [ih, leaves_pairUp]
  | case2 level few => rfl

theorem map_pairUp :
    (pairUp .node trees).map (Tree.root scheme) =
      pairUp scheme.join (trees.map (Tree.root scheme)) := by
  fun_induction pairUp Tree.node trees with
  | case1 left right rest ih => simp only [map_cons, Tree.root, pairUp, ih]
  | case2 level few =>
    match level with
    | [] => rfl
    | [last] => rfl
    | left :: right :: rest => exact absurd rfl (few left right rest)

theorem map_collapse :
    (collapse .node trees).map (Tree.root scheme) =
      collapse scheme.join (trees.map (Tree.root scheme)) := by
  fun_induction collapse Tree.node trees with
  | case1 level many ih =>
    rw [ih, map_pairUp]
    conv_rhs => rw [collapse, length_map, if_pos many]
  | case2 level few => rw [collapse, length_map, if_neg few]

end

theorem mem_words_pairUp {trees : List (Tree ω)} {word : ω}
    (member : word ∈ (pairUp .node trees).flatMap (Tree.words scheme)) :
    word ∈ trees.flatMap (Tree.words scheme) ∨
      word ∈ scheme.levelWords (trees.map (Tree.root scheme)) := by
  fun_induction pairUp Tree.node trees with
  | case1 left right rest ih =>
    simp only [flatMap_cons, Tree.words, mem_append, mem_cons,
      Scheme.levelWords, map_cons] at member ⊢
    rcases member with (own | inLeft | inRight) | later
    · exact .inr (.inl own)
    · exact .inl (.inl inLeft)
    · exact .inl (.inr (.inl inRight))
    · rcases ih later with below | above
      · exact .inl (.inr (.inr below))
      · exact .inr (.inr above)
  | case2 level few => exact .inl member

theorem mem_words_collapse {trees : List (Tree ω)} {word : ω}
    (member : word ∈ (collapse .node trees).flatMap (Tree.words scheme)) :
    word ∈ trees.flatMap (Tree.words scheme) ∨
      word ∈ scheme.upperWords (trees.map (Tree.root scheme)) := by
  fun_induction collapse Tree.node trees with
  | case1 level many ih =>
    rw [Scheme.upperWords, length_map, if_pos many, ← map_pairUp, mem_append]
    rcases ih member with below | above
    · rcases mem_words_pairUp scheme below with lower | here
      · exact .inl lower
      · exact .inr (.inl here)
    · exact .inr (.inr above)
  | case2 level few => exact .inl member

/-- Collapsing a list of digests builds a tree over the leaves. -/
theorem exists_tree {leaves : List ω} (nonempty : leaves ≠ []) :
    ∃ tree : Tree ω, tree.leaves = leaves ∧
      collapse scheme.join (leaves.map scheme.hash) = [tree.root scheme] ∧
      ∀ word ∈ tree.words scheme, word ∈ scheme.words leaves := by
  have some : leaves.map Tree.leaf ≠ [] := by
    intro none
    exact nonempty (map_eq_nil_iff.mp none)
  obtain ⟨tree, built⟩ := length_eq_one_iff.mp (length_collapse Tree.node some)
  have roots : (leaves.map Tree.leaf).map (Tree.root scheme) = leaves.map scheme.hash := by
    rw [map_map]
    rfl
  refine ⟨tree, ?_, ?_, ?_⟩
  · have kept := leaves_collapse (leaves.map Tree.leaf)
    rw [built, flatMap_singleton, flatMap_map] at kept
    rw [kept]
    exact flatMap_singleton' leaves
  · rw [← roots, ← map_collapse, built]
    rfl
  · intro word member
    have inside : word ∈ (collapse .node (leaves.map Tree.leaf)).flatMap (Tree.words scheme) := by
      rwa [built, flatMap_singleton]
    rw [Scheme.words, mem_append, ← roots]
    refine (mem_words_collapse scheme inside).imp_left ?_
    intro below
    rw [flatMap_map] at below
    rwa [show (fun leaf => Tree.words scheme (.leaf leaf)) = fun leaf : ω => [leaf] from rfl,
      flatMap_singleton'] at below

/-- A root without collisions below it determines the leaves, whatever their number. -/
theorem leaves_eq_of_collapse_eq {leaves leaves' : List ω} (nonempty : leaves ≠ [])
    (nonempty' : leaves' ≠ [])
    (pairs : ∀ a b c d, scheme.nodeWord a b = scheme.nodeWord c d → a = c ∧ b = d)
    (apart : ∀ word ∈ leaves, ∀ a b, word ≠ scheme.nodeWord a b)
    (apart' : ∀ word ∈ leaves', ∀ a b, word ≠ scheme.nodeWord a b)
    (free : Set.InjOn scheme.hash {word | word ∈ scheme.words leaves ∨
      word ∈ scheme.words leaves'}) (same : collapse scheme.join (leaves.map scheme.hash) =
      collapse scheme.join (leaves'.map scheme.hash)) : leaves = leaves' := by
  obtain ⟨tree, rfl, rooted, inside⟩ := exists_tree scheme nonempty
  obtain ⟨tree', rfl, rooted', inside'⟩ := exists_tree scheme nonempty'
  have roots : tree.root scheme = tree'.root scheme := by
    rw [rooted, rooted'] at same
    exact singleton_inj.mp same
  have treesFree : Set.InjOn scheme.hash {word | word ∈ tree.words scheme ∨
      word ∈ tree'.words scheme} := by
    apply free.mono
    intro word member
    exact member.imp (inside word) (inside' word)
  rw [Tree.eq_of_root_eq scheme pairs apart apart' treesFree roots]

def doubleUp (join : δ → δ → δ) : List δ → List δ
  | left :: right :: rest => join left right :: doubleUp join rest
  | [last] => [join last last]
  | [] => []

theorem length_doubleUp (join : δ → δ → δ) (level : List δ) :
    (doubleUp join level).length = (level.length + 1) / 2 := by
  fun_induction doubleUp join level with
  | case1 left right rest ih =>
    simp only [length_cons, ih]
    omega
  | case2 last => simp
  | case3 => simp

def condense (join : δ → δ → δ) (level : List δ) : List δ :=
  if 1 < level.length then condense join (doubleUp join level) else level
termination_by level.length
decreasing_by
  rw [length_doubleUp]
  omega

theorem length_condense (join : δ → δ → δ) {level : List δ} (nonempty : level ≠ []) :
    (condense join level).length = 1 := by
  fun_induction condense join level with
  | case1 level many ih =>
    apply ih
    intro none
    have few := congrArg length none
    rw [length_doubleUp, length_nil] at few
    omega
  | case2 level few =>
    have some := length_pos_iff.mpr nonempty
    omega

section

variable (trees : List (Tree ω))
include trees

theorem map_doubleUp :
    (doubleUp .node trees).map (Tree.root scheme) =
      doubleUp scheme.join (trees.map (Tree.root scheme)) := by
  fun_induction doubleUp Tree.node trees with
  | case1 left right rest ih => simp only [map_cons, Tree.root, doubleUp, ih]
  | case2 last => rfl
  | case3 => rfl

theorem map_condense :
    (condense .node trees).map (Tree.root scheme) =
      condense scheme.join (trees.map (Tree.root scheme)) := by
  fun_induction condense Tree.node trees with
  | case1 level many ih =>
    rw [ih, map_doubleUp]
    conv_rhs => rw [condense, length_map, if_pos many]
  | case2 level few => rw [condense, length_map, if_neg few]

theorem leaves_doubleUp :
    trees.flatMap Tree.leaves <+: (doubleUp .node trees).flatMap Tree.leaves ∧
      ∀ word ∈ (doubleUp .node trees).flatMap Tree.leaves, word ∈ trees.flatMap Tree.leaves := by
  fun_induction doubleUp Tree.node trees with
  | case1 left right rest ih =>
    simp only [flatMap_cons, Tree.leaves, append_assoc]
    refine ⟨(prefix_append_right_inj _).mpr ((prefix_append_right_inj _).mpr ih.1), ?_⟩
    simp only [mem_append]
    exact fun word => Or.imp_right (Or.imp_right (ih.2 word))
  | case2 last =>
    simp only [flatMap_singleton, Tree.leaves]
    exact ⟨prefix_append .., fun word member => or_self_iff.mp (mem_append.mp member)⟩
  | case3 => exact ⟨prefix_rfl, fun _ => id⟩

theorem leaves_condense :
    trees.flatMap Tree.leaves <+: (condense .node trees).flatMap Tree.leaves ∧
      ∀ word ∈ (condense .node trees).flatMap Tree.leaves, word ∈ trees.flatMap Tree.leaves := by
  fun_induction condense Tree.node trees with
  | case1 level many ih =>
    obtain ⟨first, copies⟩ := leaves_doubleUp level
    exact ⟨first.trans ih.1, fun word member => copies word (ih.2 word member)⟩
  | case2 level few => exact ⟨prefix_rfl, fun _ => id⟩

end

end Collapse

end HashTree
