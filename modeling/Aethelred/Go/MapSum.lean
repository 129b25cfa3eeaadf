import Aethelred.Go.RangeOrder
import Mathlib.Algebra.Order.BigOperators.Group.Finset

/- The sum of an amount over the entries of a map, how many entries have a property, and how an
update changes both. -/
namespace Go.Map

open List

variable {κ ν : Type} [DecidableEq κ] {m n : Map κ ν} {amount : ν → Nat}

theorem lookup_erase_eq (m : Map κ ν) (key other : κ) :
    (m.erase key).lookup other = if other = key then none else m.lookup other := by
  by_cases same : other = key
  · subst same
    simp only [AList.lookup_erase, ↓reduceIte]
  · simp only [AList.lookup_erase_ne same, same, ↓reduceIte]

def share (amount : ν → Nat) (entry : Option ν) : Nat := (entry.map amount).getD 0

@[simp] theorem share_none : share amount none = 0 := rfl

@[simp] theorem share_some (value : ν) : share amount (some value) = amount value := rfl

def sum (m : Map κ ν) (amount : ν → Nat) : Nat :=
  (m.keys.map fun key => share amount (m.lookup key)).sum

@[simp] theorem sum_empty : sum (∅ : Map κ ν) amount = 0 := rfl

theorem sum_erase (m : Map κ ν) (key : κ) (amount : ν → Nat) :
    sum (m.erase key) amount + share amount (m.lookup key) = m.sum amount := by
  have others : (m.keys.erase key).map (fun k => share amount ((m.erase key).lookup k)) =
      (m.keys.erase key).map (fun k => share amount (m.lookup k)) := by
    refine map_congr_left fun k member => ?_
    have differ : k ≠ key := ((m.keys_nodup.mem_erase_iff).mp member).1
    rw [AList.lookup_erase_ne differ]
  unfold sum
  rw [AList.keys_erase, others]
  by_cases present : key ∈ m.keys
  · have split := Perm.sum_eq ((perm_cons_erase present).map
      fun k => share amount (m.lookup k))
    rw [map_cons, sum_cons] at split
    omega
  · have absent : m.lookup key = none := AList.lookup_eq_none.mpr present
    rw [erase_of_not_mem present, absent]
    rfl

theorem sum_insert (m : Map κ ν) (key : κ) (value : ν) (amount : ν → Nat) :
    sum (m.insert key value) amount + share amount (m.lookup key) =
      m.sum amount + amount value := by
  have same : sum ((m.insert key value).erase key) amount = sum (m.erase key) amount := by
    unfold sum
    rw [AList.keys_erase, AList.keys_insert, AList.keys_erase, erase_cons_head]
    refine congrArg List.sum (List.map_congr_left fun k member => ?_)
    have differ : k ≠ key := ((m.keys_nodup.mem_erase_iff).mp member).1
    rw [AList.lookup_erase_ne differ, AList.lookup_erase_ne differ, AList.lookup_insert_ne differ]
  have before := sum_erase m key amount
  have after := sum_erase (m.insert key value) key amount
  rw [AList.lookup_insert, same, share_some] at after
  omega

def countP (m : Map κ ν) (test : ν → Bool) : Nat :=
  m.keys.countP fun key => (m.lookup key).any test

@[simp] theorem countP_empty (test : ν → Bool) : countP (∅ : Map κ ν) test = 0 := rfl

def tally (entry : Option ν) (test : ν → Bool) : Nat := if entry.any test then 1 else 0

@[simp] theorem tally_none (test : ν → Bool) : tally none test = 0 := rfl

@[simp] theorem tally_some (value : ν) (test : ν → Bool) :
    tally (some value) test = if test value then 1 else 0 := rfl

theorem countP_eq_sum (m : Map κ ν) (test : ν → Bool) :
    m.countP test = m.sum fun value => if test value then 1 else 0 := by
  unfold countP sum
  induction m.keys with
  | nil => rfl
  | cons key keys ih =>
    rw [countP_cons, map_cons, sum_cons, ih, Nat.add_comm]
    cases m.lookup key with
    | none => rfl
    | some value => rfl

theorem tally_eq_share (entry : Option ν) (test : ν → Bool) :
    tally entry test = share (fun value => if test value then 1 else 0) entry := by
  cases entry with
  | none => rfl
  | some value => rfl

theorem countP_erase (m : Map κ ν) (key : κ) (test : ν → Bool) :
    (countP (m.erase key) test) + tally (m.lookup key) test = m.countP test := by
  rw [countP_eq_sum, countP_eq_sum, tally_eq_share]
  exact sum_erase m key _

theorem countP_insert (m : Map κ ν) (key : κ) (value : ν) (test : ν → Bool) :
    (countP (m.insert key value) test) + tally (m.lookup key) test =
      m.countP test + tally (some value) test := by
  rw [countP_eq_sum, countP_eq_sum, tally_eq_share, tally_some]
  exact sum_insert m key value _

variable {test : ν → Bool}

theorem countP_congr {m n : Map κ ν}
    (same : ∀ key, (m.lookup key).any test = (n.lookup key).any test)
    (keys : m.keys.Perm n.keys) : m.countP test = n.countP test := by
  unfold countP
  rw [keys.countP_eq]
  exact List.countP_congr fun key _ => by rw [same key]

theorem countP_eq_length (m : Map κ ν) (test : ν → Bool) :
    m.countP test = (m.keys.filter fun key => (m.lookup key).any test).length :=
  countP_eq_length_filter

theorem countP_le_length {m : Map κ ν} {listed : List κ}
    (all : ∀ key value, m.lookup key = some value → test value = true → key ∈ listed) :
    m.countP test ≤ listed.length := by
  rw [countP_eq_length]
  refine (subperm_of_subset (m.keys_nodup.filter _) fun key member => ?_).length_le
  obtain ⟨value, found, passes⟩ := (Option.any_eq_true ..).mp (mem_filter.mp member).2
  exact all key value found passes

theorem countP_le {m n : Map κ ν}
    (source : ∀ key value, n.lookup key = some value → test value = true →
      ∃ before, m.lookup key = some before ∧ test before = true) :
    n.countP test ≤ m.countP test := by
  rw [countP_eq_length m]
  refine countP_le_length fun key value found passes => ?_
  obtain ⟨before, earlier, passed⟩ := source key value found passes
  refine mem_filter.mpr ⟨mem_keys_iff.mpr ⟨before, earlier⟩, ?_⟩
  rw [earlier]
  exact passed

theorem sum_congr (keys : m.keys = n.keys)
    (same : ∀ key, share amount (m.lookup key) = share amount (n.lookup key)) :
    m.sum amount = n.sum amount := by
  unfold sum
  rw [keys]
  exact congrArg List.sum (List.map_congr_left fun key _ => same key)

theorem sum_congr_on {other : ν → Nat}
    (same : ∀ key value, m.lookup key = some value → amount value = other value) :
    m.sum amount = m.sum other := by
  unfold sum
  refine congrArg List.sum (List.map_congr_left fun key _ => ?_)
  cases present : m.lookup key with
  | none => rfl
  | some value => exact same key value present

/-- The map with every value changed, as a loop over `values_mut` leaves it. -/
def mapValues (m : Map κ ν) (change : ν → ν) : Map κ ν where
  entries := (AList.entries m).map fun entry => ⟨entry.1, change entry.2⟩
  nodupKeys := by
    unfold NodupKeys keys
    rw [map_map]
    exact m.nodupKeys

theorem lookup_mapValues (m : Map κ ν) (change : ν → ν) (key : κ) :
    (m.mapValues change).lookup key = (m.lookup key).map change :=
  @List.dlookup_map₂ κ _ (fun _ => ν) (fun _ => ν) (AList.entries m) (fun _ => change) key

omit [DecidableEq κ] in
theorem keys_mapValues (m : Map κ ν) (change : ν → ν) : (m.mapValues change).keys = m.keys := by
  unfold AList.keys keys mapValues
  rw [map_map]
  rfl

theorem sum_mapValues (m : Map κ ν) {change : ν → ν}
    (same : ∀ value, amount (change value) = amount value) :
    (m.mapValues change).sum amount = m.sum amount := by
  refine sum_congr (keys_mapValues m change) fun key => ?_
  rw [lookup_mapValues]
  cases m.lookup key with
  | none => rfl
  | some value => exact same value

theorem share_le_sum (m : Map κ ν) (key : κ) (amount : ν → Nat) :
    share amount (m.lookup key) ≤ m.sum amount := by
  rw [← sum_erase m key amount]
  exact Nat.le_add_left _ _

theorem share_add_share_le_sum (m : Map κ ν) {key other : κ} (differ : other ≠ key)
    (amount : ν → Nat) :
    share amount (m.lookup key) + share amount (m.lookup other) ≤ m.sum amount := by
  have rest := share_le_sum (m.erase key) other amount
  rw [AList.lookup_erase_ne differ] at rest
  rw [← sum_erase m key amount]
  omega

theorem sum_le_sum {μ : Type} {other : Map κ μ} {bound : μ → Nat}
    (le : ∀ key, share amount (m.lookup key) ≤ share bound (other.lookup key)) :
    m.sum amount ≤ other.sum bound := by
  unfold sum
  rw [← sum_toFinset _ m.keys_nodup, ← sum_toFinset _ other.keys_nodup]
  refine Nat.le_trans (Finset.sum_le_sum fun key _ => le key) ?_
  refine Finset.sum_le_sum_of_ne_zero fun key _ nonzero => ?_
  rw [mem_toFinset]
  by_contra absent
  rw [AList.lookup_eq_none.mpr absent] at nonzero
  exact nonzero rfl

end Go.Map
