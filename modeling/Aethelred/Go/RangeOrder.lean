import Mathlib.Data.List.AList
import Mathlib.Data.UInt

/- Maps whose iteration order is left open. The map itself is an association list
without repeated keys; a `range` statement visits the keys in an order the program
does not choose. -/
namespace Go

open List Option AList

variable {κ ν α : Type}

abbrev Map (κ ν : Type) := AList (fun _ : κ => ν)

/-- One `range` statement's choice of an iteration order: every key once. -/
structure RangeOrder (α : Type) where
  order : List α → List α
  perm : ∀ keys, (order keys).Perm keys

namespace RangeOrder

def asGiven : RangeOrder α := ⟨id, fun _ => .rfl⟩

variable {keys : List α} (o : RangeOrder α)

theorem mem_order {key : α} : key ∈ o.order keys ↔ key ∈ keys :=
  (o.perm keys).mem_iff

theorem nodup_order : (o.order keys).Nodup ↔ keys.Nodup :=
  (o.perm keys).nodup_iff

theorem order_eq_nil : o.order keys = [] ↔ keys = [] := by
  constructor
  · intro empty
    exact (nil_perm.mp (empty ▸ o.perm keys))
  · rintro rfl
    exact (o.perm []).eq_nil

variable [DecidableEq α]

/-- The order that visits `key` before the others. -/
def startingWith (key : α) : RangeOrder α where
  order keys := if key ∈ keys then key :: keys.erase key else keys
  perm keys := by
    by_cases present : key ∈ keys
    · rw [if_pos present]
      exact (perm_cons_erase present).symm
    · rw [if_neg present]

theorem startingWith_order {key : α} (present : key ∈ keys) :
    (startingWith key).order keys = key :: keys.erase key := by
  simp only [startingWith, present, ↓reduceIte]

end RangeOrder

namespace Map

variable [DecidableEq κ]

def get (m : Map κ ν) (key : κ) (zero : ν) : ν := (m.lookup key).getD zero

@[simp] theorem get_empty (key : κ) (zero : ν) : (∅ : Map κ ν).get key zero = zero := rfl

@[simp] theorem get_insert_self (m : Map κ ν) (key : κ) (value zero : ν) :
    Map.get (m.insert key value) key zero = value := by
  simp only [get, lookup_insert, getD_some]

theorem get_insert_ne (m : Map κ ν) {key other : κ} (value zero : ν) (differ : other ≠ key) :
    Map.get (m.insert key value) other zero = m.get other zero := by
  simp only [get, lookup_insert_ne differ]

theorem lookup_insert_eq (m : Map κ ν) (key other : κ) (value : ν) :
    (m.insert key value).lookup other = if other = key then some value else m.lookup other := by
  by_cases same : other = key
  · subst same
    simp only [lookup_insert, ↓reduceIte]
  · simp only [lookup_insert_ne same, same, ↓reduceIte]

variable {m : Map κ ν}

theorem forall_insert {key : κ} {value : ν} {P : κ → ν → Prop} (new : P key value)
    (old : ∀ other held, m.lookup other = some held → P other held) (other : κ) (held : ν)
    (found : (m.insert key value).lookup other = some held) : P other held := by
  rw [lookup_insert_eq] at found
  split at found
  next same =>
    obtain rfl := some.inj found
    exact same ▸ new
  next => exact old other held found

theorem get_insert_eq (m : Map κ ν) (key other : κ) (value zero : ν) :
    Map.get (m.insert key value) other zero = if other = key then value else m.get other zero := by
  by_cases same : other = key
  · subst same
    simp only [get_insert_self, ↓reduceIte]
  · simp only [get_insert_ne m value zero same, same, ↓reduceIte]

theorem mem_keys_iff {key : κ} : key ∈ m.keys ↔ ∃ value, m.lookup key = some value := by
  rw [← isSome_iff_exists, lookup_isSome]
  exact Iff.rfl

theorem keys_perm_of_lookup {m n : Map κ ν} (same : ∀ key, m.lookup key = n.lookup key) :
    m.keys.Perm n.keys := by
  apply (perm_ext_iff_of_nodup m.keys_nodup n.keys_nodup).mpr
  intro key
  rw [mem_keys_iff, mem_keys_iff, same key]

/-- `m[key] = change(m[key])`, an absent entry read as zero. -/
def update (m : Map κ ν) (key : κ) (zero : ν) (change : ν → ν) : Map κ ν :=
  m.insert key (change (m.get key zero))

theorem get_update (m : Map κ ν) (key other : κ) (zero : ν) (change : ν → ν) :
    (m.update key zero change).get other zero =
      if other = key then change (m.get other zero) else m.get other zero := by
  unfold update
  rw [get_insert_eq]
  split
  · rename_i same
    rw [same]
  · rfl

theorem mem_keys_update (m : Map κ ν) (key other : κ) (zero : ν) (change : ν → ν) :
    other ∈ (m.update key zero change).keys ↔ other = key ∨ other ∈ m.keys := by
  unfold update
  rw [mem_keys_iff, mem_keys_iff, lookup_insert_eq]
  by_cases same : other = key <;> simp [same]

section

variable {ι : Type} (items : List ι) (keyOf : ι → κ) (zero : ν) (change : ι → ν → ν)
  (start : Map κ ν) (key : κ)
include items keyOf zero change start key

theorem get_foldl_update :
    (items.foldl (fun m item => m.update (keyOf item) zero (change item)) start).get key zero =
      (items.filter (fun item => keyOf item = key)).foldl (fun value item => change item value)
        (start.get key zero) := by
  induction items generalizing start with
  | nil => rfl
  | cons item rest ih =>
    rw [foldl_cons, ih, get_update]
    by_cases same : keyOf item = key
    · simp [same]
    · simp [same, Ne.symm same]

theorem mem_keys_foldl_update :
    key ∈ (items.foldl (fun m item => m.update (keyOf item) zero (change item)) start).keys ↔
      key ∈ start.keys ∨ ∃ item ∈ items, keyOf item = key := by
  induction items generalizing start with
  | nil => simp
  | cons item rest ih =>
    rw [foldl_cons, ih, mem_keys_update]
    simp only [mem_cons, exists_eq_or_imp]
    grind

end

/-- A loop over a map's keys replaces every value once. -/
theorem foldlM_replace {keys : List κ} {change : κ → ν → Option ν} {m result : Map κ ν}
    (distinct : keys.Nodup) (done : keys.foldlM (fun (current : Map κ ν) key => do
      let old ← current.lookup key
      let new ← change key old
      return current.insert key new) m = some result) :
    (∀ key ∈ keys, ∃ old new, m.lookup key = some old ∧ change key old = some new ∧
      result.lookup key = some new) ∧
    ∀ key, key ∉ keys → result.lookup key = m.lookup key := by
  induction keys generalizing m with
  | nil =>
    cases done
    simp
  | cons first rest ih =>
    simp only [foldlM_cons, Option.bind_eq_bind, Option.bind_eq_some_iff, Option.pure_def,
      some.injEq] at done
    obtain ⟨next, ⟨old, found, new, changed, rfl⟩, done⟩ := done
    obtain ⟨fresh, distinct⟩ := nodup_cons.mp distinct
    obtain ⟨replaced, kept⟩ := ih distinct done
    constructor
    · intro key member
      rcases mem_cons.mp member with rfl | later
      · exact ⟨old, new, found, changed, by rw [kept key fresh, lookup_insert]⟩
      · have differ : key ≠ first := fun same => fresh (same ▸ later)
        obtain ⟨before, after, present, changed, now⟩ := replaced key later
        rw [lookup_insert_ne differ] at present
        exact ⟨before, after, present, changed, now⟩
    · intro key outside
      obtain ⟨differ, outside⟩ := not_or.mp (fun both => outside (mem_cons.mpr both))
      rw [kept key outside, lookup_insert_ne differ]

theorem foldlM_replace_total {keys : List κ} {change : κ → ν → Option ν} (distinct : keys.Nodup)
    (defined : ∀ key ∈ keys, ∃ old new, m.lookup key = some old ∧ change key old = some new) :
    ∃ result, keys.foldlM (fun (current : Map κ ν) key => do
      let old ← current.lookup key
      let new ← change key old
      return current.insert key new) m = some result := by
  induction keys generalizing m with
  | nil => exact ⟨m, rfl⟩
  | cons first rest ih =>
    obtain ⟨old, new, found, changed⟩ := defined first (mem_cons_self ..)
    obtain ⟨fresh, distinct⟩ := nodup_cons.mp distinct
    have later : ∀ key ∈ rest, ∃ before after, (m.insert first new).lookup key = some before ∧
        change key before = some after := by
      intro key member
      have differ : key ≠ first := fun same => fresh (same ▸ member)
      rw [lookup_insert_ne differ]
      exact defined key (mem_cons_of_mem _ member)
    obtain ⟨result, done⟩ := ih distinct later
    refine ⟨result, ?_⟩
    simp only [foldlM_cons, found, changed, bind_eq_bind, bind_some,
      Option.pure_def]
    exact done

/-- What a `range` statement over the map yields. -/
def entries (m : Map κ ν) (o : RangeOrder κ) : List (κ × ν) :=
  (o.order m.keys).filterMap fun key => (m.lookup key).map fun value => (key, value)

theorem mem_entries {o : RangeOrder κ} {entry : κ × ν} :
    entry ∈ m.entries o ↔ m.lookup entry.1 = some entry.2 := by
  simp only [entries, mem_filterMap, RangeOrder.mem_order, map_eq_some_iff]
  constructor
  · rintro ⟨key, -, value, found, rfl⟩
    exact found
  · intro found
    exact ⟨entry.1, mem_keys_iff.mpr ⟨entry.2, found⟩, entry.2, found, rfl⟩

theorem nodup_fst_entries (m : Map κ ν) (o : RangeOrder κ) :
    ((m.entries o).map Prod.fst).Nodup := by
  have keys : (m.entries o).map Prod.fst =
      (o.order m.keys).filter fun key => (m.lookup key).isSome := by
    unfold entries
    induction o.order m.keys with
    | nil => rfl
    | cons key rest ih => cases found : m.lookup key <;> simp [found, ih]
  rw [keys]
  exact (o.nodup_order.mpr m.keys_nodup).filter _

/-- What a loop of insertions under distinct keys leaves. -/
theorem lookup_foldl_insert {ι : Type} {items : List ι} {keyOf : ι → κ} {valueOf : ι → ν}
    (distinct : (items.map keyOf).Nodup) {start : Map κ ν} {key : κ} {value : ν} :
    (items.foldl (fun m item => m.insert (keyOf item) (valueOf item)) start).lookup key =
        some value ↔
      (∃ item ∈ items, keyOf item = key ∧ valueOf item = value) ∨
        ((∀ item ∈ items, keyOf item ≠ key) ∧ start.lookup key = some value) := by
  induction items generalizing start with
  | nil => simp
  | cons item rest ih =>
    obtain ⟨fresh, distinct⟩ := nodup_cons.mp distinct
    rw [foldl_cons, ih distinct, lookup_insert_eq]
    have later : ∀ other ∈ rest, keyOf other ≠ keyOf item :=
      fun other member same => fresh (mem_map.mpr ⟨other, member, same⟩)
    by_cases same : keyOf item = key
    · subst same
      simp only [↓reduceIte, some.injEq, mem_cons, exists_eq_or_imp, true_and,
        forall_eq_or_imp, ne_eq, not_true_eq_false, false_and, or_false]
      constructor
      · rintro (⟨other, member, equal, -⟩ | ⟨-, first⟩)
        · exact absurd equal (later other member)
        · exact .inl first
      · rintro (first | ⟨other, member, equal, -⟩)
        · exact .inr ⟨later, first⟩
        · exact absurd equal (later other member)
    · simp [same, Ne.symm same]

end Map

end Go
