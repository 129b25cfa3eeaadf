import Mathlib.Data.Finset.Fold
import Mathlib.Data.UInt

/- Accumulators: the fold of a commutative operation over all entries of a mapping. Where every
value undoes itself, an entry is replaced by adding the old value and the new one. -/
namespace Accumulator

open Function Finset Nat

variable {α M : Type} (op : M → M → M) (zero : M) [Std.Commutative op] [Std.Associative op]

def gather (keys : Finset α) (values : α → M) : M := keys.fold op zero values

def accumulate [Fintype α] (values : α → M) : M := gather op zero univ values

variable {op zero}

section Gather

variable {keys : Finset α} {values : α → M}

theorem gather_congr {other : α → M} (same : ∀ key ∈ keys, values key = other key) :
    gather op zero keys values = gather op zero keys other := fold_congr same

variable [DecidableEq α]

theorem gather_insert {key : α} (absent : key ∉ keys) :
    gather op zero (insert key keys) values = op (values key) (gather op zero keys values) :=
  fold_insert absent

theorem gather_erase {key : α} (present : key ∈ keys) :
    gather op zero keys values = op (values key) (gather op zero (keys.erase key) values) := by
  have whole : gather op zero (insert key (keys.erase key)) values =
      op (values key) (gather op zero (keys.erase key) values) :=
    gather_insert (notMem_erase key keys)
  rwa [insert_erase present] at whole

theorem gather_filter [Std.LawfulIdentity op zero] (kept : α → Prop) [DecidablePred kept]
    (neutral : ∀ key, ¬kept key → values key = zero) :
    gather op zero (keys.filter kept) values = gather op zero keys values := by
  induction keys using Finset.induction_on with
  | empty => rfl
  | insert key keys absent ih =>
    rw [gather_insert absent, filter_insert]
    split
    next keep =>
      rw [gather_insert (fun member => absent (mem_filter.mp member).1), ih]
    next drop =>
      have identity : ∀ x, op zero x = x := Std.LawfulLeftIdentity.left_id
      rw [ih, neutral key drop, identity]

theorem gather_neutral [Std.LawfulIdentity op zero] (neutral : ∀ key ∈ keys, values key = zero) :
    gather op zero keys values = zero := by
  have identity : ∀ x, op zero x = x := Std.LawfulLeftIdentity.left_id
  induction keys using Finset.induction_on with
  | empty => rfl
  | insert key keys absent ih =>
    rw [gather_insert absent, neutral key (mem_insert_self key keys), identity]
    exact ih fun other member => neutral other (mem_insert_of_mem member)

theorem foldl_eq_gather [Std.LawfulIdentity op zero] {list : List α} (distinct : list.Nodup)
    (start : M) :
    list.foldl (fun acc key => op acc (values key)) start =
      op start (gather op zero list.toFinset values) := by
  induction list generalizing start with
  | nil =>
    have identity : ∀ x, op x zero = x := Std.LawfulRightIdentity.right_id
    exact (identity start).symm
  | cons key rest ih =>
    have assoc : ∀ x y z, op (op x y) z = op x (op y z) := Std.Associative.assoc
    obtain ⟨absent, distinct⟩ := List.nodup_cons.mp distinct
    rw [List.foldl_cons, ih distinct, List.toFinset_cons,
      gather_insert (fun member => absent (List.mem_toFinset.mp member)), assoc]

end Gather

section Accumulate

variable [Fintype α] [DecidableEq α]

theorem accumulate_update [Std.LawfulIdentity op zero] (cancel : ∀ x, op x x = zero)
    (values : α → M) (key : α) (value : M) :
    accumulate op zero (update values key value) =
      op (op (accumulate op zero values) (values key)) value := by
  have others : gather op zero (univ.erase key) (update values key value) =
      gather op zero (univ.erase key) values := by
    refine gather_congr fun other member => ?_
    rw [update_of_ne (ne_of_mem_erase member)]
  have comm : ∀ x y, op x y = op y x := Std.Commutative.comm
  have assoc : ∀ x y z, op (op x y) z = op x (op y z) := Std.Associative.assoc
  have identity : ∀ x, op x zero = x := Std.LawfulRightIdentity.right_id
  have whole : accumulate op zero values =
      op (values key) (gather op zero (univ.erase key) values) :=
    gather_erase (mem_univ key)
  have rest : op (accumulate op zero values) (values key) =
      gather op zero (univ.erase key) values := by
    rw [whole, comm (values key), assoc, cancel, identity]
  rw [rest, accumulate, gather_erase (mem_univ key), others, update_self, comm]

theorem foldl_eq_accumulate [Std.LawfulIdentity op zero] {list : List α} {values : α → M}
    (distinct : list.Nodup) (neutral : ∀ key, key ∉ list → values key = zero) :
    list.foldl (fun acc key => op acc (values key)) zero = accumulate op zero values := by
  have identity : ∀ x, op zero x = x := Std.LawfulLeftIdentity.left_id
  have reached : gather op zero (univ.filter (· ∈ list)) values =
      accumulate op zero values := gather_filter (· ∈ list) neutral
  have same : univ.filter (· ∈ list) = list.toFinset := by
    ext key
    simp
  rw [foldl_eq_gather distinct, identity, ← same, reached]

end Accumulate

end Accumulator

/- A pool that is owned in shares: deposits mint shares and redemptions burn them at the current
rate, rounded down, and donations raise the rate. -/

structure Pool where
  assets : Nat
  shares : Nat

namespace Pool

variable (pool : Pool)

/-- What a number of shares is worth. -/
def worth (held : Nat) : Nat := held * pool.assets / pool.shares

/-- The shares a deposit is worth; the first one sets the rate. -/
def minted (amount : Nat) : Nat :=
  if pool.assets = 0 then amount else amount * pool.shares / pool.assets

inductive Change (pool : Pool) : Pool → Prop where
  | none : Change pool pool
  | deposit {amount : Nat} (some : 0 < pool.minted amount) :
      Change pool ⟨pool.assets + amount, pool.shares + pool.minted amount⟩
  | redeem {burned : Nat} (held : burned ≤ pool.shares) :
      Change pool ⟨pool.assets - pool.worth burned, pool.shares - burned⟩
  | donate {amount : Nat} : Change pool ⟨pool.assets + amount, pool.shares⟩

/-- Nothing is owned without an owner, and no owner without anything. -/
def Owned : Prop := pool.assets = 0 ↔ pool.shares = 0

variable {pool next : Pool} {held burned amount : Nat}

theorem minted_mul_le (some : pool.assets ≠ 0) (amount : Nat) :
    pool.assets * pool.minted amount ≤ amount * pool.shares := by
  rw [minted, if_neg some]
  exact Nat.mul_div_le _ _

theorem worth_mono (shared : 0 < next.shares)
    (rate : pool.assets * next.shares ≤ next.assets * pool.shares) (held : Nat) :
    pool.worth held ≤ next.worth held := by
  obtain empty | some := Nat.eq_zero_or_pos pool.shares
  · rw [worth, empty, Nat.div_zero]
    exact Nat.zero_le _
  rw [worth, worth, Nat.le_div_iff_mul_le shared]
  refine Nat.le_of_mul_le_mul_right ?_ some
  calc
    held * pool.assets / pool.shares * next.shares * pool.shares =
        held * pool.assets / pool.shares * pool.shares * next.shares := mul_right_comm _ _ _
    _ ≤ held * pool.assets * next.shares := Nat.mul_le_mul_right _ (Nat.div_mul_le_self _ _)
    _ = held * (pool.assets * next.shares) := mul_assoc _ _ _
    _ ≤ held * (next.assets * pool.shares) := Nat.mul_le_mul_left _ rate
    _ = held * next.assets * pool.shares := (mul_assoc _ _ _).symm

theorem worth_deposit (some : 0 < pool.minted amount) (held : Nat) :
    pool.worth held ≤ Pool.worth ⟨pool.assets + amount, pool.shares + pool.minted amount⟩ held := by
  by_cases empty : pool.assets = 0
  · rw [worth, empty, Nat.mul_zero, Nat.zero_div]
    exact Nat.zero_le _
  · refine worth_mono (Nat.add_pos_right _ some) ?_ held
    have paid := minted_mul_le empty amount
    calc
      pool.assets * (pool.shares + pool.minted amount) =
          pool.assets * pool.shares + pool.assets * pool.minted amount := mul_add _ _ _
      _ ≤ pool.assets * pool.shares + amount * pool.shares := Nat.add_le_add_left paid _
      _ = (pool.assets + amount) * pool.shares := (add_mul _ _ _).symm

theorem worth_redeem (remains : held ≤ pool.shares - burned) :
    pool.worth held ≤ Pool.worth ⟨pool.assets - pool.worth burned, pool.shares - burned⟩ held := by
  obtain none | some := Nat.eq_zero_or_pos (pool.shares - burned)
  · obtain rfl : held = 0 := Nat.le_zero.mp (none ▸ remains)
    rw [worth, Nat.zero_mul, Nat.zero_div]
    exact Nat.zero_le _
  · refine worth_mono some ?_ held
    have taken : pool.worth burned * pool.shares ≤ burned * pool.assets := Nat.div_mul_le_self _ _
    rw [mul_comm burned] at taken
    calc
      pool.assets * (pool.shares - burned) = pool.assets * pool.shares - pool.assets * burned :=
        Nat.mul_sub _ _ _
      _ ≤ pool.assets * pool.shares - pool.worth burned * pool.shares := Nat.sub_le_sub_left taken _
      _ = (pool.assets - pool.worth burned) * pool.shares := (Nat.sub_mul _ _ _).symm

/-- Whoever neither deposits nor redeems loses nothing. -/
theorem Change.worth_le (change : Change pool next) (remains : held ≤ next.shares) :
    pool.worth held ≤ next.worth held := by
  cases change with
  | none => exact le_refl _
  | deposit some => exact worth_deposit some held
  | redeem owned => exact worth_redeem remains
  | donate => exact Nat.div_le_div_right (Nat.mul_le_mul_left _ (Nat.le_add_right _ _))

theorem Owned.deposit (some : 0 < pool.minted amount) :
    Owned ⟨pool.assets + amount, pool.shares + pool.minted amount⟩ := by
  have positive : 0 < amount := by
    rw [Nat.pos_iff_ne_zero]
    rintro rfl
    simp [minted] at some
  simp only [Owned]
  omega

theorem Owned.redeem (owned : pool.Owned) (held : burned ≤ pool.shares) :
    Owned ⟨pool.assets - pool.worth burned, pool.shares - burned⟩ := by
  simp only [Owned]
  obtain all | less := eq_or_lt_of_le held
  · subst all
    obtain empty | some := Nat.eq_zero_or_pos pool.shares
    · rw [owned.mpr empty, empty]
      simp
    · rw [worth, Nat.mul_div_cancel_left _ some]
      simp
  · have some : 0 < pool.shares := Nat.zero_lt_of_lt less
    have assets : 0 < pool.assets := Nat.pos_of_ne_zero fun none =>
      (Nat.pos_iff_ne_zero.mp some) (owned.mp none)
    have kept : pool.worth burned < pool.assets := by
      rw [worth, Nat.div_lt_iff_lt_mul some, Nat.mul_comm pool.assets]
      exact Nat.mul_lt_mul_of_pos_right less assets
    omega

end Pool
