import Aethelred.Go.RangeOrder

/- Accounts with a counter each, raised and lowered one at a time. -/
namespace Ledger

open Go

structure Account (γ : Type) where
  held : γ → Int
  withHeld : γ → Int → γ
  limit : γ → Int
  held_withHeld : ∀ account amount, held (withHeld account amount) = amount
  limit_withHeld : ∀ account amount, limit (withHeld account amount) = limit account
  withHeld_withHeld : ∀ account first second,
    withHeld (withHeld account first) second = withHeld account second
  withHeld_held : ∀ account, withHeld account (held account) = account

variable {κ γ : Type} [DecidableEq κ] (kind : Account γ)

def changed (change : Int → Int) (account : γ) : γ :=
  kind.withHeld account (change (kind.held account))

variable (accounts : Map κ γ)

def update (key : κ) (change : Int → Int) : Map κ γ :=
  match accounts.lookup key with
  | some account => accounts.insert key (changed kind change account)
  | none => accounts

theorem lookup_update (key other : κ) (change : Int → Int) :
    (update kind accounts key change).lookup other =
      if other = key then (accounts.lookup other).map (changed kind change)
      else accounts.lookup other := by
  unfold update
  by_cases same : other = key
  · subst same
    cases found : accounts.lookup other with
    | none => simp [found]
    | some account => simp [AList.lookup_insert]
  · cases found : accounts.lookup key with
    | none => simp [same]
    | some account => simp [same, AList.lookup_insert_ne]

variable {keys : List κ}

theorem lookup_foldl_update (distinct : keys.Nodup) (accounts : Map κ γ)
    (change : Int → Int) (key : κ) :
    (keys.foldl (fun m k => update kind m k change) accounts).lookup key =
      if key ∈ keys then (accounts.lookup key).map (changed kind change)
      else accounts.lookup key := by
  induction keys generalizing accounts with
  | nil => simp
  | cons first rest ih =>
    obtain ⟨fresh, distinct⟩ := List.nodup_cons.mp distinct
    rw [List.foldl_cons, ih distinct, lookup_update]
    by_cases same : key = first
    · subst same
      simp [fresh]
    · simp [same]

/-- Every counter shows the amount due and stays within its limit. -/
def Balanced (due : κ → Nat) : Prop :=
  ∀ key account, accounts.lookup key = some account →
    kind.held account = due key ∧ (due key : Int) ≤ kind.limit account

variable {kind} {accounts : Map κ γ} {due due' : κ → Nat}

/-- The accounts of `keys` changed, and the others as they were. -/
def Adjusted (kind : Account γ) (accounts later : Map κ γ) (keys : List κ) (change : Int → Int) :
    Prop :=
  ∀ key, later.lookup key =
    if key ∈ keys then (accounts.lookup key).map (changed kind change) else accounts.lookup key

theorem adjusted_foldl_update (distinct : keys.Nodup) (change : Int → Int) :
    Adjusted kind accounts (keys.foldl (fun m k => update kind m k change) accounts) keys change :=
  lookup_foldl_update kind distinct accounts change

theorem changed_changed (first second : Int → Int) (account : γ) :
    changed kind second (changed kind first account) =
      changed kind (fun amount => second (first amount)) account := by
  unfold changed
  rw [kind.held_withHeld, kind.withHeld_withHeld]

variable {later last : Map κ γ}

theorem Adjusted.trans {change change' : Int → Int}
    (first : Adjusted kind accounts later keys change)
    (second : Adjusted kind later last keys change') :
    Adjusted kind accounts last keys fun amount => change' (change amount) := by
  intro key
  rw [second key, first key]
  by_cases member : key ∈ keys
  · simp only [if_pos member, Option.map_map]
    congr 1
    funext account
    exact changed_changed change change' account
  · simp only [if_neg member]

/-- The same accounts, each with at least what it had. -/
def Raised (kind : Account γ) (accounts later : Map κ γ) : Prop :=
  ∀ key, (accounts.lookup key = none → later.lookup key = none) ∧
    ∀ account, accounts.lookup key = some account →
      ∃ amount, later.lookup key = some (kind.withHeld account amount) ∧ kind.held account ≤ amount

theorem Raised.refl (kind : Account γ) (accounts : Map κ γ) : Raised kind accounts accounts := by
  intro key
  refine ⟨id, fun account found => ⟨kind.held account, ?_, Int.le_refl _⟩⟩
  rw [kind.withHeld_held, found]

variable {later : Map κ γ}

variable {change : Int → Int}

theorem Adjusted.raised (adjusted : Adjusted kind accounts later keys change)
    (more : ∀ amount, amount ≤ change amount) : Raised kind accounts later := by
  intro key
  have here := adjusted key
  refine ⟨fun missing => ?_, fun account found => ?_⟩
  · rw [here, missing]
    split <;> rfl
  · rw [found] at here
    by_cases member : key ∈ keys
    · rw [if_pos member] at here
      exact ⟨_, here, more _⟩
    · rw [if_neg member] at here
      refine ⟨kind.held account, ?_, Int.le_refl _⟩
      rw [kind.withHeld_held, here]

theorem Raised.source (raised : Raised kind accounts later) {key : κ} {account : γ}
    (found : later.lookup key = some account) :
    ∃ before, accounts.lookup key = some before ∧
      account = kind.withHeld before (kind.held account) ∧
        kind.held before ≤ kind.held account := by
  cases earlier : accounts.lookup key with
  | none =>
    rw [(raised key).1 earlier] at found
    cases found
  | some before =>
    obtain ⟨amount, next, more⟩ := (raised key).2 before earlier
    rw [next] at found
    obtain rfl := Option.some.inj found
    refine ⟨before, rfl, ?_, ?_⟩
    · rw [kind.held_withHeld]
    · rwa [kind.held_withHeld]

/-- What was taken from each account is on it, and none went above its limit that was not above
before. -/
def Drawn (kind : Account γ) (accounts later : Map κ γ) (taken : κ → Nat) : Prop :=
  ∀ key, (accounts.lookup key = none → later.lookup key = none) ∧
    ∀ account, accounts.lookup key = some account →
      ∃ amount, later.lookup key = some (kind.withHeld account amount) ∧
        kind.held account + taken key ≤ amount ∧
        amount ≤ max (kind.held account) (kind.limit account) ∧
        (0 < taken key → amount ≤ kind.limit account)

theorem Drawn.refl (kind : Account γ) (accounts : Map κ γ) :
    Drawn kind accounts accounts fun _ => 0 := by
  intro key
  refine ⟨id, fun account found => ⟨kind.held account, ?_, ?_, Int.le_max_left .., ?_⟩⟩
  · rw [kind.withHeld_held, found]
  · dsimp only
    omega
  · exact fun positive => absurd positive (Nat.lt_irrefl 0)

variable {taken : κ → Nat}

theorem Drawn.raised (drawn : Drawn kind accounts later taken) : Raised kind accounts later := by
  intro key
  refine ⟨(drawn key).1, fun account found => ?_⟩
  obtain ⟨amount, next, least, _⟩ := (drawn key).2 account found
  exact ⟨amount, next, by omega⟩

theorem Drawn.within (drawn : Drawn kind accounts later taken) {key : κ} {account : γ}
    (found : later.lookup key = some account) :
    kind.held account ≤ kind.limit account ∨ accounts.lookup key = some account := by
  obtain ⟨before, earlier, _, _⟩ := drawn.raised.source found
  obtain ⟨amount, next, least, most, _⟩ := (drawn key).2 before earlier
  obtain rfl := Option.some.inj (next.symm.trans found)
  rw [kind.held_withHeld, kind.limit_withHeld]
  by_cases bounded : amount ≤ kind.limit before
  · exact .inl bounded
  · right
    have unmoved : amount = kind.held before := by omega
    rw [unmoved, kind.withHeld_held, earlier]

theorem Drawn.congr {taken taken' : κ → Nat} (drawn : Drawn kind accounts later taken)
    (same : ∀ key, taken' key = taken key) : Drawn kind accounts later taken' := by
  have equal : taken' = taken := funext same
  rwa [equal]

/-- Adjusting accounts within their limits draws on them. -/
theorem Drawn.adjusted (drawn : Drawn kind accounts later taken)
    (adjusted : Adjusted kind later last keys change) {extra : Nat}
    (inside : ∀ key ∈ keys, ∀ account, later.lookup key = some account →
      kind.held account + extra ≤ change (kind.held account) ∧
        change (kind.held account) ≤ kind.limit account) :
    Drawn kind accounts last fun key => taken key + if key ∈ keys then extra else 0 := by
  intro key
  have here := adjusted key
  refine ⟨fun missing => ?_, fun account found => ?_⟩
  · rw [here, (drawn key).1 missing]
    split <;> rfl
  · obtain ⟨amount, next, least, most, limited⟩ := (drawn key).2 account found
    rw [next] at here
    by_cases member : key ∈ keys
    · rw [if_pos member] at here
      obtain ⟨more, bounded⟩ := inside key member _ next
      rw [kind.held_withHeld] at more bounded
      rw [kind.limit_withHeld] at bounded
      refine ⟨change amount, ?_, ?_, ?_, fun _ => bounded⟩
      · rw [here, Option.map_some, changed, kind.held_withHeld, kind.withHeld_withHeld]
      · dsimp only
        rw [if_pos member]
        push_cast
        omega
      · exact Int.le_trans bounded (Int.le_max_right ..)
    · rw [if_neg member] at here
      dsimp only
      rw [if_neg member]
      exact ⟨amount, here, least, most, limited⟩

theorem Drawn.returned (drawn : Drawn kind accounts later taken)
    (adjusted : Adjusted kind later last keys change)
    (inside : ∀ key ∈ keys, ∀ account, later.lookup key = some account →
      kind.held account ≤ change (kind.held account) ∧
        change (kind.held account) ≤ kind.limit account) : Drawn kind accounts last taken := by
  have moved : Drawn kind accounts last fun key => taken key + if key ∈ keys then 0 else 0 := by
    refine drawn.adjusted adjusted fun key member account found => ?_
    obtain ⟨more, bounded⟩ := inside key member account found
    exact ⟨by omega, bounded⟩
  refine moved.congr fun key => ?_
  rw [ite_self, Nat.add_zero]

end Ledger
