import Mathlib.Data.UInt

/- Instances that literals of words and tests of byte strings share. -/
instance neZero64 : NeZero (2 ^ 64 : Nat) := ⟨by decide⟩

instance neZero128 : NeZero (2 ^ 128 : Nat) := ⟨by decide⟩

instance neZero160 : NeZero (2 ^ 160 : Nat) := ⟨by decide⟩

instance neZero256 : NeZero (2 ^ 256 : Nat) := ⟨by decide⟩

instance lawfulBytes : LawfulBEq (List UInt8) := inferInstance

/- Taking apart computations that may fail. -/
namespace Except

variable {ε α β : Type}

/-- Whether an outcome is a given error can be decided without comparing results. -/
instance decidableEqError [DecidableEq ε] (outcome : Except ε α) (reason : ε) :
    Decidable (outcome = .error reason) :=
  match outcome with
  | .ok _ => .isFalse nofun
  | .error other => decidable_of_iff (other = reason) ⟨congrArg _, Except.error.inj⟩

variable {result : β} {next : α → Except ε β}

theorem bind_eq_ok {first : Except ε α} :
    (first >>= next) = .ok result ↔ ∃ value, first = .ok value ∧ next value = .ok result := by
  cases first with
  | error reason => simp [bind, Except.bind]
  | ok value => simp [bind, Except.bind]

theorem bind_unit_eq_ok {first : Except ε Unit} {next : Unit → Except ε β} :
    (first >>= next) = .ok result ↔ first = .ok () ∧ next () = .ok result := by
  cases first with
  | error reason => simp [bind, Except.bind]
  | ok value => simp [bind, Except.bind]

theorem bind_eq_error {first : Except ε α} {reason : ε} :
    (first >>= next) = .error reason ↔
      first = .error reason ∨ ∃ value, first = .ok value ∧ next value = .error reason := by
  cases first with
  | error other => simp [bind, Except.bind]
  | ok value => simp [bind, Except.bind]

variable {outcome : Except ε α}

theorem map_eq_ok {f : α → β} :
    outcome.map f = .ok result ↔ ∃ value, outcome = .ok value ∧ f value = result := by
  cases outcome with
  | error reason => simp [Except.map]
  | ok value => simp [Except.map]

theorem mapError_eq_ok {ε' : Type} {wrap : ε → ε'} {result : α}
    (done : outcome.mapError wrap = .ok result) : outcome = .ok result := by
  cases outcome with
  | error reason => contradiction
  | ok value => exact congrArg _ (Except.ok.inj done)

theorem mapError_eq_ok_iff {ε' : Type} {wrap : ε → ε'} {result : α} :
    outcome.mapError wrap = .ok result ↔ outcome = .ok result := by
  cases outcome with
  | error reason => simp [Except.mapError]
  | ok value => simp [Except.mapError]

theorem throw_bind {reason : ε} : ((throw reason : Except ε α) >>= next) = .error reason := rfl

theorem pure_eq_ok {value result : α} : (pure value : Except ε α) = .ok result ↔ value = result := by
  simp [pure, Except.pure]

theorem toOption_eq_some {value : α} : outcome.toOption = some value ↔ outcome = .ok value := by
  cases outcome <;> simp [Except.toOption]

theorem ite_error_eq_ok {condition : Prop} [Decidable condition] {reason : ε} {rest : Except ε β} :
    (if condition then .error reason else rest) = .ok result ↔ ¬condition ∧ rest = .ok result := by
  by_cases holds : condition <;> simp [holds]

theorem forM_eq_ok {items : List α} {check : α → Except ε Unit} :
    forM items check = .ok () ↔ ∀ item ∈ items, check item = .ok () := by
  induction items with
  | nil => simp [pure, Except.pure]
  | cons item rest ih =>
    rw [List.forM_cons, bind_eq_ok]
    simp only [ih, List.mem_cons, forall_eq_or_imp]
    constructor
    · rintro ⟨done, first, others⟩
      exact ⟨first, others⟩
    · rintro ⟨first, others⟩
      exact ⟨(), first, others⟩

end Except

namespace Option

variable {α β : Type}

theorem foldlM_total {items : List α} {step : β → α → Option β}
    (defined : ∀ state, ∀ item ∈ items, ∃ next, step state item = some next) (start : β) :
    ∃ result, items.foldlM step start = some result := by
  induction items generalizing start with
  | nil => exact ⟨start, rfl⟩
  | cons item rest ih =>
    obtain ⟨next, stepped⟩ := defined start item (List.mem_cons_self ..)
    obtain ⟨result, done⟩ := ih (fun state later member =>
      defined state later (List.mem_cons_of_mem _ member)) next
    refine ⟨result, ?_⟩
    rw [List.foldlM_cons, stepped]
    exact done

section

variable {items : List α} {yield : α → Option (List β)} {start result : List β}
  (done : items.foldlM (fun acc item => (yield item).map (acc ++ ·)) start = some result)
include done

theorem mem_foldlM_append {value : β} :
    value ∈ result ↔ value ∈ start ∨ ∃ item ∈ items, ∃ values, yield item = some values ∧
      value ∈ values := by
  induction items generalizing start with
  | nil =>
    cases done
    simp
  | cons item rest ih =>
    simp only [List.foldlM_cons, Option.bind_eq_bind, Option.bind_eq_some_iff,
      Option.map_eq_some_iff] at done
    obtain ⟨next, ⟨values, yielded, rfl⟩, done⟩ := done
    rw [ih done, List.mem_append]
    simp only [List.mem_cons, exists_eq_or_imp, yielded, Option.some.injEq, exists_eq_left']
    tauto

theorem foldlM_append_defined :
    ∀ item ∈ items, (yield item).isSome := by
  induction items generalizing start with
  | nil => simp
  | cons item rest ih =>
    simp only [List.foldlM_cons, Option.bind_eq_bind, Option.bind_eq_some_iff,
      Option.map_eq_some_iff] at done
    obtain ⟨next, ⟨values, yielded, rfl⟩, done⟩ := done
    exact List.forall_mem_cons.mpr ⟨by rw [yielded]; rfl, ih done⟩

end

end Option

/-- A call that may fail, and whose writes stay either way. -/
def Attempt (σ ε α : Type) : Type := σ → Except ε α × σ

/- Calls on a state that return a result or an error: how they follow one another, and what they
leave of the state. -/
namespace Attempt

variable {σ τ ε α β : Type}

instance : Monad (Attempt σ ε) where
  pure value := fun state => (.ok value, state)
  bind first next := fun state =>
    match first state with
    | (.ok value, state) => next value state
    | (.error reason, state) => (.error reason, state)

def fail (reason : ε) : Attempt σ ε α := fun state => (.error reason, state)

/-- Fails with `reason` unless the condition holds. -/
def ensure (condition : Prop) [Decidable condition] (reason : ε) : Attempt σ ε Unit :=
  if condition then pure () else fail reason

def read : Attempt σ ε σ := fun state => (.ok state, state)

def modify (change : σ → σ) : Attempt σ ε Unit := fun state => (.ok (), change state)

/-- `ok_or`. -/
def okOr (value : Option α) (reason : ε) : Attempt σ ε α :=
  match value with
  | some value => pure value
  | none => fail reason

def ofExcept : Except ε α → Attempt σ ε α
  | .ok value => pure value
  | .error reason => fail reason

def within (part : σ → τ) (put : σ → τ → σ) (call : Attempt τ ε α) : Attempt σ ε α := fun state =>
  ((call (part state)).1, put state (call (part state)).2)

section Application

variable {state : σ} {first : Attempt σ ε α} {next : α → Attempt σ ε β}

theorem pure_apply (value : α) : (pure value : Attempt σ ε α) state = (.ok value, state) := rfl

theorem read_bind (rest : σ → Attempt σ ε β) : (read >>= rest) state = rest state state := rfl

theorem modify_apply (change : σ → σ) :
    (modify change : Attempt σ ε Unit) state = (.ok (), change state) := rfl

theorem modify_bind (change : σ → σ) (rest : Unit → Attempt σ ε β) :
    (modify change >>= rest) state = rest () (change state) := rfl

theorem bind_apply :
    (first >>= next) state =
      match first state with
      | (.ok value, state) => next value state
      | (.error reason, state) => (.error reason, state) := rfl

theorem bind_of_ok {value : α} {after : σ} (done : first state = (.ok value, after)) :
    (first >>= next) state = next value after := by
  rw [bind_apply, done]

theorem bind_of_error {reason : ε} {after : σ} (failed : first state = (.error reason, after)) :
    (first >>= next) state = (.error reason, after) := by
  rw [bind_apply, failed]

theorem of_bind_ok {value : β} {after : σ} (done : (first >>= next) state = (.ok value, after)) :
    ∃ result between, first state = (.ok result, between) ∧
      next result between = (.ok value, after) := by
  rw [bind_apply] at done
  cases outcome : first state with
  | mk result between =>
    rw [outcome] at done
    cases result with
    | error reason => cases done
    | ok result => exact ⟨result, between, rfl, done⟩

theorem ensure_bind (condition : Prop) [Decidable condition] (reason : ε)
    (rest : Unit → Attempt σ ε β) :
    (ensure condition reason >>= rest) state =
      if condition then rest () state else (.error reason, state) := by
  unfold ensure
  by_cases holds : condition
  · rw [if_pos holds, if_pos holds]
    rfl
  · rw [if_neg holds, if_neg holds]
    rfl

theorem okOr_bind (value : Option α) (reason : ε) (rest : α → Attempt σ ε β) :
    (okOr value reason >>= rest) state =
      match value with
      | some value => rest value state
      | none => (.error reason, state) := by
  cases value <;> rfl

theorem ofExcept_bind (outcome : Except ε α) (rest : α → Attempt σ ε β) :
    (ofExcept outcome >>= rest) state =
      match outcome with
      | .ok value => rest value state
      | .error reason => (.error reason, state) := by
  cases outcome <;> rfl

theorem map_apply (f : α → β) : (f <$> first) state = ((first state).1.map f, (first state).2) := by
  change (match first state with
    | (.ok value, after) => _
    | (.error reason, after) => _) = _
  cases first state with
  | mk outcome after => cases outcome <;> rfl

end Application

/-- Whatever the outcome, the state moves along the relation. -/
def Moves (R : σ → σ → Prop) (call : Attempt σ ε α) : Prop := ∀ state, R state (call state).2

section Moves

variable {R : σ → σ → Prop} {call : Attempt σ ε α} {next : α → Attempt σ ε β}

theorem Moves.of_eq (moves : Moves R call) {state after : σ} {outcome : Except ε α}
    (ends : call state = (outcome, after)) : R state after := by
  have moved := moves state
  rwa [ends] at moved

theorem Moves.bind (trans : ∀ {a b c}, R a b → R b c → R a c) (first : Moves R call)
    (second : ∀ value, Moves R (next value)) : Moves R (call >>= next) := by
  intro state
  rw [bind_apply]
  have moved := first state
  revert moved
  cases call state with
  | mk outcome after =>
    intro moved
    cases outcome with
    | ok value => exact trans moved (second value after)
    | error reason => exact moved

variable (refl : ∀ state, R state state)

include refl in
theorem moves_pure (value : α) : Moves R (pure value : Attempt σ ε α) := refl

include refl in
theorem moves_fail (reason : ε) : Moves R (fail reason : Attempt σ ε α) := refl

include refl in
theorem moves_read : Moves R (read : Attempt σ ε σ) := refl

include refl in
theorem moves_ensure (condition : Prop) [Decidable condition] (reason : ε) :
    Moves R (ensure condition reason : Attempt σ ε Unit) := by
  unfold ensure
  split
  · exact refl
  · exact refl

include refl in
theorem moves_ofExcept (result : Except ε α) : Moves R (ofExcept result : Attempt σ ε α) := by
  cases result with
  | error reason => exact refl
  | ok value => exact refl

include refl in
theorem moves_okOr (value : Option α) (reason : ε) : Moves R (okOr value reason) := by
  cases value with
  | none => exact refl
  | some value => exact refl

variable {state : σ} (stays : R state state)

include stays

theorem moved_ensure {condition : Prop} [Decidable condition] {reason : ε}
    {rest : Unit → Attempt σ ε β} (moved : condition → R state (rest () state).2) :
    R state ((ensure condition reason >>= rest) state).2 := by
  rw [ensure_bind]
  split
  next holds => exact moved holds
  · exact stays

theorem moved_okOr {value : Option α} {reason : ε} {rest : α → Attempt σ ε β}
    (moved : ∀ found, value = some found → R state (rest found state).2) :
    R state ((okOr value reason >>= rest) state).2 := by
  rw [okOr_bind]
  cases value with
  | some found => exact moved found rfl
  | none => exact stays

theorem moved_ofExcept {outcome : Except ε α} {rest : α → Attempt σ ε β}
    (moved : ∀ value, outcome = .ok value → R state (rest value state).2) :
    R state ((ofExcept outcome >>= rest) state).2 := by
  rw [ofExcept_bind]
  cases outcome with
  | ok value => exact moved value rfl
  | error reason => exact stays

end Moves

end Attempt
