import Mathlib.Data.UInt

/- Runs of a deterministic step function, and conditions every step of a run meets. -/
namespace Run

variable {σ ι : Type}

def exec (step : σ → ι → σ) (start : σ) (inputs : List ι) : σ := inputs.foldl step start

/-- Each input meets the condition in the state it is applied to. -/
def Along (step : σ → ι → σ) (good : σ → ι → Prop) : σ → List ι → Prop
  | _, [] => True
  | start, input :: rest => good start input ∧ Along step good (step start input) rest

instance decidableAlong (step : σ → ι → σ) (good : σ → ι → Prop)
    [∀ state input, Decidable (good state input)] :
    ∀ start inputs, Decidable (Along step good start inputs)
  | _, [] => .isTrue trivial
  | start, input :: rest =>
    have := decidableAlong step good (step start input) rest
    inferInstanceAs (Decidable (good start input ∧ _))

variable {step : σ → ι → σ} {good : σ → ι → Prop}

section

variable (start : σ)
include start

@[simp] theorem exec_nil : exec step start [] = start := rfl

@[simp] theorem exec_cons (input : ι) (rest : List ι) :
    exec step start (input :: rest) = exec step (step start input) rest := rfl

theorem exec_append (first second : List ι) :
    exec step start (first ++ second) = exec step (exec step start first) second :=
  List.foldl_append

theorem exec_concat (inputs : List ι) (last : ι) :
    exec step start (inputs ++ [last]) = step (exec step start inputs) last := by
  rw [exec_append, exec_cons, exec_nil]

@[simp] theorem along_nil : Along step good start [] := trivial

@[simp] theorem along_cons (input : ι) (rest : List ι) :
    Along step good start (input :: rest) ↔
      good start input ∧ Along step good (step start input) rest := Iff.rfl

theorem along_append (first second : List ι) :
    Along step good start (first ++ second) ↔
      Along step good start first ∧ Along step good (exec step start first) second := by
  induction first generalizing start with
  | nil => simp
  | cons input rest ih => simp only [List.cons_append, along_cons, exec_cons, ih, and_assoc]

end

variable {inputs : List ι}

theorem Along.and {other : σ → ι → Prop} {start : σ}
    (along : Along step good start inputs) (too : Along step other start inputs) :
    Along step (fun s i => good s i ∧ other s i) start inputs := by
  induction inputs generalizing start with
  | nil => trivial
  | cons input rest ih => exact ⟨⟨along.1, too.1⟩, ih along.2 too.2⟩

theorem invariant (inv : σ → Prop)
    (kept : ∀ state input, good state input → inv state → inv (step state input))
    {start : σ} (initial : inv start)
    (along : Along step good start inputs) : inv (exec step start inputs) := by
  induction inputs generalizing start with
  | nil => exact initial
  | cons input rest ih => exact ih (kept _ _ along.1 initial) along.2

theorem invariant_of_step (inv : σ → Prop) (kept : ∀ state input, inv state → inv (step state input))
    {start : σ} (inputs : List ι) (initial : inv start) : inv (exec step start inputs) := by
  induction inputs generalizing start with
  | nil => exact initial
  | cons input rest ih => exact ih (kept _ _ initial)

/-- A property holds in every state of a run exactly if every step is good, where good steps keep an
invariant that gives the property, and only good steps lead from it to the property. The steps may
all be known to be fair. -/
theorem forall_prefix_iff_of_fair {fair : σ → ι → Prop} {inv property : σ → Prop}
    (kept : ∀ state input, fair state input → good state input → inv state →
      inv (step state input)) (gives : ∀ state, inv state → property state)
    (needs : ∀ state input, inv state → property (step state input) → good state input) {start : σ}
    (initial : inv start) (inputs : List ι) (along : Along step fair start inputs) :
    (∀ first, first <+: inputs → property (exec step start first)) ↔
      Along step good start inputs := by
  induction inputs generalizing start with
  | nil =>
    refine ⟨fun _ => trivial, fun _ first begins => ?_⟩
    rw [List.prefix_nil.mp begins]
    exact gives start initial
  | cons input rest ih =>
    constructor
    · intro holds
      have good := needs start input initial (holds [input] ⟨rest, rfl⟩)
      refine ⟨good, (ih (kept start input along.1 good initial) along.2).mp
        fun first begins => ?_⟩
      exact holds (input :: first) (List.cons_prefix_cons.mpr ⟨rfl, begins⟩)
    · intro good first begins
      cases first with
      | nil => exact gives start initial
      | cons head tail =>
        obtain ⟨rfl, onward⟩ := List.cons_prefix_cons.mp begins
        exact (ih (kept start head along.1 good.1 initial) along.2).mpr good.2 tail onward

theorem along_true (start : σ) (inputs : List ι) : Along step (fun _ _ => True) start inputs := by
  induction inputs generalizing start with
  | nil => trivial
  | cons input rest ih => exact ⟨trivial, ih (step start input)⟩

theorem forall_prefix_iff {inv property : σ → Prop}
    (kept : ∀ state input, good state input → inv state → inv (step state input))
    (gives : ∀ state, inv state → property state)
    (needs : ∀ state input, inv state → property (step state input) → good state input)
    {start : σ} (initial : inv start) (inputs : List ι) :
    (∀ first, first <+: inputs → property (exec step start first)) ↔
      Along step good start inputs :=
  forall_prefix_iff_of_fair (fun state input _ => kept state input) gives needs initial inputs
    (along_true start inputs)

def total (step : σ → ι → σ) (measure : σ → ι → Nat) : σ → List ι → Nat
  | _, [] => 0
  | start, input :: rest => measure start input + total step measure (step start input) rest

theorem Along.of_invariant {other : σ → ι → Prop} (inv : σ → Prop)
    (kept : ∀ state input, good state input → inv state → inv (step state input))
    (implies : ∀ state input, inv state → good state input → other state input)
    {start : σ} (initial : inv start) (along : Along step good start inputs) :
    Along step other start inputs := by
  induction inputs generalizing start with
  | nil => trivial
  | cons input rest ih =>
    exact ⟨implies _ _ initial along.1, ih (kept _ _ along.1 initial) along.2⟩

end Run

/- Relations between an earlier and a later state of a run. -/
namespace Run

variable {σ ι : Type} {step : σ → ι → σ} {good fair : σ → ι → Prop} {inv : σ → Prop}
  {R : σ → σ → Prop} {start : σ}

/-- Every state of the run is related to all that follow it. -/
def Lasting (step : σ → ι → σ) (R : σ → σ → Prop) (start : σ) (inputs : List ι) : Prop :=
  ∀ first later, first ++ later <+: inputs →
    R (exec step start first) (exec step start (first ++ later))

theorem Along.before {first inputs : List ι} (along : Along step good start inputs)
    (begins : first <+: inputs) : Along step good start first := by
  obtain ⟨rest, rfl⟩ := begins
  exact ((along_append start first rest).mp along).1

theorem along_iff_of_fair {other : σ → ι → Prop}
    (agree : ∀ state input, inv state → fair state input → (other state input ↔ good state input))
    (kept : ∀ state input, inv state → fair state input → good state input →
      inv (step state input))
    {inputs : List ι} (initial : inv start) (fairly : Along step fair start inputs) :
    Along step other start inputs ↔ Along step good start inputs := by
  induction inputs generalizing start with
  | nil => exact Iff.rfl
  | cons input rest ih =>
    rw [along_cons, along_cons, agree start input initial fairly.1]
    apply and_congr_right
    intro first
    exact ih (kept start input initial fairly.1 first) fairly.2

section Moves

variable (kept : ∀ state input, inv state → fair state input → good state input →
    inv (step state input))
  (refl : ∀ state, R state state) (trans : ∀ {a b c}, R a b → R b c → R a c)
  (moves : ∀ state input, inv state → fair state input → good state input →
    R state (step state input))

include kept refl trans moves in
theorem exec_moves {inputs : List ι} (initial : inv start) (fairly : Along step fair start inputs)
    (along : Along step good start inputs) : R start (exec step start inputs) := by
  induction inputs generalizing start with
  | nil => exact refl start
  | cons input rest ih =>
    apply trans (moves start input initial fairly.1 along.1)
    exact ih (kept start input initial fairly.1 along.1) fairly.2 along.2

include kept refl trans moves in
theorem lasting_of_along {inputs : List ι} (initial : inv start)
    (fairly : Along step fair start inputs) (along : Along step good start inputs) :
    Lasting step R start inputs := by
  intro first later begins
  obtain ⟨early, late⟩ := (along_append start first later).mp (along.before begins)
  obtain ⟨early', late'⟩ := (along_append start first later).mp (fairly.before begins)
  have reached : inv (exec step start first) :=
    invariant inv (fun state input both holds => kept state input holds both.1 both.2) initial
      (early'.and early)
  rw [exec_append]
  exact exec_moves kept refl trans moves reached late' late

include kept refl trans moves in
theorem lasting_iff (needs : ∀ state input, inv state → fair state input →
      R state (step state input) → good state input)
    {inputs : List ι} (initial : inv start) (fairly : Along step fair start inputs) :
    Lasting step R start inputs ↔ Along step good start inputs := by
  refine ⟨fun lasting => ?_, lasting_of_along kept refl trans moves initial fairly⟩
  induction inputs generalizing start with
  | nil => trivial
  | cons input rest ih =>
    have first : good start input :=
      needs start input initial fairly.1 (lasting [] [input] ⟨rest, rfl⟩)
    refine ⟨first, ih (kept start input initial fairly.1 first) fairly.2 ?_⟩
    intro early late begins
    exact lasting (input :: early) late (List.cons_prefix_cons.mpr ⟨rfl, begins⟩)

theorem lasting_iff_of_step (refl : ∀ state, R state state)
    (trans : ∀ {a b c}, R a b → R b c → R a c)
    (one : ∀ state input, R state (step state input) ↔ good state input) (inputs : List ι) :
    Lasting step R start inputs ↔ Along step good start inputs :=
  @lasting_iff σ ι step good (fun _ _ => True) (fun _ => True) R start (fun _ _ _ _ _ => trivial)
    refl trans (fun state input _ _ => (one state input).mpr)
    (fun state input _ _ => (one state input).mp) inputs trivial (along_true start inputs)

end Moves

end Run
