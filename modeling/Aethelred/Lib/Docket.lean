import Mathlib.Data.UInt

/-- Records with a status each, and proposals about them. -/
structure Docket (ι R S P : Type) where
  record : ι → Option R
  status : ι → Option S
  proposal : ι → Option P

/- Which writes keep the proposals of a docket tied to their records, and which ones leave closed
records and settled proposals alone. -/
namespace Docket

open Function Option

variable {ι R S P : Type}

/-- How records and proposals are named, and when they are closed. -/
structure Vocabulary (ι R S P : Type) where
  keyOf : R → ι
  nameOf : P → ι
  subject : P → R
  done : S
  final : P → Prop
  carriedOut : P → Prop
  final_of_carriedOut : ∀ p, carriedOut p → final p
  /-- Only records that are there can be closed. -/
  strict : Prop

variable {v : Vocabulary ι R S P} {tame : Prop} {d e f : Docket ι R S P}

/-- What a later docket keeps of an earlier one. -/
structure Kept (v : Vocabulary ι R S P) (d e : Docket ι R S P) : Prop where
  status : ∀ id, d.status id = some v.done → e.status id = some v.done
  final : ∀ id p, d.proposal id = some p → v.final p → ∃ q, e.proposal id = some q ∧ v.final q
  carriedOut : ∀ id p, d.proposal id = some p → v.carriedOut p →
    ∃ q, e.proposal id = some q ∧ v.carriedOut q ∧ v.subject q = v.subject p

theorem Kept.refl (d : Docket ι R S P) : Kept v d d where
  status _ closed := closed
  final _ p found final := ⟨p, found, final⟩
  carriedOut _ p found carried := ⟨p, found, carried, rfl⟩

theorem Kept.trans (first : Kept v d e) (second : Kept v e f) : Kept v d f where
  status id closed := second.status id (first.status id closed)
  final id p found final := by
    obtain ⟨q, found, final⟩ := first.final id p found final
    exact second.final id q found final
  carriedOut id p found carried := by
    obtain ⟨q, found, carried, same⟩ := first.carriedOut id p found carried
    obtain ⟨r, found, carried, again⟩ := second.carriedOut id q found carried
    exact ⟨r, found, carried, again.trans same⟩

/-- Records and proposals stand under their own names, and a proposal's subject is on record. -/
structure Linked (v : Vocabulary ι R S P) (d : Docket ι R S P) : Prop where
  keyed : ∀ id r, d.record id = some r → v.keyOf r = id
  named : ∀ id p, d.proposal id = some p → v.nameOf p = id
  onRecord : ∀ id p, d.proposal id = some p → d.record (v.keyOf (v.subject p)) =
    some (v.subject p)
  known : v.strict → ∀ id, d.status id = some v.done → d.record id ≠ none

theorem Linked.of_empty (records : ∀ id, d.record id = none) (statuses : ∀ id, d.status id = none)
    (proposals : ∀ id, d.proposal id = none) : Linked v d where
  keyed id r found := by simp [records id] at found
  named id p found := by simp [proposals id] at found
  onRecord id p found := by simp [proposals id] at found
  known _ id closed := by simp [statuses id] at closed

/-- The record of a proposal that has been carried out is closed. -/
def Closed (v : Vocabulary ι R S P) (d : Docket ι R S P) : Prop :=
  ∀ id p, d.proposal id = some p → v.carriedOut p → d.status (v.keyOf (v.subject p)) = some v.done

theorem Closed.of_empty (proposals : ∀ id, d.proposal id = none) : Closed v d := by
  intro id p found
  rw [proposals id] at found
  contradiction

section Writes

variable [DecidableEq ι]

/-- One write. A tame one leaves closed records closed and settled proposals settled. -/
inductive Write (v : Vocabulary ι R S P) (tame : Prop) (d : Docket ι R S P) :
    Docket ι R S P → Prop where
  | file (r : R) (st : S) (fresh : d.record (v.keyOf r) = none)
      (spared : tame → d.status (v.keyOf r) = some v.done → st = v.done) :
      Write v tame d ⟨update d.record (v.keyOf r) (some r),
        update d.status (v.keyOf r) (some st), d.proposal⟩
  | mark (id : ι) (st : S) (known : v.strict → st = v.done → d.record id ≠ none)
      (spared : tame → d.status id = some v.done → st = v.done) :
      Write v tame d ⟨d.record, update d.status id (some st), d.proposal⟩
  | lodge (p : P) (found : d.record (v.keyOf (v.subject p)) = some (v.subject p))
      (pending : ¬v.carriedOut p)
      (beyond : tame → ∀ old, d.proposal (v.nameOf p) = some old → ¬v.final old) :
      Write v tame d ⟨d.record, d.status, update d.proposal (v.nameOf p) (some p)⟩
  | advance (p q : P) (found : d.proposal (v.nameOf q) = some p)
      (same : v.subject q = v.subject p)
      (stays : tame → v.final p → v.final q) (kept : tame → v.carriedOut p → v.carriedOut q)
      (honest : v.carriedOut q → d.status (v.keyOf (v.subject q)) = some v.done) :
      Write v tame d ⟨d.record, d.status, update d.proposal (v.nameOf q) (some q)⟩

abbrev Writes (v : Vocabulary ι R S P) (tame : Prop) :
    Docket ι R S P → Docket ι R S P → Prop :=
  Relation.ReflTransGen (Write v tame)

theorem update_eq_some {α : Type} {table : ι → Option α} {key id : ι} {written value : α}
    (found : update table key (some written) id = some value) :
    (id = key ∧ written = value) ∨ (id ≠ key ∧ table id = some value) := by
  rcases Decidable.em (id = key) with rfl | differ
  · rw [update_self] at found
    exact .inl ⟨rfl, some.inj found⟩
  · rw [update_of_ne differ] at found
    exact .inr ⟨differ, found⟩

/-- A write keeps the links. -/
theorem Linked.write (linked : Linked v d) (write : Write v tame d e) : Linked v e := by
  cases write with
  | file r st fresh spared =>
    constructor
    · intro id other found
      rcases update_eq_some found with ⟨rfl, rfl⟩ | ⟨-, found⟩
      · rfl
      · exact linked.keyed id other found
    · exact linked.named
    · intro id p found
      have stored := linked.onRecord id p found
      have differ : v.keyOf (v.subject p) ≠ v.keyOf r := by
        intro same
        rw [same, fresh] at stored
        contradiction
      simp only [update_of_ne differ]
      exact stored
    · intro strict id closed
      rcases update_eq_some closed with ⟨rfl, -⟩ | ⟨differ, closed⟩
      · simp only [update_self]
        exact some_ne_none r
      · simp only [update_of_ne differ]
        exact linked.known strict id closed
  | mark id st known spared =>
    refine ⟨linked.keyed, linked.named, linked.onRecord, ?_⟩
    intro strict other closed
    rcases update_eq_some closed with ⟨rfl, same⟩ | ⟨-, closed⟩
    · exact known strict same
    · exact linked.known strict other closed
  | lodge p found pending beyond =>
    refine ⟨linked.keyed, ?_, ?_, linked.known⟩
    · intro id other lodged
      rcases update_eq_some lodged with ⟨rfl, rfl⟩ | ⟨-, lodged⟩
      · rfl
      · exact linked.named id other lodged
    · intro id other lodged
      rcases update_eq_some lodged with ⟨rfl, rfl⟩ | ⟨-, lodged⟩
      · exact found
      · exact linked.onRecord id other lodged
  | advance p q found same stays kept honest =>
    refine ⟨linked.keyed, ?_, ?_, linked.known⟩
    · intro id other lodged
      rcases update_eq_some lodged with ⟨rfl, rfl⟩ | ⟨-, lodged⟩
      · rfl
      · exact linked.named id other lodged
    · intro id other lodged
      rcases update_eq_some lodged with ⟨rfl, rfl⟩ | ⟨-, lodged⟩
      · rw [same]
        exact linked.onRecord _ p found
      · exact linked.onRecord id other lodged

theorem Linked.writes (linked : Linked v d) (writes : Writes v tame d e) : Linked v e := by
  induction writes with
  | refl => exact linked
  | tail _ last ih => exact ih.write last

theorem Linked.settle (linked : Linked v d) {p q : P} (found : d.proposal (v.nameOf q) = some p)
    (same : v.subject q = v.subject p) (carried : v.carriedOut q) :
    Writes v tame d ⟨d.record, update d.status (v.keyOf (v.subject q)) (some v.done),
      update d.proposal (v.nameOf q) (some q)⟩ := by
  have stored := linked.onRecord _ p found
  have present : d.record (v.keyOf (v.subject q)) ≠ none := by
    rw [same, stored]
    exact some_ne_none _
  refine (Relation.ReflTransGen.single (.mark _ v.done (fun _ _ => present) fun _ _ => rfl)).tail ?_
  exact .advance p q found same (fun _ _ => v.final_of_carriedOut q carried) (fun _ _ => carried)
    fun _ => update_self ..

theorem status_update {id other : ι} {st : S}
    (spared : d.status id = some v.done → st = v.done) (closed : d.status other = some v.done) :
    update d.status id (some st) other = some v.done := by
  rcases Decidable.em (other = id) with rfl | differ
  · rw [update_self, spared closed]
  · rw [update_of_ne differ]
    exact closed

theorem Closed.write (closed : Closed v d) (write : Write v True d e) : Closed v e := by
  cases write with
  | file r st fresh spared =>
    exact fun id p found carried => status_update (spared trivial) (closed id p found carried)
  | mark id st known spared =>
    exact fun key p found carried => status_update (spared trivial) (closed key p found carried)
  | lodge p found pending beyond =>
    intro id other lodged carried
    rcases update_eq_some lodged with ⟨rfl, rfl⟩ | ⟨-, lodged⟩
    · exact absurd carried pending
    · exact closed id other lodged carried
  | advance p q found same stays kept honest =>
    intro id other lodged carried
    rcases update_eq_some lodged with ⟨rfl, rfl⟩ | ⟨-, lodged⟩
    · exact honest carried
    · exact closed id other lodged carried

/-- A write settles nothing anew. -/
theorem Kept.write (write : Write v True d e) : Kept v d e := by
  cases write with
  | file r st fresh spared =>
    exact ⟨fun id => status_update (spared trivial), (Kept.refl d).final,
      (Kept.refl d).carriedOut⟩
  | mark id st known spared =>
    exact ⟨fun id => status_update (spared trivial), (Kept.refl d).final,
      (Kept.refl d).carriedOut⟩
  | lodge p found pending beyond =>
    have differ : ∀ id other, d.proposal id = some other → v.final other → id ≠ v.nameOf p := by
      rintro id other lodged final rfl
      exact beyond trivial other lodged final
    refine ⟨fun _ closed => closed, ?_, ?_⟩
    · intro id other lodged final
      refine ⟨other, ?_, final⟩
      simp only [update_of_ne (differ id other lodged final)]
      exact lodged
    · intro id other lodged carried
      refine ⟨other, ?_, carried, rfl⟩
      have final := v.final_of_carriedOut other carried
      simp only [update_of_ne (differ id other lodged final)]
      exact lodged
  | advance p q found same stays kept honest =>
    refine ⟨fun _ closed => closed, ?_, ?_⟩
    · intro id other lodged final
      rcases Decidable.em (id = v.nameOf q) with rfl | differ
      · obtain rfl := some.inj (found.symm.trans lodged)
        exact ⟨q, update_self .., stays trivial final⟩
      · exact ⟨other, by simp only [update_of_ne differ, lodged], final⟩
    · intro id other lodged carried
      rcases Decidable.em (id = v.nameOf q) with rfl | differ
      · obtain rfl := some.inj (found.symm.trans lodged)
        exact ⟨q, update_self .., kept trivial carried, same⟩
      · exact ⟨other, by simp only [update_of_ne differ, lodged], carried, rfl⟩

theorem Closed.writes (closed : Closed v d) (writes : Writes v True d e) :
    Closed v e ∧ Kept v d e := by
  induction writes with
  | refl => exact ⟨closed, Kept.refl d⟩
  | tail _ last ih => exact ⟨ih.1.write last, ih.2.trans (Kept.write last)⟩

end Writes

end Docket
