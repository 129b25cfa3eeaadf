import Mathlib.Data.UInt

/-- A store that records are taken into, and what is announced of each. -/
structure Intake (σ ι R E : Type) where
  key : R → ι
  has : σ → ι → Bool
  store : σ → R → σ
  finalized : R → E
  seen : R → E

/- Scanning lists of records: a record already stored is passed over, a final one is announced as
such and stored, and every other one is announced as seen only. -/
namespace Intake

open List

variable {σ ι R E : Type}

def scan (intake : Intake σ ι R E) (final : R → Bool) : σ → List R → σ × List E
  | s, [] => (s, [])
  | s, r :: rest =>
    if intake.has s (intake.key r) then intake.scan final s rest
    else if final r then
      let (t, events) := intake.scan final (intake.store s r) rest
      (t, intake.finalized r :: intake.seen r :: events)
    else
      let (t, events) := intake.scan final s rest
      (t, intake.seen r :: events)

/-- A scan announces only records it was given. -/
theorem mem_scan {intake : Intake σ ι R E} {final : R → Bool} {s : σ} {records : List R} {e : E}
    (announced : e ∈ (intake.scan final s records).2) :
    ∃ r ∈ records, (e = intake.finalized r ∧ final r = true) ∨ e = intake.seen r := by
  induction records generalizing s with
  | nil => simp [scan] at announced
  | cons first rest ih =>
    have later : ∀ {t : σ}, e ∈ (intake.scan final t rest).2 → ∃ r ∈ first :: rest,
        (e = intake.finalized r ∧ final r = true) ∨ e = intake.seen r := by
      intro t member
      obtain ⟨r, member, either⟩ := ih member
      exact ⟨r, mem_cons_of_mem _ member, either⟩
    unfold scan at announced
    split at announced
    · exact later announced
    · split at announced
      next finality =>
        rcases mem_cons.mp announced with rfl | announced
        · exact ⟨first, mem_cons_self .., .inl ⟨rfl, finality⟩⟩
        · rcases mem_cons.mp announced with rfl | announced
          · exact ⟨first, mem_cons_self .., .inr rfl⟩
          · exact later announced
      next =>
        rcases mem_cons.mp announced with rfl | announced
        · exact ⟨first, mem_cons_self .., .inr rfl⟩
        · exact later announced

variable [DecidableEq ι] [DecidableEq E]

/-- Storing adds the record's key and nothing else, and announcements tell records apart. -/
structure Lawful (intake : Intake σ ι R E) : Prop where
  has_store : ∀ s r k, intake.has (intake.store s r) k = (decide (k = intake.key r) || intake.has s k)
  finalized_key : ∀ r r', intake.finalized r = intake.finalized r' → intake.key r = intake.key r'
  seen_key : ∀ r r', intake.seen r = intake.seen r' → intake.key r = intake.key r'
  seen_ne : ∀ r r', intake.seen r ≠ intake.finalized r'

variable {intake : Intake σ ι R E} {final : R → Bool} {s : σ} {records found : List R}

/-- A scan takes in every record and announces each new one once. -/
theorem Lawful.scan_spec (lawful : intake.Lawful) (distinct : (records.map intake.key).Nodup)
    (allFinal : ∀ r ∈ records, intake.has s (intake.key r) = false → final r = true) (r : R) :
    intake.has (intake.scan final s records).1 (intake.key r) =
        (decide (intake.key r ∈ records.map intake.key) || intake.has s (intake.key r)) ∧
      (intake.has s (intake.key r) = true →
        (intake.scan final s records).2.count (intake.finalized r) = 0) ∧
      (intake.key r ∉ records.map intake.key →
        (intake.scan final s records).2.count (intake.finalized r) = 0) ∧
      (r ∈ records → intake.has s (intake.key r) = false →
        (intake.scan final s records).2.count (intake.finalized r) = 1) := by
  induction records generalizing s with
  | nil => simp [scan]
  | cons first rest ih =>
    obtain ⟨fresh, distinct⟩ := nodup_cons.mp distinct
    unfold scan
    cases stored : intake.has s (intake.key first) with
    | true =>
      obtain ⟨has, held, absent, once⟩ := ih distinct fun other member =>
        allFinal other (mem_cons_of_mem _ member)
      simp only [↓reduceIte]
      refine ⟨?_, held, fun outside => absent ?_, ?_⟩
      · rw [has]
        rcases Decidable.em (intake.key r = intake.key first) with same | differ
        · simp [same, stored]
        · simp [differ]
      · exact fun inside => outside (mem_cons_of_mem _ inside)
      · intro member unstored
        rcases mem_cons.mp member with rfl | later
        · rw [stored] at unstored
          contradiction
        · exact once later unstored
    | false =>
      have finality := allFinal first (mem_cons_self ..) stored
      have others : ∀ other ∈ rest,
          intake.has (intake.store s first) (intake.key other) = false → final other = true := by
        intro other member unstored
        rw [lawful.has_store, Bool.or_eq_false_iff] at unstored
        exact allFinal other (mem_cons_of_mem _ member) unstored.2
      obtain ⟨has, held, absent, once⟩ := ih distinct others
      simp only [finality, ↓reduceIte, Bool.false_eq_true]
      have unseen := lawful.seen_ne first r
      refine ⟨?_, ?_, ?_, ?_⟩
      · rw [has, lawful.has_store]
        rcases Decidable.em (intake.key r = intake.key first) with same | differ
        · simp [same]
        · simp [differ]
      · intro already
        have differ : intake.key r ≠ intake.key first := by
          intro same
          rw [same, stored] at already
          contradiction
        have other : intake.finalized first ≠ intake.finalized r :=
          fun same => differ (lawful.finalized_key _ _ same).symm
        rw [count_cons_of_ne other, count_cons_of_ne unseen]
        apply held
        rw [lawful.has_store, already, Bool.or_true]
      · intro outside
        simp only [map_cons, mem_cons, not_or] at outside
        have other : intake.finalized first ≠ intake.finalized r :=
          fun same => outside.1 (lawful.finalized_key _ _ same).symm
        rw [count_cons_of_ne other, count_cons_of_ne unseen]
        exact absent outside.2
      · intro member unstored
        rcases mem_cons.mp member with rfl | later
        · rw [count_cons_self, count_cons_of_ne unseen, absent fresh]
        · have differ : intake.key r ≠ intake.key first :=
            fun same => fresh (same ▸ mem_map_of_mem later)
          have other : intake.finalized first ≠ intake.finalized r :=
            fun same => differ (lawful.finalized_key _ _ same).symm
          rw [count_cons_of_ne other, count_cons_of_ne unseen]
          apply once later
          rw [lawful.has_store, unstored, Bool.or_false]
          exact decide_eq_false differ

omit [DecidableEq ι] [DecidableEq E] in
theorem scan_fst_eq (passed : ∀ r ∈ found, intake.has s (intake.key r) = true ∨ final r = false) :
    (intake.scan final s found).1 = s := by
  induction found with
  | nil => rfl
  | cons first rest ih =>
    have later := ih fun r member => passed r (mem_cons_of_mem _ member)
    unfold scan
    rcases passed first (mem_cons_self ..) with stored | pending
    · rw [if_pos stored]
      exact later
    · split
      · exact later
      · rw [pending]
        exact later

/-- Of the records, those stored have been announced as final once and the others never; what has
been scanned or announced at all is stored. -/
structure Intact (intake : Intake σ ι R E) (records : List R) (s : σ) (emitted : List E)
    (scanned : R → Prop) : Prop where
  once : ∀ r ∈ records, intake.has s (intake.key r) = true →
    emitted.count (intake.finalized r) = 1
  never : ∀ r ∈ records, intake.has s (intake.key r) = false →
    emitted.count (intake.finalized r) = 0
  kept : ∀ r ∈ records, scanned r → intake.has s (intake.key r) = true
  announced : ∀ r, intake.seen r ∈ emitted → intake.has s (intake.key r) = true

variable {emitted others : List E} {scanned newly : R → Prop}

/-- A scan that covers all new records keeps the count. -/
theorem Intact.scan (intact : intake.Intact records s emitted scanned) (lawful : intake.Lawful)
    (unique : (records.map intake.key).Nodup) (part : found.Sublist records)
    (allFinal : ∀ r ∈ found, intake.has s (intake.key r) = false → final r = true)
    (covered : ∀ r ∈ records, newly r → r ∈ found ∨ intake.has s (intake.key r) = true)
    (quiet : ∀ r, others.count (intake.finalized r) = 0) (silent : ∀ r, intake.seen r ∉ others) :
    intake.Intact records (intake.scan final s found).1
      (emitted ++ ((intake.scan final s found).2 ++ others)) (fun r => scanned r ∨ newly r) := by
  have spec := fun r => lawful.scan_spec ((part.map intake.key).nodup unique) allFinal r
  have same : ∀ r ∈ records, intake.key r ∈ found.map intake.key → r ∈ found := by
    intro r member inside
    obtain ⟨other, listed, equal⟩ := mem_map.mp inside
    have identical := inj_on_of_nodup_map unique (part.subset listed) member equal
    rwa [identical] at listed
  constructor
  · intro r member stored
    obtain ⟨has, held, absent, once⟩ := spec r
    rw [count_append, count_append, quiet r]
    cases before : intake.has s (intake.key r) with
    | true => rw [intact.once r member before, held before]
    | false =>
      rw [has, before, Bool.or_false, decide_eq_true_iff] at stored
      rw [intact.never r member before, once (same r member stored) before]
  · intro r member unstored
    obtain ⟨has, held, absent, once⟩ := spec r
    rw [has, Bool.or_eq_false_iff, decide_eq_false_iff_not] at unstored
    rw [count_append, count_append, quiet r, intact.never r member unstored.2,
      absent unstored.1]
  · intro r member either
    obtain ⟨has, -⟩ := spec r
    rw [has, Bool.or_eq_true_iff, decide_eq_true_iff]
    rcases either with before | now
    · exact .inr (intact.kept r member before)
    · rcases covered r member now with listed | stored
      · exact .inl (mem_map_of_mem listed)
      · exact .inr stored
  · intro r seen
    obtain ⟨has, -⟩ := spec r
    rw [has, Bool.or_eq_true_iff, decide_eq_true_iff]
    rcases mem_append.mp seen with before | now
    · exact .inr (intact.announced r before)
    · rcases mem_append.mp now with now | elsewhere
      · obtain ⟨other, listed, ⟨final, -⟩ | equal⟩ := mem_scan now
        · exact absurd final (lawful.seen_ne r other)
        · exact .inl (lawful.seen_key r other equal ▸ mem_map_of_mem listed)
      · exact absurd elsewhere (silent r)

omit [DecidableEq ι] in
theorem Intact.congr (intact : intake.Intact records s emitted scanned) {t : σ}
    (same : ∀ k, intake.has t k = intake.has s k) : intake.Intact records t emitted scanned where
  once r member stored := intact.once r member (same _ ▸ stored)
  never r member unstored := intact.never r member (same _ ▸ unstored)
  kept r member before := (same _).trans (intact.kept r member before)
  announced r seen := (same _).trans (intact.announced r seen)

end Intake
