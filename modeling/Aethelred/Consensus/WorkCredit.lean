import Aethelred.Consensus.Election

/- The useful work of one validator. The test for dominance is made before each report: a first
report has all uwu in its category, and every later one is refused. -/
namespace Consensus.PoUWElection

open Go Attempt List
open Vm (MAX_U64)

structure WorkReport where
  uwu : Nat
  category : UtilityCategory
  method : VerificationMethod := .Hybrid
  complexity : Nat := 0

section Statements

variable (floats : Floats) (address : Address) (election : PoUWElection) (reports : List WorkReport)

def reportAll : Call Unit :=
  forM reports fun report => recordUsefulWork floats address report.uwu report.category
    report.method report.complexity

/-- All reports are accepted and their work is added up. -/
def Credited : Prop :=
  (reportAll floats address reports election).1 = .ok () ∧
    ((reportAll floats address reports election).2.scoreEntry address).totalUwu =
      min (reports.map WorkReport.uwu).sum MAX_U64

/-- No category has more than 95% of the work, and at most 90% of the jobs were executed again. -/
def Mixed : Prop :=
  (∀ category, 100 * ((reports.filter (·.category = category)).map WorkReport.uwu).sum ≤
      95 * (reports.map WorkReport.uwu).sum) ∧
    10 * (reports.countP (·.method = .ReExecution)) ≤ 9 * reports.length

end Statements

variable {floats : Floats} {address : Address} {election : PoUWElection} {report : WorkReport}

theorem not_isSuspicious_default : UsefulWorkScore.isSuspicious floats {} = false := rfl

/-- The first report alone makes its validator suspicious. -/
theorem isSuspicious_first (whole : ∀ uwu, 0 < uwu → floats.dominates uwu uwu = true)
    (positive : 0 < report.uwu) (fits : report.uwu ≤ MAX_U64) (epoch : Nat) :
    (UsefulWorkScore.addUwu {} report.uwu report.category report.method report.complexity
      epoch).isSuspicious floats = true := by
  have counted : Vm.addU64 0 report.uwu = report.uwu := by
    unfold Vm.addU64 MAX_U64 at *
    omega
  have entries : UsefulWorkScore.bump (∅ : Map UtilityCategory Nat) report.category report.uwu =
      (∅ : Map UtilityCategory Nat).insert report.category report.uwu := by
    rw [UsefulWorkScore.bump, Map.get_empty, counted]
  have total : UsefulWorkScore.values
      ((∅ : Map UtilityCategory Nat).insert report.category report.uwu) = report.uwu := by
    have sum := Map.sum_insert (∅ : Map UtilityCategory Nat) report.category report.uwu id
    rw [AList.lookup_empty, Map.sum_empty] at sum
    unfold MAX_U64 at fits
    rw [UsefulWorkScore.values, show Map.sum _ id = report.uwu by simpa using sum]
    exact Nat.mod_eq_of_lt (by omega)
  have dominates : ((∅ : Map UtilityCategory Nat).insert report.category report.uwu).keys.any
      (fun category => floats.dominates
        (Map.get ((∅ : Map UtilityCategory Nat).insert report.category report.uwu) category 0)
        report.uwu) = true := by
    refine any_eq_true.mpr ⟨report.category, ?_, ?_⟩
    · exact AList.mem_keys.mpr (AList.mem_insert _ |>.mpr (.inl rfl))
    · rw [Map.get_insert_self]
      exact whole _ positive
  simp only [UsefulWorkScore.isSuspicious, UsefulWorkScore.addUwu, entries, total, dominates,
    decide_eq_true positive, Bool.and_true, Bool.or_true, Bool.true_or]

theorem WorkReport.recorded (report : WorkReport) (floats : Floats) {info : ValidatorInfo}
    (registered : election.validators.lookup address = some info)
    (blank : election.scoreEntry address = {}) :
    ∃ after, recordUsefulWork floats address report.uwu report.category report.method
        report.complexity election = (.ok (), after) ∧
      after.scoreEntry address = UsefulWorkScore.addUwu {} report.uwu report.category report.method
        report.complexity election.currentEpoch := by
  have trusted : (election.scoreEntry address).isSuspicious floats = false := by
    rw [blank]
    exact not_isSuspicious_default
  have present : (election.worked address report.uwu report.category report.method
      report.complexity).validators.lookup address = some info := registered
  rw [recordUsefulWork_trusted _ _ _ _ _ trusted, bind_of_ok (updateWeightedStake_present present)]
  refine ⟨_, rfl, ?_⟩
  rw [← blank]
  exact Map.get_insert_self ..

/-- The reports of a registered validator without a record are all credited exactly if there is no
second one, which work of several kinds never is. -/
theorem reports_credited_iff (whole : ∀ uwu, 0 < uwu → floats.dominates uwu uwu = true)
    {info : ValidatorInfo} (registered : election.validators.lookup address = some info)
    (blank : election.scoreEntry address = {}) (reports : List WorkReport)
    (positive : ∀ report ∈ reports, 0 < report.uwu ∧ report.uwu ≤ MAX_U64) :
    (Credited floats address election reports ↔ reports.length ≤ 1) ∧
      (Mixed reports → (reports.length ≤ 1 ↔ reports = [])) := by
  refine ⟨?_, fun mixed => ⟨fun single => ?_, fun none => none ▸ Nat.zero_le 1⟩⟩
  · cases reports with
    | nil =>
      refine iff_of_true ⟨rfl, ?_⟩ (Nat.zero_le 1)
      rw [show (reportAll floats address [] election).2 = election from rfl, blank]
      rfl
    | cons first rest =>
      obtain ⟨bound, later⟩ := forall_mem_cons.mp positive
      obtain ⟨after, done, entry⟩ := first.recorded floats registered blank
      have begins : reportAll floats address (first :: rest) election =
          reportAll floats address rest after := by
        rw [reportAll, forM_cons, bind_of_ok done]
        rfl
      cases rest with
      | nil =>
        refine iff_of_true ⟨?_, ?_⟩ (Nat.le_refl 1)
        · rw [begins]
          rfl
        · rw [begins, show (reportAll floats address [] after).2 = after from rfl, entry]
          simp [UsefulWorkScore.addUwu]
      | cons second others =>
        refine iff_of_false (fun credited => ?_) (by simp)
        have suspicious : ((after.scoreEntry address).isSuspicious floats) = true := by
          rw [entry]
          exact isSuspicious_first whole bound.1 bound.2 _
        have refused := credited.1
        rw [begins, reportAll, forM_cons, bind_apply, recordUsefulWork] at refused
        simp only [read_bind, modify_bind, ensure_bind, suspicious, Bool.true_eq_false,
          ↓reduceIte] at refused
        cases refused
  · cases reports with
    | nil => rfl
    | cons only others =>
      obtain rfl := length_eq_zero_iff.mp (Nat.le_zero.mp (Nat.le_of_succ_le_succ single))
      have most := mixed.1 only.category
      have some := (positive only (mem_singleton_self _)).1
      simp only [filter_cons, filter_nil, decide_true, if_true, map_cons,
        map_nil, sum_cons, sum_nil] at most
      omega

def freshElection : PoUWElection :=
  (registerValidator sampleFloats { address := 1, stake := 10 } (new { minStake := 1 })).2

theorem reports_credited_one :
    Credited sampleFloats 1 freshElection [⟨10000, .Financial, .Hybrid, 5000⟩] :=
  (reports_credited_iff
    (fun uwu positive => decide_eq_true (by omega)) rfl rfl _ (by decide)).1.mpr (Nat.le_refl 1)

/-- Half of the work in each of two categories. -/
theorem second_report_refused :
    Mixed [⟨100, .Financial, .Hybrid, 0⟩, ⟨100, .Medical, .Hybrid, 0⟩] ∧
      ¬Credited sampleFloats 1 freshElection
        [⟨100, .Financial, .Hybrid, 0⟩, ⟨100, .Medical, .Hybrid, 0⟩] := by
  refine ⟨⟨fun category => ?_, by decide⟩, fun credited => ?_⟩
  · cases category <;> decide
  · have refused := credited.1
    revert refused
    decide +kernel

end Consensus.PoUWElection
