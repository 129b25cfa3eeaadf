import Aethelred.Vm.Kernel
import Aethelred.Vm.StakingRun

/- How long a slashed staker stays in jail: the deadline is counted from block heights and compared
with block times. -/
namespace Vm.StakingManager

open Go Attempt Nat

theorem unstake_eq_jailed_iff {manager : StakingManager} {staker : Address} {info : StakeInfo}
    {amount : Nat} {ctx : BlockContext} (present : manager.stakers.lookup staker = some info) :
    (unstake staker amount ctx manager).1 = .error .SlashingInProgress ↔
      ctx.timestamp < info.jailedUntil := by
  constructor
  · intro refused
    by_contra free
    simp only [unstake, read_bind, okOr_bind, present, ensure_bind] at refused
    rw [if_pos (Nat.le_of_not_lt free)] at refused
    split at refused
    · split at refused
      · cases refused
      · cases refused
    · cases refused
  · intro jailed
    rw [Economy.unstake_jailed present jailed]

end Vm.StakingManager

namespace Vm.SystemKernel

open Go Attempt Economy StakingManager

variable {kernel : SystemKernel} {staker other : Address} {info : StakeInfo} {call : KernelCall}
  {offense : Offense}

def jailDuration (kernel : SystemKernel) (offense : Offense) : Nat :=
  if offense.rateBps kernel.config.slashing ≥ kernel.config.slashing.doubleSignBps then
    kernel.config.slashing.majorJailDuration
  else kernel.config.slashing.minorJailDuration

def deadline (kernel : SystemKernel) (offense : Offense) : Nat :=
  addU64 kernel.economy.staking.currentBlock (kernel.jailDuration offense)

/-- The offense is punished. -/
def Slashes (kernel : SystemKernel) (offense : Offense) (staker : Address) : Prop :=
  (slashFor offense staker kernel.economy).1.toOption.isSome

instance : Decidable (kernel.Slashes offense staker) := inferInstanceAs (Decidable (_ = true))

theorem record_of_slashes (slashes : kernel.Slashes offense staker) :
    ∃ info, (kernel.step (.slashFor offense staker)).record staker = some info ∧
      info.jailedUntil = kernel.deadline offense := by
  obtain ⟨reason, failed⟩ | ⟨info, bank, taken, rateBps, -, rfl, -, done⟩ :=
    slashFor_cases offense staker kernel.economy
  · unfold Slashes at slashes
    rw [failed] at slashes
    exact nomatch slashes
  · rw [step, done]
    exact ⟨_, AList.lookup_insert _, rfl⟩

theorem record_of_not_slashes (spared : kernel.Slashes offense staker → other ≠ staker) :
    (kernel.step (.slashFor offense staker)).record other = kernel.record other := by
  obtain ⟨reason, failed⟩ | ⟨info, bank, taken, rateBps, -, -, -, done⟩ :=
    slashFor_cases offense staker kernel.economy
  · rw [step, failed]
  · have slashes : kernel.Slashes offense staker := by
      unfold Slashes
      rw [done]
      rfl
    rw [step, done]
    exact AList.lookup_insert_ne (spared slashes)

/-- Blocks come in the order of their heights and times. -/
def Ordered (kernel : SystemKernel) : KernelCall → Prop
  | .beginBlock context => kernel.context.height ≤ context.height ∧ kernel.now ≤ context.timestamp
  | _ => True

instance : DecidablePred (Ordered kernel)
  | .beginBlock _ => inferInstanceAs (Decidable (_ ∧ _))
  | .endBlock _ | .execute _ | .slashFor .. | .elsewhere _ => .isTrue trivial

theorem now_step (ordered : kernel.Ordered call) : kernel.now ≤ (kernel.step call).now := by
  cases call with
  | beginBlock context => exact ordered.2
  | endBlock utilization => exact le_refl _
  | execute call =>
    cases call with
    | Stake staker amount role => rw [step, execute_stake]
    | Unstake staker amount => rw [step, execute_unstake]
    | WithdrawStake staker => rw [step, execute_withdrawStake]
  | slashFor offense staker => exact le_refl _
  | elsewhere bank => exact le_refl _

/-- Nothing but a slash moves the end of a sentence. -/
theorem jailedUntil_step (calm : ∀ offense staker, call ≠ .slashFor offense staker)
    (present : kernel.record staker = some info) (ahead : kernel.now < info.jailedUntil) :
    ∃ next, (kernel.step call).record staker = some next ∧
      next.jailedUntil = info.jailedUntil := by
  have writes := records_step kernel staker call
  generalize (kernel.step call).record staker = record at writes ⊢
  cases writes with
  | kept => exact ⟨info, present, rfl⟩
  | staked enough funded =>
    refine ⟨_, rfl, ?_⟩
    unfold opened
    rw [present]
    rfl
  | unstaked found enough complete =>
    obtain rfl := Option.some.inj (found.symm.trans present)
    exact ⟨_, rfl, rfl⟩
  | withdrawn found =>
    obtain rfl := Option.some.inj (found.symm.trans present)
    exact ⟨_, rfl, rfl⟩
  | slashed found done => exact absurd rfl (calm _ _)
  | unjailed =>
    rw [present]
    refine ⟨_, rfl, ?_⟩
    unfold unjail
    rw [if_neg fun ended => Nat.not_le_of_lt ahead ended.2.1]

/-- A slash of a staker, and the time until which it is to keep it in jail. -/
structure Sentence where
  staker : Address
  release : Nat
  deriving DecidableEq

/-- A kernel with the sentences passed so far. -/
structure Docket where
  kernel : SystemKernel
  sentences : List Sentence := []

namespace Docket

variable {docket : Docket}

def sentence (docket : Docket) (offense : Offense) (staker : Address) : Sentence :=
  ⟨staker, docket.kernel.now + docket.kernel.jailDuration offense⟩

def passed (docket : Docket) : KernelCall → List Sentence
  | .slashFor offense staker =>
    if docket.kernel.Slashes offense staker then [docket.sentence offense staker] else []
  | _ => []

def step (docket : Docket) (call : KernelCall) : Docket where
  kernel := docket.kernel.step call
  sentences := docket.sentences ++ docket.passed call

/-- Until each sentence is over, in this block and in whichever comes next, its staker is not active
and cannot unstake. -/
def Jailed (docket : Docket) : Prop :=
  ∀ sentence ∈ docket.sentences, ∀ ctx : BlockContext, docket.kernel.now ≤ ctx.timestamp →
    ctx.timestamp < sentence.release →
      ∃ info, docket.kernel.record sentence.staker = some info ∧
        info.isActive ctx.timestamp = false ∧
        ∀ amount, (unstake sentence.staker amount ctx docket.kernel.economy.staking).1 =
          .error .SlashingInProgress

/-- A slash that goes through does so with a deadline that is no earlier than the end of any
sentence of its staker still to serve, its own among them. -/
def Lasting (docket : Docket) : KernelCall → Prop
  | .slashFor offense staker => docket.kernel.Slashes offense staker →
      ∀ sentence ∈ docket.sentence offense staker :: docket.sentences, sentence.staker = staker →
        sentence.release ≤ docket.kernel.now ∨ sentence.release ≤ docket.kernel.deadline offense
  | _ => True

instance : DecidablePred (Lasting docket)
  | .slashFor .. => inferInstanceAs (Decidable (_ → ∀ sentence ∈ _ :: _, _ → _ ∨ _))
  | .beginBlock _ | .endBlock _ | .execute _ | .elsewhere _ => .isTrue trivial

/-- The deadlines of those in jail are no earlier than their sentences. -/
def Served (docket : Docket) : Prop :=
  ∀ sentence ∈ docket.sentences, docket.kernel.now < sentence.release →
    ∃ info, docket.kernel.record sentence.staker = some info ∧ sentence.release ≤ info.jailedUntil

theorem jailed_iff : docket.Jailed ↔ docket.Served := by
  constructor
  · intro jailed sentence member running
    have last : sentence.release - 1 < sentence.release := by omega
    have reached : docket.kernel.now ≤ sentence.release - 1 := by omega
    obtain ⟨info, present, -, refused⟩ :=
      jailed sentence member { timestamp := sentence.release - 1 } reached last
    refine ⟨info, present, ?_⟩
    have ahead := (unstake_eq_jailed_iff present).mp (refused 0)
    exact Nat.le_of_pred_lt ahead
  · intro served sentence member ctx reached running
    obtain ⟨info, present, ahead⟩ := served sentence member (lt_of_le_of_lt reached running)
    have jailed : ctx.timestamp < info.jailedUntil := lt_of_lt_of_le running ahead
    refine ⟨info, present, ?_, fun amount => (unstake_eq_jailed_iff present).mpr jailed⟩
    unfold StakeInfo.isActive
    rw [decide_eq_false (Nat.not_le_of_lt jailed), Bool.and_false]

theorem passed_of_calm (calm : ∀ offense staker, call ≠ .slashFor offense staker) :
    docket.passed call = [] := by
  cases call with
  | slashFor offense staker => exact absurd rfl (calm offense staker)
  | beginBlock context => rfl
  | endBlock utilization => rfl
  | execute call => rfl
  | elsewhere bank => rfl

theorem Served.calm (served : docket.Served)
    (calm : ∀ offense staker, call ≠ .slashFor offense staker)
    (ordered : docket.kernel.Ordered call) : (docket.step call).Served := by
  intro sentence member running
  have old : sentence ∈ docket.sentences := by
    rw [step, passed_of_calm calm, List.append_nil] at member
    exact member
  have later : docket.kernel.now < sentence.release :=
    lt_of_le_of_lt (now_step ordered) running
  obtain ⟨info, present, ahead⟩ := served sentence old later
  obtain ⟨next, written, same⟩ := jailedUntil_step calm present (lt_of_lt_of_le later ahead)
  rw [← same] at ahead
  exact ⟨next, written, ahead⟩

/-- A slash that is no shorter leaves every sentence served. -/
theorem Served.slash (served : docket.Served)
    (lasting : docket.Lasting (.slashFor offense staker)) :
    (docket.step (.slashFor offense staker)).Served := by
  intro sentence member running
  have still : docket.kernel.now < sentence.release := running
  by_cases own : docket.kernel.Slashes offense staker ∧ sentence.staker = staker
  · obtain ⟨slashes, rfl⟩ := own
    have known : sentence ∈ docket.sentence offense sentence.staker :: docket.sentences := by
      rw [step, passed, if_pos slashes] at member
      exact List.mem_append.mp member |>.elim (List.mem_cons_of_mem _) fun new =>
        List.mem_cons.mpr (.inl (List.mem_singleton.mp new))
    obtain ⟨info, written, same⟩ := record_of_slashes slashes
    refine ⟨info, written, ?_⟩
    rw [same]
    exact (lasting slashes sentence known rfl).resolve_left (Nat.not_le_of_lt still)
  · have old : sentence ∈ docket.sentences := by
      rw [step, passed] at member
      split at member
      next slashes =>
        obtain old | new := List.mem_append.mp member
        · exact old
        · obtain rfl := List.mem_singleton.mp new
          exact absurd ⟨slashes, rfl⟩ own
      · rw [List.append_nil] at member
        exact member
    obtain ⟨info, present, ahead⟩ := served sentence old still
    refine ⟨info, ?_, ahead⟩
    exact (record_of_not_slashes fun slashes same => own ⟨slashes, same⟩).trans present

theorem Served.step (served : docket.Served) (ordered : docket.kernel.Ordered call)
    (lasting : docket.Lasting call) : (docket.step call).Served := by
  cases call with
  | slashFor offense staker => exact served.slash lasting
  | beginBlock context => exact served.calm (fun _ _ => nofun) ordered
  | endBlock utilization => exact served.calm (fun _ _ => nofun) ordered
  | execute call => exact served.calm (fun _ _ => nofun) ordered
  | elsewhere bank => exact served.calm (fun _ _ => nofun) ordered

theorem lasting_of_served_step (served : (docket.step call).Served) : docket.Lasting call := by
  cases call with
  | slashFor offense staker =>
    intro slashes sentence known own
    subst own
    have member : sentence ∈ (docket.step (.slashFor offense sentence.staker)).sentences := by
      rw [Docket.step, passed, if_pos slashes, List.mem_append, List.mem_singleton, or_comm]
      exact List.mem_cons.mp known
    by_cases running : docket.kernel.now < sentence.release
    · obtain ⟨info, written, ahead⟩ := served sentence member running
      obtain ⟨next, same, deadline⟩ := record_of_slashes slashes
      obtain rfl := Option.some.inj (written.symm.trans same)
      rw [deadline] at ahead
      exact .inr ahead
    · exact .inl (Nat.le_of_not_lt running)
  | beginBlock context => trivial
  | endBlock utilization => trivial
  | execute call => trivial
  | elsewhere bank => trivial

/-- In a run whose blocks are in order, the slashed stay in jail as long as they were to exactly if
every slash writes a deadline no earlier than that. -/
theorem run_jailed_iff (config : StakingConfig) (bank : Bank) (calls : List KernelCall)
    (ordered : Run.Along step (fun docket => docket.kernel.Ordered) ⟨fromGenesis config bank, []⟩
      calls) :
    (∀ first, first <+: calls → (Run.exec step ⟨fromGenesis config bank, []⟩ first).Jailed) ↔
      Run.Along step Lasting ⟨fromGenesis config bank, []⟩ calls :=
  Run.forall_prefix_iff_of_fair
    (fun _ _ ordered lasting jailed => jailed_iff.mpr ((jailed_iff.mp jailed).step ordered lasting))
    (fun _ jailed => jailed)
    (fun _ _ _ jailed => lasting_of_served_step (jailed_iff.mp jailed))
    (fun _ member => absurd member List.not_mem_nil) calls ordered

def slashedAt (timestamp : Nat) : List KernelCall :=
  [.beginBlock { height := 5000, timestamp }, .endBlock 0,
    .execute (.Stake 1 2000000000000000000 .Validator), .slashFor .doubleSign 1]

theorem run_jailed_iff_devnet :
    Run.Along step (fun docket => docket.kernel.Ordered) ⟨fromGenesis .devnet fundedBank, []⟩
        (slashedAt 4000) ∧
      ∀ first, first <+: slashedAt 4000 →
        (Run.exec step ⟨fromGenesis .devnet fundedBank, []⟩ first).Jailed := by
  have ordered : Run.Along step (fun docket => docket.kernel.Ordered)
      ⟨fromGenesis .devnet fundedBank, []⟩ (slashedAt 4000) := by decide +kernel
  have lasting : Run.Along step Lasting ⟨fromGenesis .devnet fundedBank, []⟩ (slashedAt 4000) := by
    decide +kernel
  exact ⟨ordered, (run_jailed_iff .devnet fundedBank _ ordered).mpr lasting⟩

/-- The deadline is over before it is set. -/
theorem slashedNow_not_jailed :
    Run.Along step (fun docket => docket.kernel.Ordered) ⟨fromGenesis .devnet fundedBank, []⟩
        (slashedAt 1700000000) ∧
      ¬(Run.exec step ⟨fromGenesis .devnet fundedBank, []⟩ (slashedAt 1700000000)).Jailed := by
  refine ⟨by decide +kernel, fun jailed => ?_⟩
  have passed : ⟨1, 1700000300⟩ ∈ (Run.exec step ⟨fromGenesis .devnet fundedBank, []⟩
      (slashedAt 1700000000)).sentences := by decide +kernel
  have active : ∃ info, (Run.exec step ⟨fromGenesis .devnet fundedBank, []⟩
      (slashedAt 1700000000)).kernel.record 1 = some info ∧ info.isActive 1700000000 = true := by
    decide +kernel
  obtain ⟨info, present, refused, -⟩ := jailed _ passed { timestamp := 1700000000 }
    (by decide +kernel) (by decide)
  obtain ⟨other, same, free⟩ := active
  obtain rfl := Option.some.inj (present.symm.trans same)
  rw [free] at refused
  exact nomatch refused

end Docket

end Vm.SystemKernel
