import Aethelred.Validator.Registration

/- Slashed validators: what a slash does to the active set, and to the records. -/
namespace Validator

open Go Attempt Keeper HardwareCapability Bool Chain

variable {libraries : Libraries} {chain : Chain} {block : Block}

theorem penalize_online (capability : HardwareCapability) (fraction : String) (shouldJail : Bool) :
    (penalize libraries capability fraction shouldJail).online =
      (capability.online && !shouldJail) := by
  cases shouldJail with
  | true => rw [Bool.not_true, Bool.and_false]; rfl
  | false =>
    rw [Bool.not_false, Bool.and_true]
    cases status : capability.status <;> simp [penalize, online, status]

theorem spread_insert_alike {capabilities : Map String HardwareCapability} {addr : String}
    {before after : HardwareCapability} (found : capabilities.lookup addr = some before)
    (online : after.online = before.online)
    (region : after.region libraries = before.region libraries) :
    Spread libraries (capabilities.insert addr after) ↔ Spread libraries capabilities := by
  have counts (test : HardwareCapability → Bool) (alike : test after = test before) :
      Map.countP (capabilities.insert addr after) test = capabilities.countP test := by
    have change := Map.countP_insert capabilities addr after test
    rw [found, Map.tally_some, Map.tally_some, alike] at change
    omega
  have regions (name : String) := counts (onlineIn libraries name)
    (by simp only [onlineIn, online, region])
  constructor
  · intro spread
    refine ⟨counts _ online ▸ spread.total, fun name named => ?_⟩
    have zone := spread.zone name named
    rwa [counts _ online, regions] at zone
  · intro spread
    refine ⟨counts _ online ▸ spread.total, fun name named => ?_⟩
    rw [counts _ online, regions]
    exact spread.zone name named

variable (k : Keeper)

theorem isOnline_penalizeCapability (addr other fraction : String) (shouldJail : Bool) :
    (k.penalizeCapability libraries addr fraction shouldJail).isOnline other =
      if other = addr then k.isOnline addr && !shouldJail else k.isOnline other := by
  unfold penalizeCapability
  cases found : k.hardwareCapabilities.lookup addr with
  | none =>
    dsimp only
    split
    · rename_i same
      subst same
      simp only [isOnline, found, Option.any_none, Bool.false_and]
    · rfl
  | some capability =>
    rw [isOnline_setCapability]
    split
    · rw [penalize_online, isOnline, found, Option.any_some]
    · rfl

/-- A penalty keeps the spread exactly if the regions can spare the validator. -/
theorem spread_penalizeCapability {k : Keeper} (spread : Spread libraries k.hardwareCapabilities)
    (addr fraction : String) (shouldJail : Bool) :
    Spread libraries (k.penalizeCapability libraries addr fraction shouldJail).hardwareCapabilities ↔
      (shouldJail = true → Leaves libraries k.hardwareCapabilities addr) := by
  unfold penalizeCapability
  cases found : k.hardwareCapabilities.lookup addr with
  | none =>
    have same (test : HardwareCapability → Bool) :
        Map.countP (k.hardwareCapabilities.erase addr) test = k.hardwareCapabilities.countP test := by
      have split := Map.countP_erase k.hardwareCapabilities addr test
      rwa [found, Map.tally_none, Nat.add_zero] at split
    refine ⟨fun _ _ region named => ?_, fun _ => spread⟩
    rw [same, same]
    exact spread.zone region named
  | some capability =>
    cases shouldJail with
    | true =>
      refine (spread_insert_offline ?_).trans ((spread_erase spread).trans ?_)
      · rw [penalize_online, Bool.not_true, Bool.and_false]
      · exact ⟨fun leaves _ => leaves, fun leaves => leaves rfl⟩
    | false =>
      have alike : (penalize libraries capability fraction false).online = capability.online := by
        rw [penalize_online, Bool.not_false, Bool.and_true]
      have after := (spread_insert_alike found alike rfl).mpr spread
      exact ⟨fun _ jailed => absurd jailed false_ne_true, fun _ => after⟩

def slashed (libraries : Libraries) (block : Block) (k : Keeper)
    (addr condition fraction jobID : String) : Keeper :=
  ((k.setRecord
    { validatorAddress := addr
      height := block.height
      reason := condition
      slashFraction := fraction
      jailed := jailableConditions condition
      timestamp := block.now
      jobId := jobID }).penalizeCapability libraries addr fraction
        (jailableConditions condition)).confine block addr condition

theorem confine_capabilities (addr condition : String) :
    (k.confine block addr condition).hardwareCapabilities = k.hardwareCapabilities := by
  unfold confine
  dsimp only
  split <;> split <;> rfl

theorem confine_records (addr condition : String) :
    (k.confine block addr condition).slashingRecords = k.slashingRecords ∧
      (k.confine block addr condition).slashes = k.slashes := by
  unfold confine
  dsimp only
  split <;> split <;> exact ⟨rfl, rfl⟩

theorem penalizeCapability_records (addr fraction : String) (shouldJail : Bool) :
    (k.penalizeCapability libraries addr fraction shouldJail).slashingRecords = k.slashingRecords ∧
      (k.penalizeCapability libraries addr fraction shouldJail).slashes = k.slashes := by
  unfold penalizeCapability
  split <;> exact ⟨rfl, rfl⟩

theorem penalizeCapability_confinement (addr fraction : String) (shouldJail : Bool) :
    (k.penalizeCapability libraries addr fraction shouldJail).tombstonedValidators =
        k.tombstonedValidators ∧
      (k.penalizeCapability libraries addr fraction shouldJail).validatorJailUntil =
        k.validatorJailUntil := by
  unfold penalizeCapability
  split <;> exact ⟨rfl, rfl⟩

theorem mem_confine_tombstoned {k : Keeper} {addr condition other : String}
    (banned : other ∈ (k.confine block addr condition).tombstonedValidators) :
    other ∈ k.tombstonedValidators ∨ other = addr ∧ tombstoneConditions condition = true := by
  unfold confine at banned
  dsimp only at banned
  split at banned
  · rename_i permanent
    have listed : other ∈ k.tombstonedValidators.insert addr := by
      revert banned
      split <;> exact id
    rcases List.mem_insert_iff.mp listed with same | before
    · exact Or.inr ⟨same, permanent⟩
    · exact Or.inl before
  · left
    revert banned
    split <;> exact id

/-- Only downtime jails. -/
theorem confine_jailed {k : Keeper} {addr condition other : String} {jailedUntil : Int}
    (jailed : (k.confine block addr condition).validatorJailUntil.lookup other = some jailedUntil) :
    k.validatorJailUntil.lookup other = some jailedUntil ∨ other = addr ∧ condition = "downtime" := by
  by_cases same : other = addr
  · by_cases downtime : condition = "downtime"
    · exact Or.inr ⟨same, downtime⟩
    · left
      unfold confine at jailed
      dsimp only at jailed
      rw [if_neg downtime] at jailed
      split at jailed
      · rw [removeJailUntil, Map.lookup_erase_eq, if_pos same] at jailed
        cases jailed
      · exact jailed
  · left
    unfold confine at jailed
    dsimp only at jailed
    split at jailed
    · rw [removeJailUntil, Map.lookup_erase_eq, if_neg same] at jailed
      revert jailed
      split
      · rw [setTombstoned, setJailUntil, Map.lookup_insert_eq, if_neg same]
        exact id
      · exact id
    · revert jailed
      split
      · rw [setJailUntil, Map.lookup_insert_eq, if_neg same]
        exact id
      · exact id

theorem jailable_of_tombstone {condition : String} (permanent : tombstoneConditions condition = true) :
    jailableConditions condition = true := by
  simp only [tombstoneConditions, jailableConditions, List.mem_cons, decide_eq_true_eq] at *
  tauto

section

variable (sound : Sound libraries chain) (timely : chain.block.unix ≤ block.unix)
include sound timely

/-- When a slash keeps the policy. -/
theorem slashed_holds_iff
    {addr condition : String} (fraction jobID : String)
    (allowed : addr ∉ chain.keeper.tombstonedValidators) :
    Policy libraries ⟨slashed libraries block chain.keeper addr condition fraction jobID, block⟩ ↔
      chain.keeper.slashingRecords.lookup (recordKey addr block.height) = none ∧
        (jailableConditions condition = true →
          Leaves libraries chain.keeper.hardwareCapabilities addr) := by
  set record : SlashingRecord := ⟨addr, block.height, condition, fraction,
    jailableConditions condition, block.now, jobID⟩ with record_eq
  set penalized := (chain.keeper.setRecord record).penalizeCapability libraries addr fraction
    (jailableConditions condition) with penalized_eq
  have after_eq : slashed libraries block chain.keeper addr condition fraction jobID =
      penalized.confine block addr condition := rfl
  have capabilities : (penalized.confine block addr condition).hardwareCapabilities =
      penalized.hardwareCapabilities := confine_capabilities penalized addr condition
  have online (other : String) : (penalized.confine block addr condition).isOnline other =
      if other = addr then chain.keeper.isOnline addr && !jailableConditions condition
      else chain.keeper.isOnline other := by
    rw [isOnline, capabilities]
    exact isOnline_penalizeCapability (chain.keeper.setRecord record) addr other fraction _
  have spread : Spread libraries (penalized.confine block addr condition).hardwareCapabilities ↔
      (jailableConditions condition = true →
        Leaves libraries chain.keeper.hardwareCapabilities addr) := by
    rw [capabilities]
    exact spread_penalizeCapability (k := chain.keeper.setRecord record) sound.policy.spread addr
      fraction _
  have records : (penalized.confine block addr condition).records =
      (chain.keeper.setRecord record).records := by
    rw [Keeper.records, (confine_records penalized addr condition).1,
      (penalizeCapability_records (chain.keeper.setRecord record) addr fraction _).1]
    rfl
  have slashes : (penalized.confine block addr condition).slashes =
      (chain.keeper.setRecord record).slashes := by
    rw [(confine_records penalized addr condition).2,
      (penalizeCapability_records (chain.keeper.setRecord record) addr fraction _).2]
  have recorded := records_setRecord chain.keeper record
    ((recorded_iff chain.keeper).mp sound.policy.recorded)
  rw [← records, ← slashes, ← recorded_iff] at recorded
  rw [after_eq]
  constructor
  · intro after
    exact ⟨recorded.mp after.recorded, spread.mp after.spread⟩
  · rintro ⟨fresh, leaves⟩
    refine ⟨fun other banned => ?_, fun other jailedUntil jailed still => ?_, spread.mpr leaves,
      recorded.mpr fresh⟩
    · rw [online]
      rcases mem_confine_tombstoned banned with before | ⟨same, permanent⟩
      · have listed : other ∈ chain.keeper.tombstonedValidators := by
          rwa [(penalizeCapability_confinement (chain.keeper.setRecord record) addr fraction _).1]
            at before
        have differ : other ≠ addr := fun same => allowed (same ▸ listed)
        rw [if_neg differ]
        exact sound.policy.banned other listed
      · rw [if_pos same, jailable_of_tombstone permanent, Bool.not_true, Bool.and_false]
    · rw [online] at still
      rcases confine_jailed jailed with before | ⟨same, downtime⟩
      · rw [(penalizeCapability_confinement (chain.keeper.setRecord record) addr fraction _).2]
          at before
        have was : chain.keeper.isOnline other = true := by
          split at still
          · rename_i same
            rw [same]
            exact (and_eq_true_iff.mp still).1
          · exact still
        exact (sound.policy.served other jailedUntil before was).trans timely
      · rw [if_pos same, downtime] at still
        have jails : jailableConditions "downtime" = true := by decide
        rw [jails, Bool.not_true, Bool.and_false] at still
        cases still

/-- `SlashValidator` keeps the policy exactly if it is careful. -/
theorem slashValidator_holds_iff (stakingKeeper : Option StakingKeeper)
    (addr condition jobID : String) :
    Holds libraries chain (block, .slashValidator stakingKeeper addr condition jobID) ↔
      Careful libraries chain (block, .slashValidator stakingKeeper addr condition jobID) := by
  rw [holds_iff_policy]
  swap
  · exact fun _ _ => nofun
  unfold step run slashValidator Careful
  dsimp only
  rw [read_bind, ensure_bind]
  split
  · rename_i allowed
    rw [okOr_bind]
    cases known : slashingFractions condition with
    | none => exact ⟨fun _ _ _ => nofun, fun _ => policy_later sound.policy timely⟩
    | some fraction =>
      dsimp only
      rw [ofExcept_bind]
      cases penalty : applyEconomicPenalty libraries stakingKeeper addr fraction
          (jailableConditions condition) with
      | error reason =>
        refine ⟨fun _ _ other same applied => ?_, fun _ => policy_later sound.policy timely⟩
        rw [← Option.some.inj same, penalty] at applied
        cases applied
      | ok =>
        refine (slashed_holds_iff sound timely fraction jobID allowed).trans ?_
        constructor
        · exact fun fits _ _ _ _ => fits
        · exact fun careful => careful allowed fraction rfl penalty
  · rename_i banned
    exact ⟨fun _ allowed => absurd allowed banned, fun _ => policy_later sound.policy timely⟩

end

end Validator

/- Runs of the module that keep the policy of the active set. -/
namespace Validator

open Go Attempt Keeper

section Regions

variable {libraries : Libraries} {chain : Chain} {block : Block}

theorem serveJail_capabilities (block : Block) (k : Keeper) (capability : HardwareCapability) :
    (serveJail block capability k).2.hardwareCapabilities = k.hardwareCapabilities := by
  unfold serveJail
  rw [read_bind]
  cases k.validatorJailUntil.lookup capability.validatorAddress with
  | none => rfl
  | some jailedUntil =>
    dsimp only
    split
    · rw [ensure_bind]
      split <;> rfl
    · rfl

theorem nowhere_slashed {k : Keeper} (nowhere : Nowhere libraries k)
    (addr condition fraction jobID : String) :
    Nowhere libraries (slashed libraries block k addr condition fraction jobID) := by
  rw [Nowhere, slashed, confine_capabilities, penalizeCapability]
  split
  · rename_i capability found
    apply nowhere_setCapability nowhere
    rintro rfl
    exact nowhere capability found
  · exact nowhere

/-- A registration gives the empty name no region. -/
theorem nowhere_register {k : Keeper} (nowhere : Nowhere libraries k) (order : RangeOrder String)
    (registered : Option HardwareCapability) :
    Nowhere libraries
      (Chain.run libraries block (.registerHardwareCapability order registered) k).2 := by
  cases registered with
  | none => exact nowhere
  | some capability =>
    by_cases refused : capability.validate libraries ≠ .ok () ∨
        capability.validatorAddress ∈ k.tombstonedValidators
    · obtain ⟨text, unchanged⟩ : ∃ text, Chain.run libraries block
          (.registerHardwareCapability order (some capability)) k = (.error text, k) :=
        run_register_refused refused
      rw [unchanged]
      exact nowhere
    · rw [not_or, not_not] at refused
      obtain ⟨valid, allowed⟩ := refused
      rw [run_register valid allowed, bind_apply]
      have alike := serveJail_capabilities block k capability
      cases served : serveJail block capability k with
      | mk outcome released =>
        rw [served] at alike
        have kept : Nowhere libraries released := by
          rw [Nowhere, alike]
          exact nowhere
        cases outcome with
        | error reason => exact kept
        | ok =>
          by_cases passes : Passes libraries order k capability
          · dsimp only
            rw [enroll_of_passes alike passes]
            apply nowhere_setCapability kept
            intro empty
            exact absurd empty (validate_address valid)
          · obtain ⟨text, after, failed, ends⟩ := enroll_of_not_passes alike passes
            dsimp only
            rw [failed]
            rcases ends with rfl | rfl
            · exact kept
            · intro stored found
              rw [restored_lookup] at found
              exact kept stored found

/-- Nor does any other call. -/
theorem nowhere_step (sound : Sound libraries chain) (call : Validator.Call) :
    Nowhere libraries (chain.step libraries (block, call)).keeper := by
  have nowhere := sound.nowhere
  cases call with
  | registerHardwareCapability order registered => exact nowhere_register nowhere order registered
  | updateValidatorStatus addr online currentJobs =>
    rw [step_updateValidatorStatus]
    split
    · rename_i capability found
      apply nowhere_setCapability nowhere
      rintro rfl
      exact nowhere capability found
    · exact nowhere
  | recordHeartbeat addr =>
    apply nowhere_setCapability nowhere
    rintro rfl
    unfold heartbeatCapability
    cases found : chain.keeper.hardwareCapabilities.lookup "" with
    | none => rfl
    | some capability => exact nowhere capability found
  | markValidatorOffline addr =>
    rw [step_markValidatorOffline]
    split
    · rename_i capability found
      apply nowhere_setCapability nowhere
      rintro rfl
      exact nowhere capability found
    · exact nowhere
  | checkInactiveValidators timeout =>
    intro capability found
    change (chain.keeper.hardwareCapabilities.mapValues (expire block timeout)).lookup "" =
      some capability at found
    rw [Map.lookup_mapValues, Option.map_eq_some_iff] at found
    obtain ⟨before, found, rfl⟩ := found
    rw [expire_region]
    exact nowhere before found
  | slashValidator stakingKeeper addr condition jobID =>
    unfold Chain.step Chain.run slashValidator
    dsimp only
    rw [read_bind, ensure_bind]
    split
    · rw [okOr_bind]
      split
      · rw [ofExcept_bind]
        split
        · exact nowhere_slashed nowhere addr condition _ jobID
        · exact nowhere
      · exact nowhere
    · exact nowhere

end Regions

section Runs

variable {libraries : Libraries}

theorem holds_iff_careful {chain : Chain} {call : Block × Validator.Call}
    (sound : Sound libraries chain) (timely : Timely chain call) :
    Holds libraries chain call ↔ Careful libraries chain call := by
  obtain ⟨block, call⟩ := call
  cases call with
  | registerHardwareCapability order registered =>
    exact registerHardwareCapability_holds_iff sound timely order registered
  | updateValidatorStatus addr online currentJobs =>
    exact updateValidatorStatus_holds_iff sound timely addr online currentJobs
  | recordHeartbeat addr => exact recordHeartbeat_holds_iff sound timely addr
  | markValidatorOffline addr => exact markValidatorOffline_holds_iff sound timely addr
  | checkInactiveValidators timeout => exact checkInactiveValidators_holds_iff sound timely timeout
  | slashValidator stakingKeeper addr condition jobID =>
    exact slashValidator_holds_iff sound timely stakingKeeper addr condition jobID

def genesis (block : Block) : Chain := { keeper := {}, block }

theorem sound_genesis (block : Block) : Sound libraries (genesis block) := by
  have nothing (addr : String) : (genesis block).keeper.hardwareCapabilities.lookup addr = none := rfl
  refine ⟨⟨fun addr banned => absurd banned List.not_mem_nil, ?_, ⟨Nat.zero_le _, ?_⟩, ?_⟩, ?_⟩
  · intro addr jailedUntil jailed online
    rw [isOnline, nothing] at online
    cases online
  · intro region _
    exact Nat.zero_le _
  · exact fun addr => List.Perm.refl _
  · intro capability found
    rw [nothing] at found
    cases found

/-- In blocks that follow one another, every call keeps the policy exactly if every call is
careful. -/
theorem policy_holds_iff (libraries : Libraries) (block : Block)
    (calls : List (Block × Validator.Call))
    (timely : Run.Along (Chain.step libraries) Timely (genesis block) calls) :
    Run.Along (Chain.step libraries) (Holds libraries) (genesis block) calls ↔
      Run.Along (Chain.step libraries) (Careful libraries) (genesis block) calls := by
  refine Run.along_iff_of_fair
    (fun chain call (sound : Sound libraries chain) timely => holds_iff_careful sound timely) ?_
    (sound_genesis block) timely
  intro chain call sound timely careful
  exact ⟨((holds_iff_careful sound timely).mpr careful).1, nowhere_step sound call.2⟩

def sampleLibraries : Libraries where
  valAddressFromBech32 address := if address = "" then .error "empty address string is not allowed"
    else .ok address.toUTF8.data.toList
  valAddress_empty := rfl
  toLowerRune := Strings.toLowerRune
  reputationPenalty score _ := score

def sampleValidator (addr region : String) : HardwareCapability where
  validatorAddress := addr
  network := some ⟨region⟩
  status := some { online := true, reputationScore := 50 }

def registeredCalls : List (Block × Validator.Call) :=
  [(⟨1, 1, 1⟩, .registerHardwareCapability .asGiven (some (sampleValidator "val1" "eu-west"))),
   (⟨2, 2, 2⟩, .slashValidator none "val1" "invalid_proof" "job-1")]

theorem policy_holds_registered :
    Run.Along (Chain.step sampleLibraries) Timely (genesis ⟨0, 0, 0⟩) registeredCalls ∧
      Run.Along (Chain.step sampleLibraries) (Holds sampleLibraries) (genesis ⟨0, 0, 0⟩)
        registeredCalls := by
  have timely : Run.Along (Chain.step sampleLibraries) Timely (genesis ⟨0, 0, 0⟩)
      registeredCalls := by
    refine ⟨?_, ?_, trivial⟩
    · exact Int.zero_le_ofNat 1
    · exact Int.ofNat_le.mpr (Nat.le_succ 1)
  refine ⟨timely, (policy_holds_iff sampleLibraries ⟨0, 0, 0⟩ registeredCalls timely).mpr
    ⟨?_, ?_, trivial⟩⟩
  · intro _ _ _ jailedUntil jailed
    cases jailed
  · intro _ fraction _ _
    exact ⟨by decide +kernel, fun jails => absurd jails (by decide)⟩

def bannedCalls : List (Block × Validator.Call) :=
  [(⟨1, 1, 1⟩, .registerHardwareCapability .asGiven (some (sampleValidator "val1" "eu-west"))),
   (⟨2, 2, 2⟩, .slashValidator none "val1" "invalid_output" "job-1"),
   (⟨3, 3, 3⟩, .recordHeartbeat "val1")]

def twiceCalls : List (Block × Validator.Call) :=
  [(⟨1, 1, 1⟩, .slashValidator none "val1" "invalid_proof" "job-1"),
   (⟨1, 1, 1⟩, .slashValidator none "val1" "downtime" "job-2")]

theorem heartbeat_of_banned_validator :
    ¬Run.Along (Chain.step sampleLibraries) (Holds sampleLibraries) (genesis ⟨0, 0, 0⟩)
        bannedCalls ∧
      ¬Run.Along (Chain.step sampleLibraries) (Holds sampleLibraries) (genesis ⟨0, 0, 0⟩)
        twiceCalls := by
  constructor
  · intro holds
    obtain ⟨-, -, ⟨policy, -⟩, -⟩ := holds
    have offline := policy.banned "val1" (by decide +kernel)
    revert offline
    decide +kernel
  · intro holds
    obtain ⟨-, ⟨policy, -⟩, -⟩ := holds
    have lengths := (policy.recorded "val1").length_eq
    revert lengths
    decide +kernel

end Runs

end Validator
