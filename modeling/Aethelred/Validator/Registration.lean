import Aethelred.Validator.Policy

/- Registrations: the end of a time in jail, the checks of the policy, and what a failed one leaves
behind. -/
namespace Validator

open Go Attempt Keeper Chain

variable {libraries : Libraries} {chain : Chain} {block : Block} {k : Keeper}
  {order : RangeOrder String} {capability : HardwareCapability}

theorem validate_address (valid : capability.validate libraries = .ok ()) :
    capability.validatorAddress ≠ "" := by
  intro empty
  unfold HardwareCapability.validate at valid
  rw [empty, libraries.valAddress_empty] at valid
  cases valid

theorem spread_congr {before after : Map String HardwareCapability}
    (same : ∀ addr, after.lookup addr = before.lookup addr) (spread : Spread libraries before) :
    Spread libraries after := by
  have counts (test : HardwareCapability → Bool) : after.countP test = before.countP test :=
    Map.countP_congr (fun addr => by rw [same addr]) (Map.keys_perm_of_lookup same)
  refine ⟨counts _ ▸ spread.total, fun region named => ?_⟩
  rw [counts, counts]
  exact spread.zone region named

def restored (k : Keeper) (addr : String) (capability : HardwareCapability) : Keeper :=
  match k.hardwareCapabilities.lookup addr with
  | some previousCap => (k.setCapability addr capability).setCapability addr previousCap
  | none => (k.setCapability addr capability).removeCapability addr

theorem restored_lookup (addr other : String) :
    (restored k addr capability).hardwareCapabilities.lookup other =
      k.hardwareCapabilities.lookup other := by
  unfold restored
  cases found : k.hardwareCapabilities.lookup addr with
  | some previousCap =>
    simp only [setCapability, Map.lookup_insert_eq]
    split
    · rename_i same
      rw [same, found]
    · rfl
  | none =>
    simp only [removeCapability, setCapability, Map.lookup_erase_eq, Map.lookup_insert_eq]
    split
    · rename_i same
      rw [same, found]
    · rfl

theorem restored_rest (k : Keeper) (addr : String) (capability : HardwareCapability) :
    (restored k addr capability).tombstonedValidators = k.tombstonedValidators ∧
      (restored k addr capability).validatorJailUntil = k.validatorJailUntil ∧
      (restored k addr capability).slashingRecords = k.slashingRecords ∧
      (restored k addr capability).slashes = k.slashes := by
  unfold restored
  split <;> exact ⟨rfl, rfl, rfl, rfl⟩

theorem same_restored (addr : String) : Same k (restored k addr capability) := by
  obtain ⟨tombstoned, jailed, records, -⟩ := restored_rest k addr capability
  refine ⟨restored_lookup addr, fun key => by rw [records], fun other => by rw [tombstoned],
    fun other => by rw [jailed]⟩

theorem policy_restored (addr : String) (policy : Policy libraries ⟨k, block⟩) :
    Policy libraries ⟨restored k addr capability, block⟩ := by
  obtain ⟨tombstoned, jailed, records, slashes⟩ :=
    restored_rest k addr capability
  have online (other : String) : (restored k addr capability).isOnline other = k.isOnline other := by
    rw [isOnline, restored_lookup, isOnline]
  refine ⟨?_, ?_, spread_congr (restored_lookup addr) policy.spread, ?_⟩
  · intro other banned
    rw [online]
    exact policy.banned other (tombstoned ▸ banned)
  · intro other jailedUntil listed still
    exact policy.served other jailedUntil (jailed ▸ listed) ((online other).symm.trans still)
  · rw [recorded_iff, Keeper.records, records, slashes]
    exact (recorded_iff k).mp policy.recorded

theorem storeCapability_ok (valid : validateActiveValidatorSetInvariants libraries order
      (k.setCapability capability.validatorAddress capability) = .ok ()) :
    storeCapability libraries order capability k =
      (.ok (), k.setCapability capability.validatorAddress capability) := by
  unfold storeCapability
  rw [read_bind, modify_bind, valid]
  rfl

theorem storeCapability_error {reason : String}
    (invalid : validateActiveValidatorSetInvariants libraries order
      (k.setCapability capability.validatorAddress capability) = .error reason) :
    ∃ text, storeCapability libraries order capability k =
      (.error text, restored k capability.validatorAddress capability) := by
  unfold storeCapability restored
  rw [read_bind, modify_bind, invalid]
  cases k.hardwareCapabilities.lookup capability.validatorAddress <;> exact ⟨_, rfl⟩

/-- The checks of the policy, before and after the capability is written. -/
def Passes (libraries : Libraries) (order : RangeOrder String) (k : Keeper)
    (capability : HardwareCapability) : Prop :=
  enforceValidatorSetConstraints libraries k capability = .ok () ∧
    validateActiveValidatorSetInvariants libraries order
      (k.setCapability capability.validatorAddress capability) = .ok ()

def enroll (libraries : Libraries) (order : RangeOrder String) (k : Keeper)
    (capability : HardwareCapability) : Keeper.Call Unit := do
  ofExcept (enforceValidatorSetConstraints libraries k capability)
  storeCapability libraries order capability

variable {released : Keeper}

section

variable (alike : released.hardwareCapabilities = k.hardwareCapabilities)
include alike

theorem enroll_of_passes
    (passes : Passes libraries order k capability) :
    enroll libraries order k capability released =
      (.ok (), released.setCapability capability.validatorAddress capability) := by
  unfold enroll
  rw [ofExcept_bind, passes.1]
  apply storeCapability_ok
  have same := passes.2
  unfold validateActiveValidatorSetInvariants countActiveValidatorsByRegion setCapability at *
  rw [alike]
  exact same

theorem enroll_of_not_passes
    (fails : ¬Passes libraries order k capability) :
    ∃ text after, enroll libraries order k capability released = (.error text, after) ∧
      (after = released ∨ after = restored released capability.validatorAddress capability) := by
  unfold enroll
  rw [ofExcept_bind]
  cases before : enforceValidatorSetConstraints libraries k capability with
  | error reason => exact ⟨_, _, rfl, Or.inl rfl⟩
  | ok =>
    cases written : validateActiveValidatorSetInvariants libraries order
        (released.setCapability capability.validatorAddress capability) with
    | ok =>
      refine absurd ⟨before, ?_⟩ fails
      unfold validateActiveValidatorSetInvariants countActiveValidatorsByRegion setCapability at *
      rw [alike] at written
      exact written
    | error reason =>
      obtain ⟨text, stored⟩ := storeCapability_error written
      exact ⟨text, _, stored, Or.inr rfl⟩

end

theorem policy_of_passes (sound : Sound libraries chain) (timely : chain.block.unix ≤ block.unix)
    (policy : Policy libraries ⟨released, chain.block⟩)
    (alike : released.hardwareCapabilities = chain.keeper.hardwareCapabilities)
    (valid : capability.validate libraries = .ok ())
    (cleared : capability.online = true → Cleared released block capability.validatorAddress)
    (passes : Passes libraries order chain.keeper capability) :
    Policy libraries ⟨released.setCapability capability.validatorAddress capability, block⟩ := by
  have address := validate_address valid
  have spread : Spread libraries ((chain.keeper.hardwareCapabilities.insert
      capability.validatorAddress capability).erase "") :=
    (validateActiveValidatorSetInvariants_ok_iff order _).mp passes.2
  refine (policy_setCapability policy timely).mpr ⟨cleared, ?_⟩
  rw [alike]
  refine spread_of_erase (fun stored found => ?_) ?_ spread
  · rw [AList.lookup_insert_ne address.symm] at found
    exact sound.nowhere stored found
  · rw [countP_insert_eq, Map.tally_some]
    split
    · rename_i online
      exact ((enforceValidatorSetConstraints_ok_iff chain.keeper capability).mp passes.1 online).total
    · exact (countP_erase_le _).trans sound.policy.spread.total

theorem policy_of_removed (addr : String) (policy : Policy libraries chain) :
    Policy libraries ⟨chain.keeper.removeJailUntil addr, chain.block⟩ := by
  refine ⟨policy.banned, fun other jailedUntil jailed online => ?_, policy.spread, policy.recorded⟩
  rw [removeJailUntil, Map.lookup_erase_eq] at jailed
  split at jailed
  · cases jailed
  · exact policy.served other jailedUntil jailed online

theorem serveJail_served (online : capability.online = true) {jailedUntil : Int}
    (jailed : k.validatorJailUntil.lookup capability.validatorAddress = some jailedUntil)
    (elapsed : jailedUntil ≤ block.unix) :
    serveJail block capability k = (.ok (), k.removeJailUntil capability.validatorAddress) := by
  unfold serveJail
  rw [read_bind, jailed]
  dsimp only
  rw [if_pos online, ensure_bind, if_pos elapsed]
  rfl

theorem serveJail_otherwise (other : capability.online = true → ∀ jailedUntil,
      k.validatorJailUntil.lookup capability.validatorAddress = some jailedUntil →
      ¬jailedUntil ≤ block.unix) :
    (serveJail block capability k = (.ok (), k) ∧
        (capability.online = true →
          k.validatorJailUntil.lookup capability.validatorAddress = none)) ∨
      ∃ text, serveJail block capability k = (.error text, k) := by
  unfold serveJail
  rw [read_bind]
  cases jailed : k.validatorJailUntil.lookup capability.validatorAddress with
  | none => exact Or.inl ⟨rfl, fun _ => rfl⟩
  | some jailedUntil =>
    dsimp only
    by_cases online : capability.online = true
    · right
      rw [if_pos online, ensure_bind, if_neg (other online jailedUntil jailed)]
      exact ⟨_, rfl⟩
    · left
      rw [if_neg online]
      exact ⟨rfl, fun on => absurd on online⟩

theorem holds_of_unchanged (sound : Sound libraries chain) (timely : chain.block.unix ≤ block.unix)
    {call : Validator.Call} {reason : String}
    (unchanged : run libraries block call chain.keeper = (.error reason, chain.keeper)) :
    Holds libraries chain (block, call) := by
  unfold Holds step
  dsimp only
  rw [unchanged]
  exact ⟨policy_later sound.policy timely, fun _ _ _ _ _ => Same.refl _⟩

theorem holds_of_ok {call : Validator.Call} {after : Keeper}
    (done : run libraries block call chain.keeper = (.ok (), after))
    (policy : Policy libraries ⟨after, block⟩) : Holds libraries chain (block, call) := by
  unfold Holds step
  dsimp only
  rw [done]
  exact ⟨policy, fun _ _ _ _ => nofun⟩

theorem run_register (valid : capability.validate libraries = .ok ())
    (allowed : capability.validatorAddress ∉ k.tombstonedValidators) :
    run libraries block (.registerHardwareCapability order (some capability)) k =
      (serveJail block capability >>= fun _ => enroll libraries order k capability) k := by
  unfold run registerHardwareCapability
  dsimp only
  rw [okOr_bind]
  dsimp only
  rw [ofExcept_bind, valid]
  change (read >>= _) k = _
  rw [read_bind, ensure_bind, if_pos allowed]
  rfl

theorem run_register_refused (refused : capability.validate libraries ≠ .ok () ∨
      capability.validatorAddress ∈ k.tombstonedValidators) :
    ∃ text, run libraries block (.registerHardwareCapability order (some capability)) k =
      (.error text, k) := by
  unfold run registerHardwareCapability
  dsimp only
  rw [okOr_bind]
  dsimp only
  rw [ofExcept_bind]
  cases valid : capability.validate libraries with
  | error reason => exact ⟨_, rfl⟩
  | ok =>
    have banned := refused.resolve_left fun invalid => invalid valid
    change ∃ text, (read >>= _) k = _
    rw [read_bind, ensure_bind, if_neg (not_not_intro banned)]
    exact ⟨_, rfl⟩

section Admitted

variable (sound : Sound libraries chain) (timely : chain.block.unix ≤ block.unix)
  (valid : capability.validate libraries = .ok ())
  (allowed : capability.validatorAddress ∉ chain.keeper.tombstonedValidators)

include sound timely valid allowed in
/-- When a validator out of jail may come back. -/
theorem register_served_holds_iff (online : capability.online = true) {jailedUntil : Int}
    (jailed : chain.keeper.validatorJailUntil.lookup capability.validatorAddress = some jailedUntil)
    (elapsed : jailedUntil ≤ block.unix) :
    Holds libraries chain (block, .registerHardwareCapability order (some capability)) ↔
      Passes libraries order chain.keeper capability := by
  have run : run libraries block (.registerHardwareCapability order (some capability))
      chain.keeper = enroll libraries order chain.keeper capability
        (chain.keeper.removeJailUntil capability.validatorAddress) := by
    rw [run_register valid allowed, bind_of_ok (serveJail_served online jailed elapsed)]
  have gone : (chain.keeper.removeJailUntil capability.validatorAddress).validatorJailUntil.lookup
      capability.validatorAddress = none := AList.lookup_erase _ _
  constructor
  · intro holds
    by_contra fails
    have alike : (chain.keeper.removeJailUntil capability.validatorAddress).hardwareCapabilities =
      chain.keeper.hardwareCapabilities := rfl
    obtain ⟨text, after, failed, ends⟩ := enroll_of_not_passes alike fails
    rw [← run] at failed
    have same := (holds.2 order (some capability) text rfl (by rw [failed])).jailed
      capability.validatorAddress
    unfold step at same
    dsimp only at same
    rw [failed, jailed] at same
    rcases ends with rfl | rfl
    · rw [gone] at same
      cases same
    · rw [(restored_rest _ _ _).2.1, gone] at same
      cases same
  · intro passes
    refine holds_of_ok (run.trans (enroll_of_passes rfl passes)) ?_
    refine policy_of_passes sound timely (policy_of_removed _ sound.policy) rfl valid (fun _ => ?_)
      passes
    exact ⟨allowed, fun _ still => absurd (gone.symm.trans still) nofun⟩

include sound timely valid allowed in
theorem register_otherwise_holds (other : capability.online = true → ∀ jailedUntil,
      chain.keeper.validatorJailUntil.lookup capability.validatorAddress = some jailedUntil →
      ¬jailedUntil ≤ block.unix) :
    Holds libraries chain (block, .registerHardwareCapability order (some capability)) := by
  rcases serveJail_otherwise other with ⟨served, free⟩ | ⟨text, confined⟩
  · have run : run libraries block (.registerHardwareCapability order (some capability))
        chain.keeper = enroll libraries order chain.keeper capability chain.keeper := by
      rw [run_register valid allowed, bind_of_ok served]
    by_cases passes : Passes libraries order chain.keeper capability
    · refine holds_of_ok (run.trans (enroll_of_passes rfl passes)) ?_
      refine policy_of_passes sound timely sound.policy rfl valid (fun online => ?_) passes
      exact ⟨allowed, fun _ still => absurd ((free online).symm.trans still) nofun⟩
    · obtain ⟨text, after, failed, ends⟩ := enroll_of_not_passes rfl passes
      rw [← run] at failed
      have later := policy_later sound.policy timely
      unfold Holds step
      dsimp only
      rw [failed]
      rcases ends with rfl | rfl
      · exact ⟨later, fun _ _ _ _ _ => Same.refl _⟩
      · exact ⟨policy_restored _ later, fun _ _ _ _ _ => same_restored _⟩
  · apply holds_of_unchanged sound timely
    rw [run_register valid allowed, bind_of_error confined]

end Admitted

/-- A registration keeps the policy exactly if it is careful. -/
theorem registerHardwareCapability_holds_iff (sound : Sound libraries chain)
    (timely : chain.block.unix ≤ block.unix) (order : RangeOrder String)
    (registered : Option HardwareCapability) :
    Holds libraries chain (block, .registerHardwareCapability order registered) ↔
      Careful libraries chain (block, .registerHardwareCapability order registered) := by
  cases registered with
  | none => exact ⟨fun _ => trivial, fun _ => holds_of_unchanged sound timely rfl⟩
  | some capability =>
    by_cases refused : capability.validate libraries ≠ .ok () ∨
        capability.validatorAddress ∈ chain.keeper.tombstonedValidators
    · obtain ⟨text, unchanged⟩ : ∃ text, run libraries block
          (.registerHardwareCapability order (some capability)) chain.keeper =
            (.error text, chain.keeper) := run_register_refused refused
      refine ⟨fun _ valid allowed => ?_, fun _ => holds_of_unchanged sound timely unchanged⟩
      exact absurd refused (not_or.mpr ⟨not_not_intro valid, allowed⟩)
    · rw [not_or, not_not] at refused
      obtain ⟨valid, allowed⟩ := refused
      constructor
      · intro holds _ _ online jailedUntil jailed elapsed
        exact (register_served_holds_iff sound timely valid allowed online jailed elapsed).mp holds
      · intro careful
        by_cases ends : capability.online = true ∧ ∃ jailedUntil,
            chain.keeper.validatorJailUntil.lookup capability.validatorAddress = some jailedUntil ∧
              jailedUntil ≤ block.unix
        · obtain ⟨online, jailedUntil, jailed, elapsed⟩ := ends
          rw [register_served_holds_iff sound timely valid allowed online jailed elapsed]
          exact careful valid allowed online jailedUntil jailed elapsed
        · apply register_otherwise_holds sound timely valid allowed
          intro online jailedUntil jailed elapsed
          exact ends ⟨online, jailedUntil, jailed, elapsed⟩

end Validator
