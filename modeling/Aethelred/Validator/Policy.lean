import Aethelred.Lib.Run
import Aethelred.Validator.Spread

/- The policy of the active validator set along runs of its module: bans, jail, the caps, and the
records of slashes. -/
namespace Validator

open Go Attempt List AList HardwareCapability Bool

namespace Keeper

def isOnline (k : Keeper) (addr : String) : Bool :=
  (k.hardwareCapabilities.lookup addr).any online

/-- The keepers answer all look-ups alike. -/
structure Same (a b : Keeper) : Prop where
  capabilities : ∀ addr, b.hardwareCapabilities.lookup addr = a.hardwareCapabilities.lookup addr
  records : ∀ key, b.slashingRecords.lookup key = a.slashingRecords.lookup key
  tombstoned : ∀ addr, addr ∈ b.tombstonedValidators ↔ addr ∈ a.tombstonedValidators
  jailed : ∀ addr, b.validatorJailUntil.lookup addr = a.validatorJailUntil.lookup addr

theorem Same.refl (k : Keeper) : Same k k :=
  ⟨fun _ => rfl, fun _ => rfl, fun _ => Iff.rfl, fun _ => rfl⟩

end Keeper

open Keeper

/-- The policy on the active set, in the block of the last call. -/
structure Policy (libraries : Libraries) (chain : Chain) : Prop where
  banned : ∀ addr ∈ chain.keeper.tombstonedValidators, chain.keeper.isOnline addr = false
  served : ∀ addr jailedUntil, chain.keeper.validatorJailUntil.lookup addr = some jailedUntil →
    chain.keeper.isOnline addr = true → jailedUntil ≤ chain.block.unix
  spread : Spread libraries chain.keeper.hardwareCapabilities
  recorded : ∀ addr, (chain.keeper.getSlashingRecords addr).Perm
    (chain.keeper.slashes.filter fun record => decide (record.validatorAddress = addr))

variable (libraries : Libraries) (chain : Chain)

/-- After a call the policy holds, and a registration that failed has changed nothing. -/
def Holds (call : Block × Validator.Call) : Prop :=
  Policy libraries (chain.step libraries call) ∧
    ∀ order capability reason, call.2 = .registerHardwareCapability order capability →
      (Chain.run libraries call.1 call.2 chain.keeper).1 = .error reason →
      Same chain.keeper (chain.step libraries call).keeper

/-- The blocks come in the order of their times. -/
def Timely (call : Block × Validator.Call) : Prop := chain.block.unix ≤ call.1.unix

/-- The validator is neither tombstoned nor jailed. -/
structure Cleared (k : Keeper) (block : Block) (addr : String) : Prop where
  allowed : addr ∉ k.tombstonedValidators
  free : ∀ jailedUntil, k.validatorJailUntil.lookup addr = some jailedUntil →
    jailedUntil ≤ block.unix

/-- The validators of each region that have not timed out are within the bounds on their own. -/
def Stays (capabilities : Map String HardwareCapability) (block : Block) (timeout : Int) : Prop :=
  ∀ region, region ≠ "" →
    capabilities.countP (fun capability =>
        capability.onlineIn libraries region && !timedOut block timeout capability) ≤
      allowedInZone (capabilities.countP fun capability =>
        capability.online && !timedOut block timeout capability)

/-- A validator comes online only under the policy of a registration, and goes offline only where
the others stay within the bounds; a validator is slashed once in a block; and a registration that
ends a time in jail passes its checks. -/
def Careful : Block × Validator.Call → Prop
  | (block, .registerHardwareCapability order (some capability)) =>
    capability.validate libraries = .ok () →
      capability.validatorAddress ∉ chain.keeper.tombstonedValidators →
      capability.online = true →
      ∀ jailedUntil,
        chain.keeper.validatorJailUntil.lookup capability.validatorAddress = some jailedUntil →
        jailedUntil ≤ block.unix →
        enforceValidatorSetConstraints libraries chain.keeper capability = .ok () ∧
          validateActiveValidatorSetInvariants libraries order
            (chain.keeper.setCapability capability.validatorAddress capability) = .ok ()
  | (_, .registerHardwareCapability _ none) => True
  | (block, .updateValidatorStatus addr online _) =>
    ∀ capability, chain.keeper.hardwareCapabilities.lookup addr = some capability →
      if online then Cleared chain.keeper block addr ∧
        Admits libraries chain.keeper.hardwareCapabilities addr (capability.region libraries)
      else Leaves libraries chain.keeper.hardwareCapabilities addr
  | (block, .recordHeartbeat addr) =>
    Cleared chain.keeper block addr ∧
      Admits libraries chain.keeper.hardwareCapabilities addr
        ((chain.keeper.heartbeatCapability block addr).region libraries)
  | (_, .markValidatorOffline addr) =>
    ∀ capability, chain.keeper.hardwareCapabilities.lookup addr = some capability →
      Leaves libraries chain.keeper.hardwareCapabilities addr
  | (block, .checkInactiveValidators timeout) =>
    Stays libraries chain.keeper.hardwareCapabilities block timeout
  | (block, .slashValidator stakingKeeper addr condition _) =>
    addr ∉ chain.keeper.tombstonedValidators →
      ∀ fraction, slashingFractions condition = some fraction →
        applyEconomicPenalty libraries stakingKeeper addr fraction
          (jailableConditions condition) = .ok () →
        chain.keeper.slashingRecords.lookup (recordKey addr block.height) = none ∧
          (jailableConditions condition = true →
            Leaves libraries chain.keeper.hardwareCapabilities addr)

variable (k : Keeper)

/-- A validator without a name has no region. -/
def Nowhere : Prop :=
  ∀ capability, k.hardwareCapabilities.lookup "" = some capability →
    capability.region libraries = ""

/-- The policy holds, also for the name that is empty. -/
structure Sound (libraries : Libraries) (chain : Chain) : Prop where
  policy : Policy libraries chain
  nowhere : Nowhere libraries chain.keeper

def Keeper.records : List SlashingRecord := (walk k.slashingRecords).map Prod.snd

theorem recorded_iff : (∀ addr, (k.getSlashingRecords addr).Perm
        (k.slashes.filter fun record => decide (record.validatorAddress = addr))) ↔
      k.records.Perm k.slashes := by
  constructor
  · intro each
    rw [perm_iff_count]
    intro record
    have own (records : List SlashingRecord) :
        (records.filter fun other =>
          decide (other.validatorAddress = record.validatorAddress)).count record =
          records.count record := count_filter (decide_eq_true rfl)
    have counts := (each record.validatorAddress).count_eq record
    rw [getSlashingRecords, own, own] at counts
    exact counts
  · intro perm addr
    exact perm.filter _

theorem length_walk {ν : Type} (m : Map String ν) : (walk m).length = m.keys.length := by
  have all := countP_walk m fun _ => true
  rw [countP_true] at all
  rw [all, countP_eq_length.mpr]
  intro key member
  obtain ⟨value, found⟩ := Map.mem_keys_iff.mp member
  rw [found]
  rfl

theorem walk_insert_perm {ν : Type} (m : Map String ν) {key : String} (value : ν)
    (fresh : m.lookup key = none) : (walk (m.insert key value)).Perm ((key, value) :: walk m) := by
  have absent : key ∉ m.keys := lookup_eq_none.mp fresh
  unfold walk
  refine ((perm_insertionSort _ _).filterMap _).trans ?_
  rw [keys_insert, erase_of_not_mem absent, filterMap_cons, lookup_insert]
  refine Perm.cons _ ?_
  refine Perm.trans ?_ ((perm_insertionSort _ _).filterMap _).symm
  apply Perm.of_eq
  apply filterMap_congr
  intro other member
  have differ : other ≠ key := by
    rintro rfl
    exact absent member
  rw [lookup_insert_ne differ]

theorem records_setRecord (record : SlashingRecord) (before : k.records.Perm k.slashes) :
    (k.setRecord record).records.Perm (k.setRecord record).slashes ↔
      k.slashingRecords.lookup (recordKey record.validatorAddress record.height) = none := by
  constructor
  · intro after
    by_contra taken
    have present : recordKey record.validatorAddress record.height ∈ k.slashingRecords.keys := by
      by_contra absent
      exact taken (lookup_eq_none.mpr absent)
    have lengths := after.length_eq
    have lengths' := before.length_eq
    rw [Keeper.records, length_map, length_walk] at lengths lengths'
    simp only [setRecord, keys_insert, length_cons, length_append,
      length_erase_of_mem present, length_nil] at lengths
    have some : 0 < k.slashingRecords.keys.length := length_pos_of_mem present
    omega
  · intro fresh
    have perm := (walk_insert_perm k.slashingRecords record fresh).map Prod.snd
    exact (perm.trans (before.cons record)).trans (perm_append_singleton _ _).symm

section Capabilities

variable {libraries : Libraries} {chain : Chain} {block : Block} {addr : String}
  {capability : HardwareCapability}

theorem isOnline_setCapability (k : Keeper) (addr other : String) (capability : HardwareCapability) :
    (k.setCapability addr capability).isOnline other =
      if other = addr then capability.online else k.isOnline other := by
  unfold isOnline setCapability
  rw [Map.lookup_insert_eq]
  split <;> rfl

/-- A capability may be written if the validator may be online, and the set stays within bounds. -/
theorem policy_setCapability (policy : Policy libraries chain) (later : chain.block.unix ≤ block.unix) :
    Policy libraries ⟨chain.keeper.setCapability addr capability, block⟩ ↔
      (capability.online = true → Cleared chain.keeper block addr) ∧
        Spread libraries (chain.keeper.hardwareCapabilities.insert addr capability) := by
  have self := isOnline_setCapability chain.keeper addr addr capability
  rw [if_pos rfl] at self
  constructor
  · intro after
    refine ⟨fun online => ⟨fun banned => ?_, fun jailedUntil jailed => ?_⟩, after.spread⟩
    · have offline := after.banned addr banned
      rw [self, online] at offline
      cases offline
    · exact after.served addr jailedUntil jailed (self.trans online)
  · rintro ⟨cleared, spread⟩
    refine ⟨fun other banned => ?_, fun other jailedUntil jailed online => ?_, spread,
      policy.recorded⟩
    · rw [isOnline_setCapability]
      split
      · rename_i same
        rw [eq_false_iff]
        intro online
        exact (cleared online).allowed (same ▸ banned)
      · exact policy.banned other banned
    · rw [isOnline_setCapability] at online
      split at online
      · rename_i same
        exact (cleared online).free jailedUntil (same ▸ jailed)
      · exact (policy.served other jailedUntil jailed online).trans later

theorem nowhere_setCapability {k : Keeper} (nowhere : Nowhere libraries k)
    (region : addr = "" → capability.region libraries = "") :
    Nowhere libraries (k.setCapability addr capability) := by
  intro stored found
  exact Map.forall_insert (P := fun addr stored => addr = "" → stored.region libraries = "") region
    (by rintro _ held present rfl; exact nowhere held present) "" stored found rfl

theorem policy_later (policy : Policy libraries chain) (later : chain.block.unix ≤ block.unix) :
    Policy libraries ⟨chain.keeper, block⟩ where
  banned := policy.banned
  served := fun addr jailedUntil jailed online =>
    (policy.served addr jailedUntil jailed online).trans later
  spread := policy.spread
  recorded := policy.recorded

end Capabilities

section Calls

variable {libraries : Libraries} {chain : Chain} {block : Block}

theorem holds_iff_policy {call : Validator.Call}
    (other : ∀ order capability, call ≠ .registerHardwareCapability order capability) :
    Holds libraries chain (block, call) ↔ Policy libraries (chain.step libraries (block, call)) :=
  ⟨fun holds => holds.1, fun policy =>
    ⟨policy, fun order capability _ same => absurd same (other order capability)⟩⟩

theorem getHardwareCapability_bind {α : Type} (k : Keeper) (addr : String)
    (rest : HardwareCapability → Keeper.Call α) :
    (getHardwareCapability addr >>= rest) k =
      match k.hardwareCapabilities.lookup addr with
      | some capability => rest capability k
      | none => (.error s!"hardware capability not found for {addr}", k) := by
  change (okOr (k.hardwareCapabilities.lookup addr) _ >>= rest) k = _
  rw [okOr_bind]
  cases k.hardwareCapabilities.lookup addr <;> rfl

section Status

variable (sound : Sound libraries chain) (timely : chain.block.unix ≤ block.unix) (addr : String)

theorem step_updateValidatorStatus (online : Bool) (currentJobs : Int) :
    (chain.step libraries (block, .updateValidatorStatus addr online currentJobs)) =
      match chain.keeper.hardwareCapabilities.lookup addr with
      | some capability =>
        ⟨chain.keeper.setCapability addr (capability.updateStatus block.now online currentJobs), block⟩
      | none => ⟨chain.keeper, block⟩ := by
  unfold Chain.step Chain.run updateValidatorStatus
  dsimp only
  rw [getHardwareCapability_bind]
  cases chain.keeper.hardwareCapabilities.lookup addr <;> rfl

include sound timely in
/-- `UpdateValidatorStatus` keeps the policy exactly if it is careful. -/
theorem updateValidatorStatus_holds_iff (online : Bool) (currentJobs : Int) :
    Holds libraries chain (block, .updateValidatorStatus addr online currentJobs) ↔
      Careful libraries chain (block, .updateValidatorStatus addr online currentJobs) := by
  rw [holds_iff_policy]
  swap
  · exact fun _ _ => nofun
  rw [step_updateValidatorStatus, Careful]
  cases found : chain.keeper.hardwareCapabilities.lookup addr with
  | none => exact ⟨fun _ => nofun, fun _ => policy_later sound.policy timely⟩
  | some capability =>
    rw [policy_setCapability sound.policy timely]
    cases online with
    | true =>
      rw [spread_insert_online sound.policy.spread rfl]
      constructor
      · rintro ⟨cleared, admits⟩ other same
        rw [← Option.some.inj same]
        exact ⟨cleared rfl, admits⟩
      · intro careful
        obtain ⟨cleared, admits⟩ := careful capability rfl
        exact ⟨fun _ => cleared, admits⟩
    | false =>
      rw [spread_insert_offline rfl, spread_erase sound.policy.spread]
      exact ⟨fun after _ _ => after.2, fun careful => ⟨nofun, careful capability rfl⟩⟩

include sound timely in
theorem recordHeartbeat_holds_iff :
    Holds libraries chain (block, .recordHeartbeat addr) ↔
      Careful libraries chain (block, .recordHeartbeat addr) := by
  rw [holds_iff_policy]
  swap
  · exact fun _ _ => nofun
  change Policy libraries ⟨chain.keeper.setCapability addr _, block⟩ ↔ _
  rw [policy_setCapability sound.policy timely, spread_insert_online sound.policy.spread rfl, Careful]
  exact ⟨fun after => ⟨after.1 rfl, after.2⟩, fun careful => ⟨fun _ => careful.1, careful.2⟩⟩

theorem step_markValidatorOffline :
    (chain.step libraries (block, .markValidatorOffline addr)) =
      match chain.keeper.hardwareCapabilities.lookup addr with
      | some capability => ⟨chain.keeper.setCapability addr (setOffline capability), block⟩
      | none => ⟨chain.keeper, block⟩ := by
  unfold Chain.step Chain.run markValidatorOffline
  dsimp only
  rw [getHardwareCapability_bind]
  cases chain.keeper.hardwareCapabilities.lookup addr <;> rfl

include sound timely in
theorem markValidatorOffline_holds_iff :
    Holds libraries chain (block, .markValidatorOffline addr) ↔
      Careful libraries chain (block, .markValidatorOffline addr) := by
  rw [holds_iff_policy]
  swap
  · exact fun _ _ => nofun
  rw [step_markValidatorOffline, Careful]
  cases found : chain.keeper.hardwareCapabilities.lookup addr with
  | none => exact ⟨fun _ => nofun, fun _ => policy_later sound.policy timely⟩
  | some capability =>
    rw [policy_setCapability sound.policy timely, spread_insert_offline rfl,
      spread_erase sound.policy.spread]
    exact ⟨fun after _ _ => after.2, fun careful => ⟨nofun, careful capability rfl⟩⟩

def expire (block : Block) (timeout : Int) (capability : HardwareCapability) : HardwareCapability :=
  if timedOut block timeout capability then setOffline capability else capability

variable (timeout : Int)

theorem expire_online (capability : HardwareCapability) : (expire block timeout capability).online =
      (capability.online && !timedOut block timeout capability) := by
  unfold expire
  split
  · rename_i late
    rw [late, Bool.not_true, Bool.and_false]
    rfl
  · rename_i early
    rw [not_eq_true] at early
    rw [early, Bool.not_false, Bool.and_true]

theorem expire_region (capability : HardwareCapability) :
    (expire block timeout capability).region libraries = capability.region libraries := by
  unfold expire
  split <;> rfl

include sound timely in
/-- `CheckInactiveValidators` keeps the policy exactly if it is careful. -/
theorem checkInactiveValidators_holds_iff :
    Holds libraries chain (block, .checkInactiveValidators timeout) ↔
      Careful libraries chain (block, .checkInactiveValidators timeout) := by
  rw [holds_iff_policy]
  swap
  · exact fun _ _ => nofun
  change Policy libraries ⟨{ chain.keeper with
    hardwareCapabilities := chain.keeper.hardwareCapabilities.mapValues (expire block timeout) },
    block⟩ ↔ _
  have online (addr : String)
      (after : ((chain.keeper.hardwareCapabilities.mapValues (expire block timeout)).lookup addr).any
        online = true) : chain.keeper.isOnline addr = true := by
    rw [Map.lookup_mapValues, Option.any_map, Option.any_eq_true] at after
    obtain ⟨capability, found, still⟩ := after
    rw [expire_online, and_eq_true] at still
    rw [isOnline, found]
    exact still.1
  have total : Map.countP (chain.keeper.hardwareCapabilities.mapValues (expire block timeout))
        HardwareCapability.online =
      chain.keeper.hardwareCapabilities.countP fun capability =>
        capability.online && !timedOut block timeout capability := by
    rw [countP_mapValues]
    simp only [expire_online]
  have regions (region : String) :
      Map.countP (chain.keeper.hardwareCapabilities.mapValues (expire block timeout))
        (onlineIn libraries region) =
      chain.keeper.hardwareCapabilities.countP fun capability =>
        capability.onlineIn libraries region && !timedOut block timeout capability := by
    rw [countP_mapValues]
    simp only [onlineIn, expire_online, expire_region, Bool.and_right_comm]
  constructor
  · intro after region named
    have zone := after.spread.zone region named
    rwa [total, regions] at zone
  · intro stays
    refine ⟨fun addr banned => ?_, fun addr jailedUntil jailed after => ?_, ⟨?_, ?_⟩,
      sound.policy.recorded⟩
    · rw [eq_false_iff]
      intro after
      have before := online addr after
      rw [sound.policy.banned addr banned] at before
      cases before
    · exact (sound.policy.served addr jailedUntil jailed (online addr after)).trans timely
    · rw [total]
      refine (countP_le_of_imp _ fun capability still => ?_).trans sound.policy.spread.total
      exact (and_eq_true_iff.mp still).1
    · intro region named
      rw [total, regions]
      exact stays region named

end Status

end Calls

end Validator
