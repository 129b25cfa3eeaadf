import Aethelred.Validator.Keeper

/- The bounds of the active set: how many validators are online, in all and in each region. -/
namespace Validator

open Go List HardwareCapability Nat

variable {libraries : Libraries}

def HardwareCapability.onlineIn (libraries : Libraries) (region : String) (hc : HardwareCapability) :
    Bool :=
  hc.online && decide (hc.region libraries = region)

/-- No more than the allowed validators are online, in all and in each region. -/
structure Spread (libraries : Libraries) (capabilities : Map String HardwareCapability) : Prop where
  total : capabilities.countP online ≤ MaxActiveValidators
  zone : ∀ region, region ≠ "" → capabilities.countP (onlineIn libraries region) ≤
    Keeper.allowedInZone (capabilities.countP online)

namespace Keeper

section Walk

variable {ν : Type}

section

variable (m : Map String ν)
include m

theorem countP_walk (test : String × ν → Bool) :
    (walk m).countP test =
      m.keys.countP fun key => (m.lookup key).any fun value => test (key, value) := by
  unfold walk
  rw [countP_filterMap, (perm_insertionSort (· ≤ ·) m.keys).countP_eq]
  apply countP_congr
  intro key _
  cases m.lookup key <;> simp

theorem countP_erase_eq (excluded : String) (test : ν → Bool) :
    (m.keys.countP fun key => (m.lookup key).any fun value => decide (key ≠ excluded) && test value) =
      Map.countP (m.erase excluded) test := by
  have others : Map.countP (m.erase excluded) test =
      (m.keys.erase excluded).countP fun key =>
        (m.lookup key).any fun value => decide (key ≠ excluded) && test value := by
    unfold Map.countP
    rw [AList.keys_erase]
    apply countP_congr
    intro key member
    have differ : key ≠ excluded := ((m.keys_nodup.mem_erase_iff).mp member).1
    rw [AList.lookup_erase_ne differ]
    simp only [differ, ne_eq, not_false_eq_true, decide_true, Bool.true_and]
  rw [others]
  by_cases present : excluded ∈ m.keys
  · rw [(perm_cons_erase present).countP_eq, countP_cons]
    cases m.lookup excluded <;> simp
  · rw [erase_of_not_mem present]

theorem countP_insert_eq (key : String) (value : ν) (test : ν → Bool) :
    Map.countP (m.insert key value) test =
      Map.countP (m.erase key) test + Map.tally (some value) test := by
  have before := Map.countP_erase m key test
  have after := Map.countP_insert m key value test
  omega

theorem countP_insert_of_fails (key : String) {value : ν} {test : ν → Bool}
    (fails : test value = false) :
    Map.countP (m.insert key value) test = Map.countP (m.erase key) test := by
  rw [countP_insert_eq, Map.tally_some, fails]
  rfl

theorem countP_le_of_imp {test weaker : ν → Bool}
    (implies : ∀ value, test value = true → weaker value = true) :
    m.countP test ≤ m.countP weaker := by
  apply countP_mono_left
  intro key _ passes
  rw [Option.any_eq_true] at passes ⊢
  obtain ⟨value, found, passes⟩ := passes
  exact ⟨value, found, implies value passes⟩

end

end Walk

section Counts

variable (libraries) (excluded : String)

theorem countActive_total (counts : Nat × Map String Nat) (entry : String × HardwareCapability) :
    (countActive libraries excluded counts entry).1 =
      counts.1 + if decide (entry.1 ≠ excluded) && entry.2.online then 1 else 0 := by
  unfold countActive
  split
  · rename_i skipped
    rcases skipped with same | offline
    · simp [same]
    · simp [offline]
  · rename_i counted
    rw [not_or, Bool.not_eq_false] at counted
    simp [counted.1, counted.2]

variable {region : String}

section

variable (counts : Nat × Map String Nat) (entry : String × HardwareCapability)
include counts entry

theorem countActive_region
    (named : region ≠ "") :
    (countActive libraries excluded counts entry).2.get region 0 =
      counts.2.get region 0 +
        if decide (entry.1 ≠ excluded) && entry.2.onlineIn libraries region then 1 else 0 := by
  unfold countActive onlineIn
  split
  · rename_i skipped
    rcases skipped with same | offline
    · simp [same]
    · simp [offline]
  · rename_i counted
    rw [not_or, Bool.not_eq_false] at counted
    by_cases here : entry.2.region libraries = region
    · simp [counted.1, counted.2, here, named, Map.get_update]
    · by_cases empty : entry.2.region libraries = ""
      · simp [empty, Ne.symm named]
      · simp [empty, here, Ne.symm here, Map.get_update]

theorem countActive_keys
    (named : "" ∉ counts.2.keys) : "" ∉ (countActive libraries excluded counts entry).2.keys := by
  unfold countActive
  split
  · exact named
  · by_cases empty : entry.2.region libraries = ""
    · simp only [empty, ne_eq, not_true_eq_false, ↓reduceIte]
      exact named
    · simp only [empty, ne_eq, not_false_eq_true, ↓reduceIte]
      rw [Map.mem_keys_update, not_or]
      exact ⟨Ne.symm empty, named⟩

end

section

variable (entries : List (String × HardwareCapability)) (counts : Nat × Map String Nat)
include entries counts

theorem foldl_countActive_total :
    (entries.foldl (countActive libraries excluded) counts).1 =
      counts.1 + entries.countP (fun entry => decide (entry.1 ≠ excluded) && entry.2.online) := by
  induction entries generalizing counts with
  | nil => rfl
  | cons entry rest ih =>
    rw [foldl_cons, ih, countActive_total, countP_cons]
    omega

theorem foldl_countActive_region (named : region ≠ "") :
    (entries.foldl (countActive libraries excluded) counts).2.get region 0 =
      counts.2.get region 0 + entries.countP (fun entry =>
        decide (entry.1 ≠ excluded) && entry.2.onlineIn libraries region) := by
  induction entries generalizing counts with
  | nil => rfl
  | cons entry rest ih =>
    rw [foldl_cons, ih, countActive_region libraries excluded counts entry named,
      countP_cons]
    omega

theorem foldl_countActive_keys (named : "" ∉ counts.2.keys) :
    "" ∉ (entries.foldl (countActive libraries excluded) counts).2.keys := by
  induction entries generalizing counts with
  | nil => exact named
  | cons entry rest ih => exact ih _ (countActive_keys libraries excluded counts entry named)

end

variable (k : Keeper)

theorem countActiveValidatorsByRegion_total :
    (countActiveValidatorsByRegion libraries k excluded).1 =
      Map.countP (k.hardwareCapabilities.erase excluded) online := by
  unfold countActiveValidatorsByRegion
  rw [foldl_countActive_total, zero_add, countP_walk, ← countP_erase_eq]

theorem countActiveValidatorsByRegion_region (named : region ≠ "") :
    (countActiveValidatorsByRegion libraries k excluded).2.get region 0 =
      Map.countP (k.hardwareCapabilities.erase excluded)
        (onlineIn libraries region) := by
  unfold countActiveValidatorsByRegion
  rw [foldl_countActive_region libraries excluded _ _ named, Map.get_empty, zero_add, countP_walk,
    ← countP_erase_eq]

theorem countActiveValidatorsByRegion_named
    (counted : region ∈ (countActiveValidatorsByRegion libraries k excluded).2.keys) :
    region ≠ "" := by
  rintro rfl
  exact foldl_countActive_keys libraries excluded (walk k.hardwareCapabilities) (0, ∅)
    not_mem_nil counted

end Counts

theorem onlineIn_imp_online {region : String} (hc : HardwareCapability)
    (counted : hc.onlineIn libraries region = true) : hc.online = true :=
  (Bool.and_eq_true_iff.mp counted).1

theorem allowedInZone_mono {a b : Nat} (le : a ≤ b) : allowedInZone a ≤ allowedInZone b := by
  unfold allowedInZone ZoneCapBps
  split <;> split <;> omega

/-- There is room for the validator, in all and in its region. -/
structure Admits (libraries : Libraries) (capabilities : Map String HardwareCapability)
    (addr region : String) : Prop where
  total : Map.countP (capabilities.erase addr) online + 1 ≤ MaxActiveValidators
  zone : region ≠ "" →
    Map.countP (capabilities.erase addr) (onlineIn libraries region) + 1 ≤
      allowedInZone (Map.countP (capabilities.erase addr) online + 1)

/-- The constraints admit whom there is room for. -/
theorem enforceValidatorSetConstraints_ok_iff (k : Keeper) (capability : HardwareCapability) :
    enforceValidatorSetConstraints libraries k capability = .ok () ↔
      (capability.online = true → Admits libraries k.hardwareCapabilities
        capability.validatorAddress (capability.region libraries)) := by
  unfold enforceValidatorSetConstraints
  split
  · rename_i offline
    simp [offline]
  · rename_i online
    rw [Bool.not_eq_false] at online
    simp only [online, true_implies]
    rw [countActiveValidatorsByRegion_total]
    split
    · rename_i full
      refine ⟨(by simp), fun admits => ?_⟩
      exact absurd admits.total (not_le.mpr full)
    · rename_i free
      split
      · rename_i empty
        exact ⟨fun _ => ⟨not_lt.mp free, fun named => absurd empty named⟩, fun _ => rfl⟩
      · rename_i named
        rw [countActiveValidatorsByRegion_region libraries _ k named]
        split
        · rename_i crowded
          refine ⟨(by simp), fun admits => ?_⟩
          exact absurd (admits.zone named) (not_le.mpr crowded)
        · rename_i roomy
          exact ⟨fun _ => ⟨not_lt.mp free, fun _ => not_lt.mp roomy⟩, fun _ => rfl⟩

theorem le_allowed_iff {count total : Nat} (le : count ≤ total) :
    (count ≤ if total * ZoneCapBps / 10000 < 1 ∧ 0 < total then 1 else total * ZoneCapBps / 10000) ↔
      count ≤ allowedInZone total := by
  unfold allowedInZone
  by_cases none : total = 0
  · have zero : count = 0 := by omega
    simp [zero]
  · have some : 0 < total := pos_of_ne_zero none
    simp only [some, and_true]

/-- The invariants hold exactly of a set that is spread. -/
theorem validateActiveValidatorSetInvariants_ok_iff (order : RangeOrder String) (k : Keeper) :
    validateActiveValidatorSetInvariants libraries order k = .ok () ↔
      Spread libraries (k.hardwareCapabilities.erase "") := by
  have inside (region : String) :
      Map.countP (k.hardwareCapabilities.erase "") (onlineIn libraries region) ≤
        Map.countP (k.hardwareCapabilities.erase "") online :=
    countP_le_of_imp _ onlineIn_imp_online
  unfold validateActiveValidatorSetInvariants
  dsimp only
  rw [countActiveValidatorsByRegion_total]
  split
  · rename_i full
    exact ⟨(by simp), fun spread => absurd spread.total (not_le.mpr full)⟩
  · rename_i free
    split
    · rename_i region found
      refine ⟨(by simp), fun spread => ?_⟩
      have counted := (order.mem_order).mp (mem_of_find?_eq_some found)
      have named := countActiveValidatorsByRegion_named libraries "" k counted
      have crowded := find?_some found
      rw [decide_eq_true_eq, countActiveValidatorsByRegion_region libraries "" k named] at crowded
      exact absurd ((le_allowed_iff (inside region)).mpr (spread.zone region named))
        (not_le.mpr crowded)
    · rename_i none
      refine ⟨fun _ => ⟨not_lt.mp free, fun region named => ?_⟩, fun _ => rfl⟩
      rw [← le_allowed_iff (inside region),
        ← countActiveValidatorsByRegion_region libraries "" k named]
      by_cases counted : region ∈ (countActiveValidatorsByRegion libraries k "").2.keys
      · have roomy := find?_eq_none.mp none region ((order.mem_order).mpr counted)
        exact not_lt.mp fun crowded => roomy (decide_eq_true crowded)
      · rw [Map.get, AList.lookup_eq_none.mpr counted]
        exact zero_le _

section Changes

variable {capabilities : Map String HardwareCapability} {addr : String}
  {capability : HardwareCapability}

theorem spread_insert_offline (offline : capability.online = false) :
    Spread libraries (capabilities.insert addr capability) ↔
      Spread libraries (capabilities.erase addr) := by
  have total := countP_insert_of_fails capabilities addr offline
  have regions (region : String) : Map.countP (capabilities.insert addr capability)
        (onlineIn libraries region) =
      Map.countP (capabilities.erase addr) (onlineIn libraries region) := by
    apply countP_insert_of_fails
    rw [onlineIn, offline, Bool.false_and]
  constructor
  · intro spread
    refine ⟨total ▸ spread.total, fun region named => ?_⟩
    have zone := spread.zone region named
    rwa [total, regions] at zone
  · intro spread
    refine ⟨total ▸ spread.total, fun region named => ?_⟩
    rw [total, regions]
    exact spread.zone region named

/-- An admitted validator keeps the set spread. -/
theorem spread_insert_online (spread : Spread libraries capabilities)
    (online : capability.online = true) :
    Spread libraries (capabilities.insert addr capability) ↔
      Admits libraries capabilities addr (capability.region libraries) := by
  have total : Map.countP (capabilities.insert addr capability) HardwareCapability.online =
      Map.countP (capabilities.erase addr) HardwareCapability.online + 1 := by
    rw [countP_insert_eq, Map.tally_some, online, if_pos rfl]
  have region_eq (region : String) : Map.countP (capabilities.insert addr capability)
        (onlineIn libraries region) =
      Map.countP (capabilities.erase addr) (onlineIn libraries region) +
        if capability.region libraries = region then 1 else 0 := by
    rw [countP_insert_eq, Map.tally_some, onlineIn, online]
    simp only [Bool.true_and, decide_eq_true_eq]
  constructor
  · intro after
    refine ⟨total ▸ after.total, fun named => ?_⟩
    have zone := after.zone _ named
    rwa [total, region_eq, if_pos rfl] at zone
  · intro admits
    refine ⟨total ▸ admits.total, fun region named => ?_⟩
    rw [total, region_eq]
    split
    · rename_i same
      rw [← same] at named ⊢
      exact admits.zone named
    · have before := spread.zone region named
      have split := Map.countP_erase capabilities addr HardwareCapability.online
      have split' := Map.countP_erase capabilities addr
        (onlineIn libraries region)
      have one : Map.tally (capabilities.lookup addr) HardwareCapability.online ≤ 1 := by
        unfold Map.tally
        split <;> omega
      have more : allowedInZone (capabilities.countP HardwareCapability.online) ≤
          allowedInZone (Map.countP (capabilities.erase addr) HardwareCapability.online + 1) :=
        allowedInZone_mono (by omega)
      omega

/-- The other validators of each region are within the bounds without the validator. -/
def Leaves (libraries : Libraries) (capabilities : Map String HardwareCapability) (addr : String) :
    Prop :=
  ∀ region, region ≠ "" →
    Map.countP (capabilities.erase addr) (onlineIn libraries region) ≤
      allowedInZone (Map.countP (capabilities.erase addr) online)

theorem countP_erase_le (test : HardwareCapability → Bool) :
    Map.countP (capabilities.erase addr) test ≤ capabilities.countP test := by
  have split := Map.countP_erase capabilities addr test
  omega

theorem spread_erase (spread : Spread libraries capabilities) :
    Spread libraries (capabilities.erase addr) ↔ Leaves libraries capabilities addr :=
  ⟨fun after => after.zone, fun leaves => ⟨(countP_erase_le _).trans spread.total, leaves⟩⟩

theorem spread_of_erase (nowhere : ∀ capability, capabilities.lookup addr = some capability →
      capability.region libraries = "")
    (total : capabilities.countP online ≤ MaxActiveValidators)
    (spread : Spread libraries (capabilities.erase addr)) : Spread libraries capabilities := by
  refine ⟨total, fun region named => ?_⟩
  have nothing : Map.tally (capabilities.lookup addr)
      (onlineIn libraries region) = 0 := by
    cases found : capabilities.lookup addr with
    | none => rfl
    | some capability =>
      rw [Map.tally_some, onlineIn, nowhere capability found]
      simp [Ne.symm named]
  have split := Map.countP_erase capabilities addr (onlineIn libraries region)
  have zone := spread.zone region named
  have fewer : Map.countP (capabilities.erase addr) online ≤
      capabilities.countP online := countP_erase_le _
  have more := allowedInZone_mono fewer
  omega

theorem countP_mapValues (change : HardwareCapability → HardwareCapability)
    (test : HardwareCapability → Bool) :
    Map.countP (capabilities.mapValues change) test =
      capabilities.countP fun capability => test (change capability) := by
  unfold Map.countP
  rw [Map.keys_mapValues]
  apply countP_congr
  intro key _
  rw [Map.lookup_mapValues, Option.any_map]

end Changes

end Keeper

end Validator
