import Aethelred.Pouw.Types
import Aethelred.Go.Strings
import Aethelred.Lib.Result

namespace Aethelred.Pouw

open Go Go.Strings Except

def nitroPlatformPrefix : String := "aws-nitro"
def sgxPlatformPrefix : String := "intel-sgx"
def nitroPlatformPCR0Prefix : String := "aws-nitro:pcr0="
def sgxPlatformMRENCLAVEPrefix : String := "intel-sgx:mrenclave="
def measurementHexLength : Nat := 64
def minEmergencyRevocationApprovals : Nat := 2

inductive RegistryError where
  | emptyValidatorAddress
  | unsupportedPlatform (platform : String)
  | invalidMeasurementLength (got : Nat)
  | invalidMeasurementHex
  | missingMeasurement
  | unregisteredMeasurement (platform measurementHex : String)
  | noValidatorMeasurement (validator platform : String)
  | tamperedMeasurement (validator platform : String)
  | unauthorized
  | committeeEmpty
  | notInCommittee
  | quorumUnavailable
  | alreadyApproved (requester key : String)
  | capabilityWithoutAddress
  | belowMinimumStake (validator : String)
deriving DecidableEq

@[ext] structure TrustedMeasurementRegistration where
  platform : String
  measurementHex : String
deriving DecidableEq

/-- The block a call runs in: its height and the staking module's validators. -/
structure BlockContext where
  height : Int
  validators : List StakingValidator

def canonicalizePlatform (platform : String) : Except RegistryError String :=
  let name := trimSpace (toLower platform)
  if name = nitroPlatformPrefix then .ok nitroPlatformPrefix
  else if name = sgxPlatformPrefix then .ok sgxPlatformPrefix
  else .error (.unsupportedPlatform platform)

def normalizeMeasurementHex (raw : String) : Except RegistryError String :=
  let normalized := trimSpace (toLower raw)
  if normalized.utf8ByteSize ≠ measurementHexLength then
    .error (.invalidMeasurementLength normalized.utf8ByteSize)
  else match Hex.decodeString normalized with
    | none => .error .invalidMeasurementHex
    | some _ => .ok normalized

def measurementRegistryKey (platform measurementHex : String) : String :=
  platform ++ ":" ++ measurementHex

def validatorMeasurementKey (validatorAddr platform : String) : String :=
  validatorAddr ++ "|" ++ platform

variable (k : Keeper)

def Keeper.setMeasurement (validatorAddr platform measurementHex : String) : Keeper :=
  { k with
    validatorMeasurements :=
      k.validatorMeasurements.insert (validatorMeasurementKey validatorAddr platform) measurementHex
    registeredMeasurements :=
      insert (measurementRegistryKey platform measurementHex) k.registeredMeasurements }

def Keeper.registerValidatorMeasurement (validatorAddr platform measurementHex : String) :
    Except RegistryError Keeper := do
  if validatorAddr = "" then throw .emptyValidatorAddress
  let normalizedPlatform ← canonicalizePlatform platform
  let normalizedMeasurement ← normalizeMeasurementHex measurementHex
  return k.setMeasurement validatorAddr normalizedPlatform normalizedMeasurement

def Keeper.registerValidatorPCR0 (validatorAddr pcr0Hex : String) :
    Except RegistryError Keeper := do
  let registered ← k.registerValidatorMeasurement validatorAddr nitroPlatformPrefix pcr0Hex
  let normalized ← normalizeMeasurementHex pcr0Hex
  return { registered with
    validatorPCR0Mappings := registered.validatorPCR0Mappings.insert validatorAddr normalized
    registeredPCR0Set := insert normalized registered.registeredPCR0Set }

def Keeper.validateTEEAttestationMeasurement (validatorAddr platform : String)
    (measurement : Bytes) : Except RegistryError Unit := do
  if measurement = [] then throw .missingMeasurement
  let normalizedPlatform ← canonicalizePlatform platform
  let measurementHex := toLower (Hex.encodeToString measurement)
  if measurementHex.utf8ByteSize ≠ measurementHexLength then
    throw (.invalidMeasurementLength measurementHex.utf8ByteSize)
  if measurementRegistryKey normalizedPlatform measurementHex ∉ k.registeredMeasurements then
    throw (.unregisteredMeasurement normalizedPlatform measurementHex)
  match k.validatorMeasurements.lookup (validatorMeasurementKey validatorAddr normalizedPlatform) with
  | none => throw (.noValidatorMeasurement validatorAddr normalizedPlatform)
  | some expected =>
    if expected ≠ measurementHex then
      throw (.tamperedMeasurement validatorAddr normalizedPlatform)

def Keeper.appendTrustedMeasurementByAuthority (keeperAuthority authority platform
    measurementHex : String) : Except RegistryError Keeper := do
  if trimSpace authority ≠ keeperAuthority then throw .unauthorized
  let normalizedPlatform ← canonicalizePlatform platform
  let normalizedMeasurement ← normalizeMeasurementHex measurementHex
  return { k with
    registeredMeasurements :=
      insert (measurementRegistryKey normalizedPlatform normalizedMeasurement)
        k.registeredMeasurements
    registeredPCR0Set :=
      if normalizedPlatform = nitroPlatformPrefix then
        insert normalizedMeasurement k.registeredPCR0Set
      else k.registeredPCR0Set }

def normalizeCommitteeAddress (address : String) : String := trimSpace address

variable (codec : AddressCodec)

/-- The operator address, or the account address of the same bytes. -/
def isRequesterMatchValidator (requester : String) (validator : StakingValidator) : Bool :=
  let req := normalizeCommitteeAddress requester
  if req = "" then false
  else if validator.operator = req then true
  else match codec.valAddressFromBech32 validator.operator with
    | some valAddr => decide (codec.accAddressString valAddr = req)
    | none => false

/-- By stake, then by operator. -/
def committeeOrder (left right : StakingValidator) : Prop :=
  if left.bondedTokens ≠ right.bondedTokens then left.bondedTokens > right.bondedTokens
  else left.operator ≤ right.operator

instance : DecidableRel committeeOrder := fun left right =>
  inferInstanceAs (Decidable (if left.bondedTokens ≠ right.bondedTokens then _ else _))

def securityCommitteeMembers (validators : List StakingValidator) :
    Except RegistryError (List StakingValidator) :=
  let bondedValidators := validators.filter fun v => v.status = .bonded
  if bondedValidators = [] then .error .committeeEmpty
  else .ok ((bondedValidators.insertionSort committeeOrder).take 10)

def committeeContainsRequester (requester : String) (validators : List StakingValidator) : Bool :=
  validators.any (isRequesterMatchValidator codec requester)

def trustedMeasurementRevocationApprovalThreshold (committeeSize : Nat) : Except RegistryError Nat :=
  if committeeSize < minEmergencyRevocationApprovals then .error .quorumUnavailable
  else .ok minEmergencyRevocationApprovals

def trustedMeasurementRevocationRequestID (platform measurementHex : String) (height : Int) : String :=
  platform ++ ":" ++ measurementHex ++ ":" ++ toString height

def openRequest : Option TrustedMeasurementRevocationState → Option TrustedMeasurementRevocationState
  | some state => if state.status = .executed then none else some state
  | none => none

def approvedRequest (found : Option TrustedMeasurementRevocationState)
    (requester platform measurementHex : String) (threshold : Nat) (height : Int) :
    Except RegistryError TrustedMeasurementRevocationState :=
  match openRequest found with
  | none => .ok (opened requester platform measurementHex threshold height)
  | some state =>
    if requester ∈ state.approvals then
      .error (.alreadyApproved requester (measurementRegistryKey platform measurementHex))
    else .ok { state with
      approvals := state.approvals ++ [requester], approvalThreshold := threshold }
where
  opened (requester platform measurementHex : String) (threshold : Nat) (height : Int) :
      TrustedMeasurementRevocationState :=
    { requestID := trustedMeasurementRevocationRequestID platform measurementHex height
      platform := platform
      measurementHex := measurementHex
      requestedBy := requester
      approvals := [requester]
      approvalThreshold := threshold
      status := .pending
      createdAtHeight := height }

def Keeper.setRevocationState (key : String) (state : TrustedMeasurementRevocationState) : Keeper :=
  { k with trustedMeasurementRevocations := k.trustedMeasurementRevocations.insert key state }

def Keeper.executeRevocation (platform measurementHex : String) (height : Int)
    (state : TrustedMeasurementRevocationState) : Keeper :=
  let key := measurementRegistryKey platform measurementHex
  let removed := { k with
    registeredMeasurements := k.registeredMeasurements.erase key
    registeredPCR0Set :=
      if platform = nitroPlatformPrefix then k.registeredPCR0Set.erase measurementHex
      else k.registeredPCR0Set }
  removed.setRevocationState key { state with status := .executed, executedAtHeight := height }

def Keeper.revokeTrustedMeasurementBySecurityCommittee (ctx : BlockContext)
    (k : Keeper) (requester platform measurementHex : String) : Except RegistryError Keeper := do
  let requester := normalizeCommitteeAddress requester
  let committeeMembers ← securityCommitteeMembers ctx.validators
  if !committeeContainsRequester codec requester committeeMembers then throw .notInCommittee
  let approvalThreshold ← trustedMeasurementRevocationApprovalThreshold committeeMembers.length
  let normalizedPlatform ← canonicalizePlatform platform
  let normalizedMeasurement ← normalizeMeasurementHex measurementHex
  let key := measurementRegistryKey normalizedPlatform normalizedMeasurement
  if key ∉ k.registeredMeasurements ∧
      ¬(normalizedPlatform = nitroPlatformPrefix ∧ normalizedMeasurement ∈ k.registeredPCR0Set) then
    throw (.unregisteredMeasurement normalizedPlatform normalizedMeasurement)
  let state ← approvedRequest (k.trustedMeasurementRevocations.lookup key) requester
    normalizedPlatform normalizedMeasurement approvalThreshold ctx.height
  if state.approvals.length < state.approvalThreshold then
    return k.setRevocationState key state
  else return k.executeRevocation normalizedPlatform normalizedMeasurement ctx.height state

/-- One declaration `platform:kind=hex` of a capability, if it is one. -/
def parsePlatformDeclaration (platform : String) : Option TrustedMeasurementRegistration :=
  let normalized := trimSpace (toLower platform)
  if hasPrefix normalized nitroPlatformPCR0Prefix then
    match normalizeMeasurementHex (trimPrefix normalized nitroPlatformPCR0Prefix) with
    | .ok measurement => some ⟨nitroPlatformPrefix, measurement⟩
    | .error _ => none
  else if hasPrefix normalized sgxPlatformMRENCLAVEPrefix then
    match normalizeMeasurementHex (trimPrefix normalized sgxPlatformMRENCLAVEPrefix) with
    | .ok measurement => some ⟨sgxPlatformPrefix, measurement⟩
    | .error _ => none
  else none

def extractTEETrustedMeasurementsFromPlatforms (platforms : List String) :
    List TrustedMeasurementRegistration :=
  platforms.foldl (fun registrations platform =>
    match parsePlatformDeclaration platform with
    | some registration =>
      if registrations.any fun seen =>
          measurementRegistryKey seen.platform seen.measurementHex =
            measurementRegistryKey registration.platform registration.measurementHex
      then registrations
      else registrations ++ [registration]
    | none => registrations) []

/-- 100,000 AETHEL at a million base units each. -/
def minimumValidatorStakeUAETHEL : Nat := 100000 * 1000000

def resolveValidatorAddresses (validatorAddr : String) : List Bytes :=
  match codec.valAddressFromBech32 validatorAddr, codec.accAddressFromBech32 validatorAddr with
  | some valAddr, some accAddr => if accAddr = valAddr then [valAddr] else [valAddr, accAddr]
  | some valAddr, none => [valAddr]
  | none, some accAddr => [accAddr]
  | none, none => []

variable (validators : List StakingValidator)

def getValidator (valAddr : Bytes) : Option StakingValidator :=
  validators.find? fun v => codec.valAddressFromBech32 v.operator = some valAddr

def getValidatorBondedStake (validatorAddr : String) : Option Nat :=
  (resolveValidatorAddresses codec validatorAddr).findSome? fun valAddr =>
    match getValidator codec validators valAddr with
    | some validator => if validator.status = .bonded then some validator.bondedTokens else none
    | none => none

def hasMinimumValidatorStake (validatorAddr : String) : Bool :=
  match getValidatorBondedStake codec validators validatorAddr with
  | some stake => minimumValidatorStakeUAETHEL ≤ stake
  | none => false

def Keeper.registerValidatorCapability (ctx : BlockContext) (k : Keeper)
    (cap : ValidatorCapability) : Except RegistryError Keeper := do
  if cap.address = "" then throw .capabilityWithoutAddress
  if !hasMinimumValidatorStake codec ctx.validators cap.address then
    throw (.belowMinimumStake cap.address)
  let registered ← (extractTEETrustedMeasurementsFromPlatforms cap.teePlatforms).foldlM
    (fun k registration =>
      k.registerValidatorMeasurement cap.address registration.platform registration.measurementHex) k
  return { registered with
    validatorCapabilities := registered.validatorCapabilities.insert cap.address cap }

/- What the accepted calls of the measurement registry do. -/

def normalizedRegistration (platform measurementHex : String) :
    Option TrustedMeasurementRegistration :=
  match canonicalizePlatform platform, normalizeMeasurementHex measurementHex with
  | .ok normalizedPlatform, .ok normalizedMeasurement =>
    some ⟨normalizedPlatform, normalizedMeasurement⟩
  | _, _ => none

def TrustedMeasurementRegistration.key (registration : TrustedMeasurementRegistration) : String :=
  measurementRegistryKey registration.platform registration.measurementHex

/-- Platform and measurement are spelled the canonical way. -/
def TrustedMeasurementRegistration.Normal (registration : TrustedMeasurementRegistration) : Prop :=
  ∃ platform measurementHex, normalizedRegistration platform measurementHex = some registration

variable {codec : AddressCodec} {ctx : BlockContext} {k after : Keeper}
  {platform measurementHex : String} {registration : TrustedMeasurementRegistration}

theorem normalizedRegistration_eq_some :
    normalizedRegistration platform measurementHex = some registration ↔
      canonicalizePlatform platform = .ok registration.platform ∧
        normalizeMeasurementHex measurementHex = .ok registration.measurementHex := by
  unfold normalizedRegistration
  cases canonical : canonicalizePlatform platform with
  | error reason => simp
  | ok p =>
    cases normal : normalizeMeasurementHex measurementHex with
    | error reason => simp
    | ok m => simp [TrustedMeasurementRegistration.ext_iff]

theorem canonicalizePlatform_ok {name : String} (ok : canonicalizePlatform platform = .ok name) :
    name = nitroPlatformPrefix ∨ name = sgxPlatformPrefix := by
  unfold canonicalizePlatform at ok
  grind

/-- The two platform names are equally long, so a key names its platform. -/
theorem key_injective {other : TrustedMeasurementRegistration} (normal : registration.Normal)
    (otherNormal : other.Normal) (same : registration.key = other.key) : registration = other := by
  obtain ⟨platform, measurementHex, normal⟩ := normal
  obtain ⟨otherPlatform, otherHex, otherNormal⟩ := otherNormal
  have platforms := canonicalizePlatform_ok (normalizedRegistration_eq_some.mp normal).1
  have otherPlatforms := canonicalizePlatform_ok (normalizedRegistration_eq_some.mp otherNormal).1
  have lengths : registration.platform.toList.length = other.platform.toList.length := by
    rcases platforms with first | first <;> rcases otherPlatforms with second | second <;>
      rw [first, second] <;> decide
  have lists := congrArg String.toList same
  simp only [TrustedMeasurementRegistration.key, measurementRegistryKey, String.toList_append,
    List.append_assoc] at lists
  obtain ⟨samePlatform, rest⟩ := List.append_inj lists lengths
  obtain ⟨-, sameHex⟩ := List.append_inj rest rfl
  exact TrustedMeasurementRegistration.ext (String.toList_inj.mp samePlatform)
    (String.toList_inj.mp sameHex)

theorem securityCommitteeMembers_bonded {validators committee : List StakingValidator}
    (ok : securityCommitteeMembers validators = .ok committee) :
    ∀ member ∈ committee, member ∈ validators ∧ member.status = .bonded := by
  intro member present
  simp only [securityCommitteeMembers, Except.ite_error_eq_ok, Except.ok.injEq] at ok
  rw [← ok.2] at present
  have sorted := List.mem_of_mem_take present
  rw [List.mem_insertionSort] at sorted
  simpa using sorted

def openApprovers (k : Keeper) (key : String) : List String :=
  match openRequest (k.trustedMeasurementRevocations.lookup key) with
  | some state => state.approvals
  | none => []

theorem openRequest_pending {found : Option TrustedMeasurementRevocationState}
    {state : TrustedMeasurementRevocationState} (isOpen : openRequest found = some state) :
    found = some state ∧ state.status = .pending := by
  cases found with
  | none => cases isOpen
  | some present =>
    unfold openRequest at isOpen
    cases status : present.status <;> simp_all

theorem approvedRequest_ok {key requester : String} {threshold : Nat} {height : Int}
    {state : TrustedMeasurementRevocationState}
    (ok : approvedRequest (k.trustedMeasurementRevocations.lookup key) requester platform
      measurementHex threshold height = .ok state) :
    requester ∉ openApprovers k key ∧ state.approvals = openApprovers k key ++ [requester] ∧
      state.approvalThreshold = threshold ∧ state.status = .pending := by
  unfold approvedRequest at ok
  unfold openApprovers
  cases found : openRequest (k.trustedMeasurementRevocations.lookup key) with
  | none =>
    simp only [found, Except.ok.injEq] at ok
    subst ok
    simp [approvedRequest.opened]
  | some present =>
    simp only [found, Except.ite_error_eq_ok, Except.ok.injEq] at ok
    obtain ⟨fresh, rfl⟩ := ok
    exact ⟨fresh, rfl, rfl, (openRequest_pending found).2⟩

/-- An accepted approval: a committee member's first for this request; the second executes. -/
structure Approved (codec : AddressCodec) (ctx : BlockContext) (requester : String)
    (registration : TrustedMeasurementRegistration) (k after : Keeper)
    (state : TrustedMeasurementRevocationState) : Prop where
  member : ∃ committee, securityCommitteeMembers ctx.validators = .ok committee ∧
    committeeContainsRequester codec requester committee = true
  registered : registration.key ∈ k.registeredMeasurements ∨
    registration.platform = nitroPlatformPrefix ∧ registration.measurementHex ∈ k.registeredPCR0Set
  fresh : requester ∉ openApprovers k registration.key
  approvals : state.approvals = openApprovers k registration.key ++ [requester]
  executed : state.status = .executed ↔ minEmergencyRevocationApprovals ≤ state.approvals.length
  revocations : after.trustedMeasurementRevocations =
    k.trustedMeasurementRevocations.insert registration.key state
  measurements : after.registeredMeasurements =
    if state.status = .executed then k.registeredMeasurements.erase registration.key
    else k.registeredMeasurements
  pcr0 : after.registeredPCR0Set =
    if state.status = .executed ∧ registration.platform = nitroPlatformPrefix then
      k.registeredPCR0Set.erase registration.measurementHex
    else k.registeredPCR0Set

/-- All that an accepted revocation does. -/
theorem revoke_ok {requester : String}
    (ok : k.revokeTrustedMeasurementBySecurityCommittee codec ctx requester platform
      measurementHex = .ok after) :
    ∃ registration state, normalizedRegistration platform measurementHex = some registration ∧
      Approved codec ctx (normalizeCommitteeAddress requester) registration k after state := by
  simp only [Keeper.revokeTrustedMeasurementBySecurityCommittee, bind_eq_ok,
    throw_bind, ite_error_eq_ok] at ok
  obtain ⟨committee, members, belongs, threshold, quorum, p, canonical, m, normal, registered,
    state, approved, result⟩ := ok
  simp only [trustedMeasurementRevocationApprovalThreshold, ite_error_eq_ok,
    ok.injEq] at quorum
  obtain ⟨-, rfl⟩ := quorum
  obtain ⟨fresh, approvals, threshold, pending⟩ := approvedRequest_ok approved
  have normalized : normalizedRegistration platform measurementHex = some ⟨p, m⟩ :=
    normalizedRegistration_eq_some.mpr ⟨canonical, normal⟩
  have present := (not_and_or.mp registered).imp not_not.mp not_not.mp
  rw [threshold] at result
  by_cases short : state.approvals.length < minEmergencyRevocationApprovals
  · rw [if_pos short, pure_eq_ok] at result
    subst result
    refine ⟨⟨p, m⟩, state, normalized, ⟨committee, members, by simpa using belongs⟩, present, fresh,
      approvals, ?_, rfl, ?_, ?_⟩
    · simp [pending, short]
    · simp [pending, Keeper.setRevocationState]
    · simp [pending, Keeper.setRevocationState]
  · rw [if_neg short, pure_eq_ok] at result
    subst result
    refine ⟨⟨p, m⟩, { state with status := .executed, executedAtHeight := ctx.height }, normalized,
      ⟨committee, members, by simpa using belongs⟩, present, fresh, approvals, ?_, rfl, ?_, ?_⟩
    · simpa using short
    · simp [Keeper.executeRevocation, Keeper.setRevocationState, TrustedMeasurementRegistration.key]
    · simp [Keeper.executeRevocation, Keeper.setRevocationState]

theorem append_ok {keeperAuthority authority : String}
    (ok : k.appendTrustedMeasurementByAuthority keeperAuthority authority platform
      measurementHex = .ok after) :
    trimSpace authority = keeperAuthority ∧
      ∃ registration, normalizedRegistration platform measurementHex = some registration ∧
        after.trustedMeasurementRevocations = k.trustedMeasurementRevocations ∧
        after.registeredMeasurements = insert registration.key k.registeredMeasurements ∧
        after.registeredPCR0Set = if registration.platform = nitroPlatformPrefix then
            insert registration.measurementHex k.registeredPCR0Set
          else k.registeredPCR0Set := by
  simp only [Keeper.appendTrustedMeasurementByAuthority, bind_eq_ok, throw_bind,
    ite_error_eq_ok, pure_eq_ok] at ok
  obtain ⟨authorized, p, canonical, m, normal, rfl⟩ := ok
  exact ⟨not_not.mp authorized, ⟨p, m⟩, normalizedRegistration_eq_some.mpr ⟨canonical, normal⟩,
    rfl, rfl, rfl⟩

variable {validatorAddr : String}

theorem registerValidatorMeasurement_ok
    (ok : k.registerValidatorMeasurement validatorAddr platform measurementHex = .ok after) :
    validatorAddr ≠ "" ∧
      ∃ registration, normalizedRegistration platform measurementHex = some registration ∧
        after = k.setMeasurement validatorAddr registration.platform
          registration.measurementHex := by
  simp only [Keeper.registerValidatorMeasurement, bind_eq_ok, throw_bind,
    ite_error_eq_ok, pure_eq_ok] at ok
  obtain ⟨named, p, canonical, m, normal, rfl⟩ := ok
  exact ⟨named, ⟨p, m⟩, normalizedRegistration_eq_some.mpr ⟨canonical, normal⟩, rfl⟩

theorem registerValidatorPCR0_ok {validatorAddr pcr0Hex : String}
    (ok : k.registerValidatorPCR0 validatorAddr pcr0Hex = .ok after) :
    validatorAddr ≠ "" ∧
      ∃ registration, normalizedRegistration nitroPlatformPrefix pcr0Hex = some registration ∧
        after.trustedMeasurementRevocations = k.trustedMeasurementRevocations ∧
        after.registeredMeasurements = insert registration.key k.registeredMeasurements ∧
        after.registeredPCR0Set = insert registration.measurementHex k.registeredPCR0Set := by
  simp only [Keeper.registerValidatorPCR0, bind_eq_ok, pure_eq_ok] at ok
  obtain ⟨registered, measured, m, normal, rfl⟩ := ok
  obtain ⟨named, registration, normalRegistration, rfl⟩ := registerValidatorMeasurement_ok measured
  have same : m = registration.measurementHex := by
    have other := (normalizedRegistration_eq_some.mp normalRegistration).2
    rw [normal, ok.injEq] at other
    exact other
  subst same
  exact ⟨named, registration, normalRegistration, rfl, rfl, rfl⟩

/-- Registering measurements touches no revocation. -/
theorem registerAll_ok {declared : List TrustedMeasurementRegistration}
    (ok : declared.foldlM (fun k registration => k.registerValidatorMeasurement validatorAddr
      registration.platform registration.measurementHex) k = .ok after) :
    after.trustedMeasurementRevocations = k.trustedMeasurementRevocations ∧
      after.registeredPCR0Set = k.registeredPCR0Set ∧
      ∀ key, key ∈ after.registeredMeasurements ↔ key ∈ k.registeredMeasurements ∨
        ∃ registration ∈ declared.filterMap fun entry =>
          normalizedRegistration entry.platform entry.measurementHex, registration.key = key := by
  induction declared generalizing k with
  | nil =>
    cases ok
    simp
  | cons entry rest ih =>
    rw [List.foldlM_cons, bind_eq_ok] at ok
    obtain ⟨next, first, ok⟩ := ok
    obtain ⟨-, registration, normal, rfl⟩ := registerValidatorMeasurement_ok first
    obtain ⟨revocations, pcr0, registered⟩ := ih ok
    refine ⟨revocations, pcr0, fun key => ?_⟩
    rw [registered key]
    simp only [Keeper.setMeasurement, Finset.mem_insert, List.filterMap_cons, normal,
      List.mem_cons, exists_eq_or_imp]
    rw [show measurementRegistryKey registration.platform registration.measurementHex =
      registration.key from rfl]
    grind

theorem registerValidatorCapability_ok {cap : ValidatorCapability}
    (ok : k.registerValidatorCapability codec ctx cap = .ok after) :
    cap.address ≠ "" ∧ hasMinimumValidatorStake codec ctx.validators cap.address = true ∧
      after.trustedMeasurementRevocations = k.trustedMeasurementRevocations ∧
      after.registeredPCR0Set = k.registeredPCR0Set ∧
      ∀ key, key ∈ after.registeredMeasurements ↔ key ∈ k.registeredMeasurements ∨
        ∃ registration ∈ (extractTEETrustedMeasurementsFromPlatforms cap.teePlatforms).filterMap
          fun entry => normalizedRegistration entry.platform entry.measurementHex,
          registration.key = key := by
  simp only [Keeper.registerValidatorCapability, bind_eq_ok, throw_bind,
    ite_error_eq_ok, pure_eq_ok] at ok
  obtain ⟨named, staked, registered, measured, rfl⟩ := ok
  obtain ⟨revocations, pcr0, keys⟩ := registerAll_ok measured
  exact ⟨named, by simpa using staked, revocations, pcr0, keys⟩

theorem validateTEEAttestationMeasurement_ok {measurement : Bytes} {accepted : Unit}
    (ok : k.validateTEEAttestationMeasurement validatorAddr platform measurement = .ok accepted) :
    ∃ name, canonicalizePlatform platform = .ok name ∧
      measurementRegistryKey name (toLower (Hex.encodeToString measurement)) ∈
        k.registeredMeasurements ∧
      k.validatorMeasurements.lookup (validatorMeasurementKey validatorAddr name) =
        some (toLower (Hex.encodeToString measurement)) := by
  simp only [Keeper.validateTEEAttestationMeasurement, bind_eq_ok, throw_bind,
    ite_error_eq_ok] at ok
  obtain ⟨-, name, canonical, -, registered, bound⟩ := ok
  refine ⟨name, canonical, not_not.mp registered, ?_⟩
  cases found : k.validatorMeasurements.lookup (validatorMeasurementKey validatorAddr name) with
  | none => simp [found, throw, throwThe, MonadExceptOf.throw] at bound
  | some expected =>
    by_cases same : expected = toLower (Hex.encodeToString measurement)
    · rw [same]
    · simp [found, same, throw, throwThe, MonadExceptOf.throw] at bound

end Aethelred.Pouw
