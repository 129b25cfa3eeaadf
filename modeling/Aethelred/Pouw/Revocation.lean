import Aethelred.Pouw.AttestationRegistry
import Aethelred.Lib.Run

/- Runs of the measurement registry: who approved what, and what stays withdrawn. -/
namespace Aethelred.Pouw

open Go Go.Strings

/-- What changes the registry of measurements. -/
inductive RegistryCall where
  | registerValidatorCapability (ctx : BlockContext) (cap : ValidatorCapability)
  | registerValidatorPCR0 (validatorAddr pcr0Hex : String)
  | appendTrustedMeasurementByAuthority (authority platform measurementHex : String)
  | revokeTrustedMeasurementBySecurityCommittee (ctx : BlockContext)
      (requester platform measurementHex : String)

variable (codec : AddressCodec)

def RegistryCall.apply (keeperAuthority : String) (k : Keeper) :
    RegistryCall → Except RegistryError Keeper
  | .registerValidatorCapability ctx cap => k.registerValidatorCapability codec ctx cap
  | .registerValidatorPCR0 validatorAddr pcr0Hex => k.registerValidatorPCR0 validatorAddr pcr0Hex
  | .appendTrustedMeasurementByAuthority authority platform measurementHex =>
    k.appendTrustedMeasurementByAuthority keeperAuthority authority platform measurementHex
  | .revokeTrustedMeasurementBySecurityCommittee ctx requester platform measurementHex =>
    k.revokeTrustedMeasurementBySecurityCommittee codec ctx requester platform measurementHex

/-- One accepted approval: the block it was given in and the address it was given under. -/
structure Approval where
  ctx : BlockContext
  requester : String

def Approval.members (approval : Approval) : List StakingValidator :=
  match securityCommitteeMembers approval.ctx.validators with
  | .ok committee => committee.filter (isRequesterMatchValidator codec approval.requester)
  | .error _ => []

/-- Two bonded validators have approved. -/
def TwoApprovers (approvals : List Approval) : Prop :=
  ∃ first ∈ approvals, ∃ second ∈ approvals,
    ∃ v ∈ first.members codec, ∃ w ∈ second.members codec,
      v.status = .bonded ∧ w.status = .bonded ∧ v.operator ≠ w.operator

instance (approvals : List Approval) :
    Decidable (TwoApprovers codec approvals) :=
  inferInstanceAs (Decidable (∃ first ∈ approvals, ∃ second ∈ approvals,
    ∃ v ∈ first.members codec, ∃ w ∈ second.members codec,
      v.status = .bonded ∧ w.status = .bonded ∧ v.operator ≠ w.operator))

/-- The registry with, for each key, the approvals its latest request was given. -/
structure RegistryHistory where
  keeper : Keeper
  approvals : String → List Approval

namespace RegistryHistory

def start (k : Keeper) : RegistryHistory := ⟨k, fun _ => []⟩

def openApprovals (h : RegistryHistory) (key : String) : List Approval :=
  match openRequest (h.keeper.trustedMeasurementRevocations.lookup key) with
  | some _ => h.approvals key
  | none => []

def recorded (h : RegistryHistory) : RegistryCall → String → List Approval
  | .revokeTrustedMeasurementBySecurityCommittee ctx requester platform measurementHex, key =>
    match normalizedRegistration platform measurementHex with
    | some registration =>
      if key = registration.key then
        h.openApprovals key ++ [⟨ctx, normalizeCommitteeAddress requester⟩]
      else h.approvals key
    | none => h.approvals key
  | _, key => h.approvals key

def step (codec : AddressCodec) (keeperAuthority : String) (h : RegistryHistory)
    (call : RegistryCall) : RegistryHistory :=
  match call.apply codec keeperAuthority h.keeper with
  | .ok k => ⟨k, h.recorded call⟩
  | .error _ => h

end RegistryHistory

/-- The request at a key has been executed and the key is in neither registry. -/
def Keeper.Withdrawn (k : Keeper) (registration : TrustedMeasurementRegistration) : Prop :=
  (∃ state ∈ k.trustedMeasurementRevocations.lookup registration.key, state.status = .executed) ∧
    registration.key ∉ k.registeredMeasurements ∧
    (registration.platform = nitroPlatformPrefix →
      registration.measurementHex ∉ k.registeredPCR0Set)

instance (k : Keeper) (registration : TrustedMeasurementRegistration) :
    Decidable (k.Withdrawn registration) :=
  inferInstanceAs (Decidable (_ ∧ _ ∧ (_ → _)))

namespace RegistryCall

variable (codec : AddressCodec)

def registrations : RegistryCall → List TrustedMeasurementRegistration
  | .registerValidatorCapability ctx cap =>
    if cap.address ≠ "" ∧ hasMinimumValidatorStake codec ctx.validators cap.address then
      (extractTEETrustedMeasurementsFromPlatforms cap.teePlatforms).filterMap fun declared =>
        normalizedRegistration declared.platform declared.measurementHex
    else []
  | .registerValidatorPCR0 validatorAddr pcr0Hex =>
    if validatorAddr ≠ "" then (normalizedRegistration nitroPlatformPrefix pcr0Hex).toList else []
  | _ => []

variable (keeperAuthority : String)

def Appends (registration : TrustedMeasurementRegistration) :
    RegistryCall → Prop
  | .appendTrustedMeasurementByAuthority authority platform measurementHex =>
    trimSpace authority = keeperAuthority ∧
      normalizedRegistration platform measurementHex = some registration
  | _ => False

variable (k : Keeper)

/-- The caller is a committee member whose approval is recorded under another spelling. -/
def Respelled : RegistryCall → Prop
  | .revokeTrustedMeasurementBySecurityCommittee ctx requester platform measurementHex =>
    let approval : Approval := ⟨ctx, normalizeCommitteeAddress requester⟩
    ∃ registration ∈ normalizedRegistration platform measurementHex,
      ∃ earlier ∈ openApprovers k registration.key, earlier ≠ approval.requester ∧
        ∃ member ∈ approval.members codec, isRequesterMatchValidator codec earlier member
  | _ => False

instance : (call : RegistryCall) →
    Decidable (call.Respelled codec k)
  | .revokeTrustedMeasurementBySecurityCommittee _ _ _ _ =>
    inferInstanceAs (Decidable (∃ _ ∈ _, ∃ _ ∈ _, _ ∧ ∃ _ ∈ _, _))
  | .registerValidatorCapability _ _ => .isFalse id
  | .registerValidatorPCR0 _ _ => .isFalse id
  | .appendTrustedMeasurementByAuthority _ _ _ => .isFalse id

/-- No second spelling of an approver, and no registration of a withdrawn measurement. -/
structure Guarded (codec : AddressCodec) (k : Keeper) (call : RegistryCall) : Prop where
  oneSpelling : ¬call.Respelled codec k
  notWithdrawn : ∀ registration ∈ call.registrations codec, ¬k.Withdrawn registration

instance (call : RegistryCall) :
    Decidable (call.Guarded codec k) :=
  decidable_of_iff (¬call.Respelled codec k ∧
      ∀ registration ∈ call.registrations codec, ¬k.Withdrawn registration)
    ⟨fun both => ⟨both.1, both.2⟩, fun guarded => ⟨guarded.oneSpelling, guarded.notWithdrawn⟩⟩

def Executes (registration : TrustedMeasurementRegistration) : RegistryCall → Prop
  | .revokeTrustedMeasurementBySecurityCommittee ctx requester platform measurementHex =>
    normalizedRegistration platform measurementHex = some registration ∧
      ∃ after ∈ ((RegistryCall.revokeTrustedMeasurementBySecurityCommittee ctx requester platform
          measurementHex).apply codec keeperAuthority k).toOption,
        ∃ state ∈ after.trustedMeasurementRevocations.lookup registration.key,
          state.status = .executed
  | _ => False

instance
    (registration : TrustedMeasurementRegistration) : (call : RegistryCall) →
    Decidable (call.Executes codec keeperAuthority k registration)
  | .revokeTrustedMeasurementBySecurityCommittee _ _ _ _ =>
    inferInstanceAs (Decidable (_ ∧ ∃ _ ∈ _, ∃ _ ∈ _, _))
  | .registerValidatorCapability _ _ => .isFalse id
  | .registerValidatorPCR0 _ _ => .isFalse id
  | .appendTrustedMeasurementByAuthority _ _ _ => .isFalse id

end RegistryCall

/-- Every executed request was approved by two bonded committee members. -/
def RegistryHistory.TwiceApproved (codec : AddressCodec) (h : RegistryHistory) : Prop :=
  ∀ key, ∀ state ∈ h.keeper.trustedMeasurementRevocations.lookup key,
    state.status = .executed → TwoApprovers codec (h.approvals key)

/-- No attestation with the measurement is accepted. -/
def Keeper.Rejects (k : Keeper) (registration : TrustedMeasurementRegistration) : Prop :=
  ∀ validatorAddr platform measurement,
    canonicalizePlatform platform = .ok registration.platform →
    toLower (Hex.encodeToString measurement) = registration.measurementHex →
    ∃ reason, k.validateTEEAttestationMeasurement validatorAddr platform measurement = .error reason

/-- The two halves of the revocation rule, over one run of calls. -/
def RevocationRule (codec : AddressCodec) (keeperAuthority : String) (k : Keeper)
    (calls : List RegistryCall) : Prop :=
  let reached := Run.exec (RegistryHistory.step codec keeperAuthority) (RegistryHistory.start k)
  (reached calls).TwiceApproved codec ∧
    ∀ before call after registration, calls = before ++ call :: after →
      call.Executes codec keeperAuthority (reached before).keeper registration →
      (∀ later ∈ after, ¬later.Appends keeperAuthority registration) →
      (reached calls).keeper.Rejects registration

section Quorum

variable {codec : AddressCodec} {keeperAuthority : String}

theorem isRequesterMatchValidator_operator {requester : String} {v w : StakingValidator}
    (same : v.operator = w.operator) :
    isRequesterMatchValidator codec requester v = isRequesterMatchValidator codec requester w := by
  simp only [isRequesterMatchValidator, same]

variable {member : StakingValidator}

variable {approval : Approval}

theorem Approval.mem_members :
    member ∈ approval.members codec ↔
      ∃ committee, securityCommitteeMembers approval.ctx.validators = .ok committee ∧
        member ∈ committee ∧ isRequesterMatchValidator codec approval.requester member = true := by
  unfold Approval.members
  cases securityCommitteeMembers approval.ctx.validators with
  | error reason => simp
  | ok committee => simp

theorem Approval.members_bonded
    (present : member ∈ approval.members codec) : member.status = .bonded := by
  obtain ⟨committee, members, belongs, -⟩ := Approval.mem_members.mp present
  exact (securityCommitteeMembers_bonded members member belongs).2

/-- The recorded approvals are the calls', and two of them stand for two validators. -/
structure Backed (codec : AddressCodec) (state : TrustedMeasurementRevocationState)
    (approvals : List Approval) : Prop where
  recorded : state.approvals = approvals.map Approval.requester
  given : ∀ approval ∈ approvals, ∃ member, member ∈ approval.members codec
  quorum : minEmergencyRevocationApprovals ≤ approvals.length → TwoApprovers codec approvals
  executed : state.status = .executed → minEmergencyRevocationApprovals ≤ approvals.length

/-- Every revocation rests on the approvals made for it. -/
def RegistryHistory.AllBacked (codec : AddressCodec) (h : RegistryHistory) : Prop :=
  ∀ key, ∀ state ∈ h.keeper.trustedMeasurementRevocations.lookup key,
    Backed codec state (h.approvals key)

variable {h : RegistryHistory}

theorem RegistryHistory.AllBacked.twiceApproved (backed : h.AllBacked codec) :
    h.TwiceApproved codec := by
  intro key state stored executed
  exact (backed key state stored).quorum ((backed key state stored).executed executed)

theorem RegistryHistory.AllBacked.openApprovals (backed : h.AllBacked codec) (key : String) :
    openApprovers h.keeper key = (h.openApprovals key).map Approval.requester ∧
      ∀ approval ∈ h.openApprovals key, ∃ member, member ∈ approval.members codec := by
  unfold openApprovers RegistryHistory.openApprovals
  cases found : openRequest (h.keeper.trustedMeasurementRevocations.lookup key) with
  | none => simp
  | some state =>
    have stored := backed key state (openRequest_pending found).1
    exact ⟨stored.recorded, stored.given⟩

theorem twoApprovers_concat {approvals : List Approval}
    (given : ∀ earlier ∈ approvals, ∃ member, member ∈ earlier.members codec)
    (present : member ∈ approval.members codec)
    (differ : ∀ earlier ∈ approvals, isRequesterMatchValidator codec earlier.requester member = false)
    (quorum : minEmergencyRevocationApprovals ≤ (approvals ++ [approval]).length) :
    TwoApprovers codec (approvals ++ [approval]) := by
  cases approvals with
  | nil => simp [minEmergencyRevocationApprovals] at quorum
  | cons first rest =>
    obtain ⟨v, approved⟩ := given first (by simp)
    refine ⟨first, by simp, approval, by simp, v, approved, member, present,
      Approval.members_bonded approved, Approval.members_bonded present, ?_⟩
    intro same
    have matches' := (Approval.mem_members.mp approved).choose_spec.2.2
    rw [isRequesterMatchValidator_operator same, differ first (by simp)] at matches'
    cases matches'

theorem RegistryCall.apply_revocations {k after : Keeper} {call : RegistryCall}
    (ok : call.apply codec keeperAuthority k = .ok after) :
    (∃ ctx requester platform measurementHex,
      call = .revokeTrustedMeasurementBySecurityCommittee ctx requester platform measurementHex) ∨
    after.trustedMeasurementRevocations = k.trustedMeasurementRevocations ∧
      ∀ h : RegistryHistory, h.recorded call = h.approvals := by
  cases call with
  | registerValidatorCapability ctx cap =>
    exact .inr ⟨(registerValidatorCapability_ok ok).2.2.1, fun h => rfl⟩
  | registerValidatorPCR0 validatorAddr pcr0Hex =>
    obtain ⟨-, -, -, same, -⟩ := registerValidatorPCR0_ok ok
    exact .inr ⟨same, fun h => rfl⟩
  | appendTrustedMeasurementByAuthority authority platform measurementHex =>
    obtain ⟨-, -, -, same, -⟩ := append_ok ok
    exact .inr ⟨same, fun h => rfl⟩
  | revokeTrustedMeasurementBySecurityCommittee ctx requester platform measurementHex =>
    exact .inl ⟨ctx, requester, platform, measurementHex, rfl⟩

theorem Approved.member_of_approval {ctx : BlockContext} {requester : String}
    {registration : TrustedMeasurementRegistration} {k after : Keeper}
    {state : TrustedMeasurementRevocationState}
    (approved : Approved codec ctx requester registration k after state) :
    ∃ member, member ∈ (Approval.mk ctx requester).members codec := by
  obtain ⟨committee, members, contains⟩ := approved.member
  obtain ⟨member, belongs, matched⟩ := List.any_eq_true.mp contains
  exact ⟨member, Approval.mem_members.mpr ⟨committee, members, belongs, matched⟩⟩

/-- An approved revocation rests on two approvals for it. -/
theorem Approved.backed {ctx : BlockContext} {requester platform measurementHex : String}
    {registration : TrustedMeasurementRegistration} {after : Keeper}
    {state : TrustedMeasurementRevocationState} (backed : h.AllBacked codec)
    (normal : normalizedRegistration platform measurementHex = some registration)
    (single : ¬(RegistryCall.revokeTrustedMeasurementBySecurityCommittee ctx requester platform
      measurementHex).Respelled codec h.keeper)
    (approved : Approved codec ctx (normalizeCommitteeAddress requester) registration h.keeper after
      state) :
    Backed codec state
      (h.openApprovals registration.key ++ [⟨ctx, normalizeCommitteeAddress requester⟩]) := by
  obtain ⟨stored, given⟩ := backed.openApprovals registration.key
  obtain ⟨member, present⟩ := approved.member_of_approval
  have recorded : state.approvals = (h.openApprovals registration.key ++
      [Approval.mk ctx (normalizeCommitteeAddress requester)]).map Approval.requester := by
    rw [approved.approvals, stored, List.map_append, List.map_singleton]
  refine ⟨recorded, ?_, ?_, ?_⟩
  · intro approval belongs
    rcases List.mem_append.mp belongs with earlier | last
    · exact given approval earlier
    · rw [List.mem_singleton.mp last]
      exact ⟨member, present⟩
  · refine twoApprovers_concat given present fun earlier belongs => ?_
    have listed : earlier.requester ∈ openApprovers h.keeper registration.key := by
      rw [stored]
      exact List.mem_map_of_mem belongs
    rw [Bool.eq_false_iff]
    intro matched
    apply single
    refine ⟨registration, normal, earlier.requester, listed, ?_, member, present, matched⟩
    intro same
    rw [same] at listed
    exact approved.fresh listed
  · intro executed
    have enough := approved.executed.mp executed
    rwa [recorded, List.length_map] at enough

theorem RegistryHistory.AllBacked.step {call : RegistryCall} (guarded : call.Guarded codec h.keeper)
    (backed : h.AllBacked codec) : (h.step codec keeperAuthority call).AllBacked codec := by
  unfold RegistryHistory.step
  cases ok : call.apply codec keeperAuthority h.keeper with
  | error reason => exact backed
  | ok after =>
    rcases RegistryCall.apply_revocations ok with
      ⟨ctx, requester, platform, measurementHex, rfl⟩ | ⟨same, unrecorded⟩
    · obtain ⟨registration, state, normal, approved⟩ := revoke_ok ok
      have entry := approved.backed backed normal guarded.oneSpelling
      intro key found stored
      simp only [approved.revocations, Map.lookup_insert_eq, Option.mem_def] at stored
      simp only [RegistryHistory.recorded, normal]
      by_cases here : key = registration.key
      · rw [if_pos here, Option.some.injEq] at stored
        rw [if_pos here, here, ← stored]
        exact entry
      · rw [if_neg here] at stored ⊢
        exact backed key found stored
    · intro key found stored
      rw [unrecorded]
      simp only [same] at stored
      exact backed key found stored

end Quorum

end Aethelred.Pouw
