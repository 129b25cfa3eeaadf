import Aethelred.Pouw.Revocation

/- An executed revocation stays in force, and the rule over whole runs. -/
namespace Aethelred.Pouw

open Go Go.Strings List Finset RegistryHistory

section Withdrawal

variable {codec : AddressCodec} {keeperAuthority : String}
  {registration : TrustedMeasurementRegistration}

theorem Keeper.Withdrawn.rejects {k : Keeper} (withdrawn : k.Withdrawn registration) :
    k.Rejects registration := by
  intro validatorAddr platform measurement canonical encoded
  cases outcome : k.validateTEEAttestationMeasurement validatorAddr platform measurement with
  | error reason => exact ⟨reason, rfl⟩
  | ok accepted =>
    obtain ⟨p, canonical', present, -⟩ := validateTEEAttestationMeasurement_ok outcome
    rw [canonical, Except.ok.injEq] at canonical'
    rw [encoded, ← canonical'] at present
    exact absurd present withdrawn.2.1

variable {k after : Keeper}

theorem Keeper.Withdrawn.of_register (withdrawn : k.Withdrawn registration)
    (revocations : after.trustedMeasurementRevocations = k.trustedMeasurementRevocations)
    (absent : registration.key ∉ after.registeredMeasurements)
    (pcr0 : registration.platform = nitroPlatformPrefix →
      registration.measurementHex ∉ after.registeredPCR0Set) : after.Withdrawn registration := by
  refine ⟨?_, absent, pcr0⟩
  rw [revocations]
  exact withdrawn.1

theorem Keeper.Withdrawn.capability {ctx : BlockContext}
    {cap : ValidatorCapability} (normal : registration.Normal) (withdrawn : k.Withdrawn registration)
    (guarded : (RegistryCall.registerValidatorCapability ctx cap).Guarded codec k)
    (ok : k.registerValidatorCapability codec ctx cap = .ok after) :
    after.Withdrawn registration := by
  obtain ⟨named, staked, revocations, pcr0, keys⟩ := registerValidatorCapability_ok ok
  refine withdrawn.of_register revocations ?_ (pcr0 ▸ withdrawn.2.2)
  rw [keys]
  rintro (before | ⟨other, declared, same⟩)
  · exact withdrawn.2.1 before
  · obtain ⟨entry, -, otherNormal⟩ := mem_filterMap.mp declared
    have equal := key_injective ⟨_, _, otherNormal⟩ normal same
    refine guarded.notWithdrawn other ?_ (equal ▸ withdrawn)
    simpa only [RegistryCall.registrations, ne_eq, named, not_false_eq_true, staked, and_self,
      ↓reduceIte] using declared

/-- No guarded PCR0 registration brings the measurement back. -/
theorem Keeper.Withdrawn.pcr0 {validatorAddr pcr0Hex : String}
    (normal : registration.Normal) (withdrawn : k.Withdrawn registration)
    (guarded : (RegistryCall.registerValidatorPCR0 validatorAddr pcr0Hex).Guarded codec k)
    (ok : k.registerValidatorPCR0 validatorAddr pcr0Hex = .ok after) :
    after.Withdrawn registration := by
  obtain ⟨named, other, otherNormal, revocations, measurements, pcr0⟩ := registerValidatorPCR0_ok ok
  have differ : registration ≠ other := by
    rintro rfl
    exact guarded.notWithdrawn registration
      (by simp [RegistryCall.registrations, named, otherNormal]) withdrawn
  refine withdrawn.of_register revocations ?_ fun nitro => ?_
  · rw [measurements, mem_insert]
    rintro (same | before)
    · exact differ (key_injective normal ⟨_, _, otherNormal⟩ same)
    · exact withdrawn.2.1 before
  · rw [pcr0, mem_insert]
    rintro (same | before)
    · apply differ
      have nitroOther : other.platform = nitroPlatformPrefix := by
        have canonical := (normalizedRegistration_eq_some.mp otherNormal).1
        rw [show canonicalizePlatform nitroPlatformPrefix = .ok nitroPlatformPrefix by decide,
          Except.ok.injEq] at canonical
        exact canonical.symm
      exact TrustedMeasurementRegistration.ext (nitro.trans nitroOther.symm) same
    · exact withdrawn.2.2 nitro before

theorem Keeper.Withdrawn.append {authority platform measurementHex : String}
    (normal : registration.Normal) (withdrawn : k.Withdrawn registration)
    (other : ¬(RegistryCall.appendTrustedMeasurementByAuthority authority platform
      measurementHex).Appends keeperAuthority registration)
    (ok : k.appendTrustedMeasurementByAuthority keeperAuthority authority platform measurementHex =
      .ok after) : after.Withdrawn registration := by
  obtain ⟨authorized, appended, appendedNormal, revocations, measurements, pcr0⟩ := append_ok ok
  have differ : registration ≠ appended := by
    rintro rfl
    exact other ⟨authorized, appendedNormal⟩
  refine withdrawn.of_register revocations ?_ fun nitro => ?_
  · rw [measurements, mem_insert]
    rintro (same | before)
    · exact differ (key_injective normal ⟨_, _, appendedNormal⟩ same)
    · exact withdrawn.2.1 before
  · rw [pcr0]
    split
    · rename_i nitroAppended
      rw [mem_insert]
      rintro (same | before)
      · exact differ (TrustedMeasurementRegistration.ext (nitro.trans nitroAppended.symm) same)
      · exact withdrawn.2.2 nitro before
    · exact withdrawn.2.2 nitro

theorem Keeper.Withdrawn.approval {ctx : BlockContext} {requester : String}
    {other : TrustedMeasurementRegistration} {state : TrustedMeasurementRevocationState}
    (normal : registration.Normal) (otherNormal : other.Normal)
    (withdrawn : k.Withdrawn registration)
    (approved : Approved codec ctx requester other k after state) :
    after.Withdrawn registration := by
  have differ : registration.key ≠ other.key := by
    intro same
    obtain rfl := key_injective normal otherNormal same
    rcases approved.registered with registered | ⟨nitro, registered⟩
    · exact withdrawn.2.1 registered
    · exact withdrawn.2.2 nitro registered
  refine ⟨?_, ?_, fun nitro => ?_⟩
  · rw [approved.revocations, AList.lookup_insert_ne differ]
    exact withdrawn.1
  · rw [approved.measurements]
    split
    · exact fun present => withdrawn.2.1 (mem_of_mem_erase present)
    · exact withdrawn.2.1
  · rw [approved.pcr0]
    split
    · exact fun present => withdrawn.2.2 nitro (mem_of_mem_erase present)
    · exact withdrawn.2.2 nitro

variable {h : RegistryHistory}

theorem Keeper.Withdrawn.step {call : RegistryCall} (normal : registration.Normal)
    (guarded : call.Guarded codec h.keeper) (other : ¬call.Appends keeperAuthority registration)
    (withdrawn : h.keeper.Withdrawn registration) :
    (h.step codec keeperAuthority call).keeper.Withdrawn registration := by
  unfold RegistryHistory.step
  cases ok : call.apply codec keeperAuthority h.keeper with
  | error reason => exact withdrawn
  | ok after =>
    cases call with
    | registerValidatorCapability ctx cap => exact withdrawn.capability normal guarded ok
    | registerValidatorPCR0 validatorAddr pcr0Hex => exact withdrawn.pcr0 normal guarded ok
    | appendTrustedMeasurementByAuthority authority platform measurementHex =>
      exact withdrawn.append normal other ok
    | revokeTrustedMeasurementBySecurityCommittee ctx requester platform measurementHex =>
      obtain ⟨revoked, state, revokedNormal, approved⟩ := revoke_ok ok
      exact withdrawn.approval normal ⟨_, _, revokedNormal⟩ approved

theorem Keeper.Withdrawn.run {calls : List RegistryCall} (normal : registration.Normal)
    (guarded : Run.Along (RegistryHistory.step codec keeperAuthority)
      (fun h call => call.Guarded codec h.keeper) h calls)
    (silent : ∀ call ∈ calls, ¬call.Appends keeperAuthority registration)
    (withdrawn : h.keeper.Withdrawn registration) :
    (Run.exec (RegistryHistory.step codec keeperAuthority) h calls).keeper.Withdrawn
      registration := by
  induction calls generalizing h with
  | nil => exact withdrawn
  | cons call rest ih =>
    exact ih guarded.2 (fun later member => silent later (mem_cons_of_mem _ member))
      (withdrawn.step normal guarded.1 (silent call (mem_cons_self ..)))

theorem RegistryCall.Executes.withdrawn {call : RegistryCall}
    (executes : call.Executes codec keeperAuthority h.keeper registration) :
    registration.Normal ∧ (h.step codec keeperAuthority call).keeper.Withdrawn registration := by
  cases call with
  | revokeTrustedMeasurementBySecurityCommittee ctx requester platform measurementHex =>
    obtain ⟨normal, after, ok, state, stored, executed⟩ := executes
    have ok := Except.toOption_eq_some.mp ok
    refine ⟨⟨_, _, normal⟩, ?_⟩
    obtain ⟨revoked, written, revokedNormal, approved⟩ := revoke_ok ok
    rw [normal, Option.some.injEq] at revokedNormal
    subst revokedNormal
    rw [approved.revocations, AList.lookup_insert, Option.mem_def, Option.some.injEq] at stored
    subst stored
    simp only [step, ok]
    refine ⟨⟨written, ?_, executed⟩, ?_, fun nitro => ?_⟩
    · rw [approved.revocations, AList.lookup_insert, Option.mem_def]
    · rw [approved.measurements, if_pos executed]
      exact notMem_erase _ _
    · rw [approved.pcr0, if_pos ⟨executed, nitro⟩]
      exact notMem_erase _ _
  | registerValidatorCapability ctx cap => exact executes.elim
  | registerValidatorPCR0 validatorAddr pcr0Hex => exact executes.elim
  | appendTrustedMeasurementByAuthority authority platform measurementHex => exact executes.elim

end Withdrawal

/-- Runs in which no approver is respelled and nothing withdrawn is registered obey both halves. -/
theorem revocationRule_of_guarded (codec : AddressCodec) (keeperAuthority : String) (k : Keeper)
    (calls : List RegistryCall) (noRequests : k.trustedMeasurementRevocations = ∅)
    (guarded : Run.Along (step codec keeperAuthority)
      (fun h call => call.Guarded codec h.keeper) (start k) calls) :
    RevocationRule codec keeperAuthority k calls := by
  constructor
  · refine (Run.invariant (AllBacked codec) ?_ ?_ guarded).twiceApproved
    · intro h call good backed
      exact backed.step good
    · intro key state stored
      simp [start, noRequests] at stored
  · intro before call after registration split executes silent
    subst split
    obtain ⟨-, -, later⟩ := (Run.along_append _ before (call :: after)).mp guarded
    obtain ⟨normal, withdrawn⟩ := executes.withdrawn
    rw [Run.exec_append, Run.exec_cons]
    exact (Keeper.Withdrawn.run normal later silent withdrawn).rejects

/- Two validators with their account and operator addresses. -/
namespace TwoValidators

def firstOperator : String := "aethelvaloper1qyqszqgpqyqszqgpqyqszqgpqyqszqgp2fkyuv"
def firstAccount : String := "aethel1qyqszqgpqyqszqgpqyqszqgpqyqszqgpmck7ne"
def secondOperator : String := "aethelvaloper1qgpqyqszqgpqyqszqgpqyqszqgpqyqszmdsph6"
def secondAccount : String := "aethel1qgpqyqszqgpqyqszqgpqyqszqgpqyqsz2usmc0"

def trustedHex : String := "1111111111111111111111111111111111111111111111111111111111111111"

def codec : AddressCodec where
  accAddressFromBech32 address :=
    if address = firstAccount then some (replicate 20 1)
    else if address = secondAccount then some (replicate 20 2)
    else none
  valAddressFromBech32 address :=
    if address = firstOperator then some (replicate 20 1)
    else if address = secondOperator then some (replicate 20 2)
    else none
  accAddressString bytes :=
    if bytes = replicate 20 1 then firstAccount
    else if bytes = replicate 20 2 then secondAccount
    else ""

def ctx : BlockContext where
  height := 10
  validators := [⟨firstOperator, .bonded, 200000000000⟩, ⟨secondOperator, .bonded, 100000000000⟩]

def registered : RegistryCall := .registerValidatorPCR0 firstOperator trustedHex

def approvedAs (requester : String) : RegistryCall :=
  .revokeTrustedMeasurementBySecurityCommittee ctx requester "aws-nitro" trustedHex

def reached (calls : List RegistryCall) : RegistryHistory :=
  Run.exec (step codec "gov") (start {}) calls

end TwoValidators

open TwoValidators in
/-- One validator approves as operator and as account; and a revoked measurement comes back. -/
theorem revocationRule_fails :
    ¬RevocationRule codec "gov" {} [registered, approvedAs firstOperator, approvedAs firstAccount] ∧
      ¬RevocationRule codec "gov" {}
        [registered, approvedAs firstOperator, approvedAs secondOperator, registered] := by
  constructor
  · rintro ⟨twice, -⟩
    have outcome : (∃ state ∈ (reached [registered, approvedAs firstOperator,
          approvedAs firstAccount]).keeper.trustedMeasurementRevocations.lookup
            (measurementRegistryKey "aws-nitro" trustedHex), state.status = .executed) ∧
        ¬TwoApprovers codec ((reached [registered, approvedAs firstOperator,
          approvedAs firstAccount]).approvals (measurementRegistryKey "aws-nitro" trustedHex)) := by
      decide +kernel
    obtain ⟨⟨state, stored, executed⟩, single⟩ := outcome
    exact single (twice _ state stored executed)
  · rintro ⟨-, rejected⟩
    have outcome : (approvedAs secondOperator).Executes codec "gov"
          (reached [registered, approvedAs firstOperator]).keeper ⟨"aws-nitro", trustedHex⟩ ∧
        toLower (Hex.encodeToString (replicate 32 0x11)) = trustedHex ∧
        Except.isOk ((reached [registered, approvedAs firstOperator, approvedAs secondOperator,
          registered]).keeper.validateTEEAttestationMeasurement firstOperator "aws-nitro"
            (replicate 32 0x11)) = true := by
      decide +kernel
    obtain ⟨executes, encoded, accepted⟩ := outcome
    have silent : ∀ later ∈ [registered], ¬later.Appends "gov" ⟨"aws-nitro", trustedHex⟩ := by
      simp [registered, RegistryCall.Appends]
    have canonical : canonicalizePlatform "aws-nitro" = .ok "aws-nitro" := by decide
    obtain ⟨reason, refused⟩ := rejected _ _ _ _ rfl executes silent firstOperator "aws-nitro"
      (replicate 32 0x11) canonical encoded
    unfold reached at accepted
    rw [refused] at accepted
    cases accepted

open TwoValidators in
/-- Two validators approve, each under its operator address. -/
theorem revocationRule_two_operators :
    RevocationRule codec "gov" {} [registered, approvedAs firstOperator, approvedAs secondOperator] :=
  revocationRule_of_guarded codec "gov" {} _ rfl (by decide +kernel)

end Aethelred.Pouw
