import Aethelred.Vm.SettlementFailure

/- What a call whose proof does not pass verification leaves behind. Of a hybrid proof the
attestation is verified first, and counts as seen even when the other half then fails. -/
namespace Vm.World

open JobRegistry Attempt

variable {platform : Platform} {params : SubmitProofParams} {ctx : BlockContext} {world : World}
  {job : JobState} {proof : Proof} {registry : JobRegistry}

/-- The call gets as far as the verification of a TEE or ZK proof, and that fails. -/
structure Unverified (platform : Platform) (params : SubmitProofParams) (ctx : BlockContext)
    (world : World) (job : JobState) : Prop where
  found : world.registry.jobs.lookup params.jobId = some job
  assigned : job.assignedProver = some params.prover
  inTime : job.sla.isExpired ctx.timestamp = false
  allowed : allowProof world.registry.config params.proof job = .ok ()
  method : params.proof.method ≠ .ReExecution
  failed : (verifyProof platform params.proof job world.registry).1 ≠ .ok true

/-- The registry is as before, and what was a valid proof with the same attestation still is one. -/
structure Restored (platform : Platform) (proof : Proof) (job : JobState)
    (before after : JobRegistry) : Prop where
  registry : after = before
  again : ∀ corrected : Proof, corrected.method = proof.method →
    corrected.teeAttestation = proof.teeAttestation →
      (verifyProof platform corrected job before).1 = .ok true →
        (verifyProof platform corrected job after).1 = .ok true

/-- Both halves of a hybrid proof are there, and the attestation is valid. -/
def Spends (platform : Platform) (proof : Proof) (job : JobState) (registry : JobRegistry) : Prop :=
  proof.method = .Hybrid ∧ proof.zkProof.isSome ∧ ∃ attestation,
    proof.teeAttestation = some attestation ∧
      (verifyTeeAttestation platform attestation job registry).1 = .ok true

theorem verifyZkProof_ne_false (zkProof : ZkProof) :
    verifyZkProof platform registry zkProof job ≠ .ok false := by
  intro done
  have routed : ∀ outcome, verifyZkProof platform registry zkProof job = .ok outcome →
      verifyZkProofViaPrecompile platform registry zkProof job = .ok outcome := by
    intro outcome passed
    unfold verifyZkProof at passed
    simp only [bind, Except.bind, throw, throwThe, MonadExceptOf.throw] at passed
    grind
  have precompiled := routed false done
  unfold verifyZkProofViaPrecompile at precompiled
  obtain ⟨input, -, precompiled⟩ := Except.bind_eq_ok.mp precompiled
  obtain ⟨valid, -, precompiled⟩ := Except.bind_eq_ok.mp precompiled
  simp only [bind, Except.bind, throw, throwThe, MonadExceptOf.throw, pure,
    Except.pure] at precompiled
  grind

theorem verifyZkProof_refused {zkProof : ZkProof}
    (failed : verifyZkProof platform registry zkProof job ≠ .ok true) :
    ∃ reason, verifyZkProof platform registry zkProof job = .error reason := by
  cases outcome : verifyZkProof platform registry zkProof job with
  | error reason => exact ⟨reason, rfl⟩
  | ok valid =>
    cases valid with
    | false => exact absurd outcome (verifyZkProof_ne_false zkProof)
    | true => exact absurd outcome failed

theorem zkHalf_refused {zkProof : ZkProof}
    (failed : ((consult (fun registry => verifyZkProof platform registry zkProof job) >>=
      fun zkValid => pure (true && zkValid)) registry).1 ≠ .ok true) :
    ∃ reason, (consult (fun registry => verifyZkProof platform registry zkProof job) >>=
      fun zkValid => pure (true && zkValid)) registry = (.error reason, registry) := by
  have consulted : ∀ {outcome}, verifyZkProof platform registry zkProof job = outcome →
      consult (fun registry => verifyZkProof platform registry zkProof job) registry =
        (outcome, registry) := fun checked => Prod.ext checked rfl
  obtain ⟨reason, refused⟩ := verifyZkProof_refused fun valid =>
    failed (congrArg Prod.fst (bind_of_ok (consulted valid)))
  exact ⟨reason, bind_of_error (consulted refused)⟩

/-- A failed verification has spent the attestation or changed nothing. -/
theorem verifyProof_failed (method : proof.method ≠ .ReExecution)
    (failed : (verifyProof platform proof job registry).1 ≠ .ok true) :
    (¬Spends platform proof job registry ∧
      ∃ reason, verifyProof platform proof job registry = (.error reason, registry)) ∨
    Spends platform proof job registry ∧
      ∃ reason hash, verifyProof platform proof job registry = (.error reason, { registry with
        seenAttestationHashes := hash :: registry.seenAttestationHashes }) := by
  unfold verifyProof at failed ⊢
  cases chosen : proof.method with
  | TeeAttestation =>
    refine .inl ⟨fun spends => (nomatch chosen.symm.trans spends.1), ?_⟩
    rw [chosen] at failed
    cases given : proof.teeAttestation with
    | none => exact ⟨_, rfl⟩
    | some attestation =>
      rw [given] at failed
      exact (verifyTeeAttestation_cases platform attestation job registry).resolve_right
        fun passed => failed (congrArg Prod.fst passed.2)
  | ZkProof =>
    refine .inl ⟨fun spends => (nomatch chosen.symm.trans spends.1), ?_⟩
    rw [chosen] at failed
    cases given : proof.zkProof with
    | none => exact ⟨_, rfl⟩
    | some zkProof =>
      rw [given] at failed
      obtain ⟨reason, refused⟩ := verifyZkProof_refused failed
      exact ⟨reason, Prod.ext refused rfl⟩
  | Hybrid =>
    rw [chosen] at failed
    cases given : proof.teeAttestation with
    | none =>
      refine .inl ⟨?_, _, rfl⟩
      rintro ⟨-, -, _, present, -⟩
      exact nomatch given.symm.trans present
    | some attestation =>
      cases other : proof.zkProof with
      | none =>
        refine .inl ⟨?_, _, rfl⟩
        rintro ⟨-, present, -⟩
        rw [other] at present
        contradiction
      | some zkProof =>
        rw [given, other] at failed
        simp only [okOr_bind] at failed ⊢
        obtain ⟨reason, refused⟩ | ⟨-, passed⟩ :=
          verifyTeeAttestation_cases platform attestation job registry
        · refine .inl ⟨?_, reason, bind_of_error refused⟩
          rintro ⟨-, -, _, present, valid⟩
          obtain rfl := Option.some.inj (given.symm.trans present)
          rw [refused] at valid
          contradiction
        · rw [bind_of_ok passed] at failed ⊢
          refine .inr ⟨⟨chosen, by rw [other]; rfl, attestation, given,
            congrArg Prod.fst passed⟩, ?_⟩
          obtain ⟨reason, refused⟩ := zkHalf_refused failed
          exact ⟨reason, _, refused⟩
  | ReExecution => exact absurd chosen method

/-- A call that fails in verification changes nothing but, at most, what attestations are seen; it
leaves that and lets the attestation be sent again exactly if it does not spend one. -/
theorem submitProof_unverified_iff (unverified : Unverified platform params ctx world job) :
    ∃ reason after, submitProof platform params ctx world =
        some (.error reason, { world with registry := after }) ∧
      (Restored platform params.proof job world.registry after ↔
        ¬Spends platform params.proof job world.registry) := by
  have reaches : ∀ {reason after}, verifyProof platform params.proof job world.registry =
      (.error reason, after) → submitProof platform params ctx world =
        some (.error reason, { world with registry := after }) := by
    intro reason after checked
    unfold submitProof
    rw [unverified.found]
    dsimp only
    rw [if_neg (not_not.mpr unverified.assigned), if_neg (by rw [unverified.inTime]; exact nofun),
      unverified.allowed]
    dsimp only
    rw [onRegistry_of checked]
  obtain ⟨unspent, reason, checked⟩ | ⟨spends, reason, hash, checked⟩ :=
    verifyProof_failed unverified.method unverified.failed
  · exact ⟨reason, _, reaches checked, iff_of_true ⟨rfl, fun _ _ _ valid => valid⟩ unspent⟩
  · refine ⟨reason, _, reaches checked, iff_of_false (fun restored => ?_) (not_not.mpr spends)⟩
    have seen := congrArg (·.seenAttestationHashes.length) restored.registry
    exact Nat.succ_ne_self _ seen

/-- A world in which a job that needs a hybrid proof is assigned to account 2. -/
def hybridWorld : World :=
  Run.exec (step localPlatform) localWorld
    [.submitJob { localParams with verificationMethod := .Hybrid } localContext,
      .assignJob firstJob 2 localContext]

def hybridJob : JobState :=
  { assignedJob .devnet 1000 with verificationMethod := .Hybrid }

def hybridProof (timestamp : Nat) (bytes : List UInt8) : SubmitProofParams where
  jobId := firstJob
  prover := 2
  proof := {
    method := .Hybrid
    teeAttestation := some ⟨.AwsNitro, List.replicate 64 1, 5, timestamp⟩
    zkProof := some ⟨.Halo2, bytes, [5, 6], 9⟩
    outputHash := 7 }
  result := []

theorem submitProof_unverified_late :
    ∃ reason after, submitProof localPlatform (hybridProof 5000 []) localContext hybridWorld =
        some (.error reason, { hybridWorld with registry := after }) ∧
      (Restored localPlatform (hybridProof 5000 []).proof hybridJob hybridWorld.registry after ↔
        ¬Spends localPlatform (hybridProof 5000 []).proof hybridJob hybridWorld.registry) := by
  apply submitProof_unverified_iff
  exact ⟨by decide +kernel, rfl, by decide, by decide +kernel, by decide, by decide +kernel⟩

/-- The ZK half is missing once, and the attestation is refused when it is sent again with it. -/
theorem hybrid_attestation_spent :
    ∃ reason after, submitProof localPlatform (hybridProof 1000 []) localContext hybridWorld =
        some (.error reason, after) ∧
      (verifyProof localPlatform (hybridProof 1000 (List.replicate 160 1)).proof hybridJob
        hybridWorld.registry).1 = .ok true ∧
      ¬Restored localPlatform (hybridProof 1000 []).proof hybridJob hybridWorld.registry
        after.registry := by
  obtain ⟨after, failed⟩ := exists_after (show (submitProof localPlatform (hybridProof 1000 [])
    localContext hybridWorld).map (·.1) = some (.error (.ZkVerificationFailed "Empty proof")) by
      decide +kernel)
  have valid : (verifyProof localPlatform (hybridProof 1000 (List.replicate 160 1)).proof hybridJob
      hybridWorld.registry).1 = .ok true := by decide +kernel
  have refused : (submitProof localPlatform (hybridProof 1000 []) localContext hybridWorld).map
      (fun result => (verifyProof localPlatform (hybridProof 1000 (List.replicate 160 1)).proof
        hybridJob result.2.registry).1) =
      some (.error (.TeeVerificationFailed "attestation replay detected")) := by decide +kernel
  rw [failed, Option.map_some, Option.some.injEq] at refused
  refine ⟨_, after, failed, valid, fun restored => ?_⟩
  exact nomatch refused.symm.trans (restored.again _ rfl rfl valid)

end Vm.World
