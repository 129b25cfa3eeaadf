import Aethelred.Seal.Revocation

/- Runs of the revocation manager: who approved a request before its seal was revoked, and what
happens to a request that is executed or cancelled. -/
namespace Seal

open Go Attempt List

/-- Enough distinct registered authorities approved the request themselves; and without an emergency
the dispute period was over and no dispute stood against it. -/
structure Execution.Proper (config : RevocationConfig) (e : Execution) : Prop where
  approved : ∃ approvers : List String, approvers.Nodup ∧
    requiredApprovalThreshold config e.request ≤ (approvers.length : Nat) ∧
    ∀ authority ∈ approvers,
      ⟨e.request.requestID, authority⟩ ∈ e.grants ∧ (e.authorities.lookup authority).isSome
  late : e.request.emergency = false → e.request.disputeDeadline ≤ e.now
  undisputed : e.request.emergency = false → ∀ id dispute, e.disputes.lookup id = some dispute →
    dispute.requestID = e.request.requestID → dispute.status ∉ [.opened, .underReview, .upheld]

namespace RevocationRequest

variable (req : RevocationRequest)

/-- Executed or cancelled. -/
def Final : Prop := req.status = .executed ∨ req.status = .cancelled

instance : Decidable req.Final :=
  inferInstanceAs (Decidable (_ ∨ _))

def approvers : List String :=
  (req.approvals.filter RevocationApproval.approved).map RevocationApproval.authority

theorem length_approvers : countApprovedAuthorities req = (req.approvers.length : Nat) := by
  simp only [countApprovedAuthorities, approvers, length_map, countP_eq_length_filter]

theorem mem_approvals_of_mem_approvers {req : RevocationRequest} {authority : String}
    (member : authority ∈ req.approvers) : requestHasApproval req authority = true := by
  obtain ⟨approval, listed, rfl⟩ := mem_map.mp member
  exact any_eq_true.mpr ⟨approval, (mem_filter.mp listed).1, decide_eq_true rfl⟩

section Approve

variable (config : RevocationConfig) (req : RevocationRequest) (authority comments : String)
  (now : Int)

theorem approve_requestID : (req.approve config authority comments now).requestID = req.requestID := by
  unfold approve
  dsimp only
  split <;> rfl

theorem approve_requester : (req.approve config authority comments now).requester = req.requester := by
  unfold approve
  dsimp only
  split <;> rfl

theorem approve_emergency : (req.approve config authority comments now).emergency = req.emergency := by
  unfold approve
  dsimp only
  split <;> rfl

theorem approvers_approve :
    (req.approve config authority comments now).approvers = req.approvers ++ [authority] := by
  unfold approve approvers
  dsimp only
  split <;> simp

theorem approve_status :
    (req.approve config authority comments now).status = req.status ∨
      requiredApprovalThreshold config (req.approve config authority comments now) ≤
        countApprovedAuthorities (req.approve config authority comments now) := by
  unfold approve
  dsimp only
  split
  · right
    assumption
  · exact Or.inl rfl

end Approve

end RevocationRequest

namespace RevocationManager

open RevocationRequest

/-- An executed or cancelled request keeps its status. -/
def KeepsFinal (a b : RevocationManager) : Prop :=
  ∀ id req, a.requests.lookup id = some req → req.Final →
    ∃ req', b.requests.lookup id = some req' ∧ req'.status = req.status

theorem KeepsFinal.refl (a : RevocationManager) : KeepsFinal a a :=
  fun _ req found _ => ⟨req, found, rfl⟩

theorem KeepsFinal.trans {a b c : RevocationManager} (first : KeepsFinal a b)
    (second : KeepsFinal b c) : KeepsFinal a c := by
  intro id req found final
  obtain ⟨between, found', same⟩ := first id req found final
  have final' : between.Final := by
    rw [Final, same]
    exact final
  obtain ⟨last, found'', same'⟩ := second id between found' final'
  exact ⟨last, found'', same'.trans same⟩

/-- Every seal that a request revoked was revoked properly, and no request left its final status. -/
def RevocationsHold (libraries : Libraries) (start : RevocationManager)
    (calls : List (Int × Seal.Call)) : Prop :=
  (∀ e ∈ (Run.exec (step libraries) start calls).executions, e.Proper start.config) ∧
    Run.Lasting (step libraries) KeepsFinal start calls

/-- The approvals of a request are those of distinct authorities that gave them. -/
structure Vouched (rm : RevocationManager) (req : RevocationRequest) : Prop where
  distinct : req.approvers.Nodup
  granted : ∀ authority ∈ req.approvers,
    ⟨req.requestID, authority⟩ ∈ rm.grants ∧ (rm.authorities.lookup authority).isSome
  enough : req.status = .approved →
    requiredApprovalThreshold rm.config req ≤ countApprovedAuthorities req

/-- Requests are filed by id and vouched for, executions proper. -/
structure Sound (config : RevocationConfig) (rm : RevocationManager) : Prop where
  config_eq : rm.config = config
  keyed : ∀ id req, rm.requests.lookup id = some req → req.requestID = id
  vouched : ∀ id req, rm.requests.lookup id = some req → Vouched rm req
  executed : ∀ e ∈ rm.executions, e.Proper config

/-- A change that keeps the records sound and the final requests as they are. -/
def Advances (config : RevocationConfig) (a b : RevocationManager) : Prop :=
  Sound config a → Sound config b ∧ KeepsFinal a b

section Primitives

variable {config : RevocationConfig} {rm : RevocationManager}

theorem Advances.refl (rm : RevocationManager) : Advances config rm rm :=
  fun sound => ⟨sound, KeepsFinal.refl rm⟩

theorem Advances.trans {a b c : RevocationManager} (first : Advances config a b)
    (second : Advances config b c) : Advances config a c := by
  intro sound
  obtain ⟨between, keeps⟩ := first sound
  obtain ⟨after, keeps'⟩ := second between
  exact ⟨after, keeps.trans keeps'⟩

variable {req : RevocationRequest}

theorem Vouched.mono {rm' : RevocationManager} (vouched : Vouched rm req)
    (config_eq : rm'.config = rm.config) (grants : ∀ g ∈ rm.grants, g ∈ rm'.grants)
    (authorities : ∀ a, (rm.authorities.lookup a).isSome → (rm'.authorities.lookup a).isSome) :
    Vouched rm' req where
  distinct := vouched.distinct
  granted := by
    intro authority member
    obtain ⟨given, known⟩ := vouched.granted authority member
    exact ⟨grants _ given, authorities _ known⟩
  enough := by
    rw [config_eq]
    exact vouched.enough

theorem Advances.of_records {after : RevocationManager} (config_eq : after.config = rm.config)
    (requests : after.requests = rm.requests) (executions : after.executions = rm.executions)
    (grants : ∀ g ∈ rm.grants, g ∈ after.grants)
    (authorities : ∀ a, (rm.authorities.lookup a).isSome → (after.authorities.lookup a).isSome) :
    Advances config rm after := by
  intro sound
  refine ⟨⟨config_eq.trans sound.config_eq, ?_, ?_, ?_⟩, fun id req found _ => ⟨req, ?_, rfl⟩⟩
  · rw [requests]
    exact sound.keyed
  · rw [requests]
    exact fun id req found => (sound.vouched id req found).mono config_eq grants authorities
  · rw [executions]
    exact sound.executed
  · rw [requests]
    exact found

theorem advances_registered (authority : RevocationAuthority) :
    Advances config rm { rm with
      authorities := rm.authorities.insert authority.address authority } := by
  refine .of_records rfl rfl rfl (fun _ given => given) fun a known => ?_
  by_cases same : a = authority.address
  · subst same
    simp only [AList.lookup_insert, Option.isSome_some]
  · rw [AList.lookup_insert_ne same]
    exact known

theorem advances_grant (requestID authority : String) :
    Advances config rm (rm.grant requestID authority) :=
  .of_records rfl rfl rfl (fun _ given => mem_append_left _ given) fun _ known => known

theorem advances_putDispute (dispute : RevocationDispute) :
    Advances config rm (rm.putDispute dispute) :=
  .of_records rfl rfl rfl (fun _ given => given) fun _ known => known

theorem advances_setSeal (target : DigitalSeal) : Advances config rm (rm.setSeal target) :=
  .of_records rfl rfl rfl (fun _ given => given) fun _ known => known

/-- Writing a vouched request over an open one is an advance. -/
theorem advances_putRequest (free : ∀ old, rm.requests.lookup req.requestID = some old → old.Final →
      req.status = old.status) (vouched : Sound config rm → Vouched rm req) :
    Advances config rm (rm.putRequest req) := by
  intro sound
  refine ⟨⟨sound.config_eq, ?_, ?_, sound.executed⟩, ?_⟩
  · intro id other found
    by_cases same : id = req.requestID
    · subst same
      rw [putRequest, AList.lookup_insert] at found
      rw [← Option.some.inj found]
    · rw [putRequest, AList.lookup_insert_ne same] at found
      exact sound.keyed id other found
  · intro id other found
    have kept : Vouched rm other := by
      by_cases same : id = req.requestID
      · subst same
        rw [putRequest, AList.lookup_insert] at found
        rw [← Option.some.inj found]
        exact vouched sound
      · rw [putRequest, AList.lookup_insert_ne same] at found
        exact sound.vouched id other found
    exact kept.mono rfl (fun _ given => given) fun _ known => known
  · intro id old found final
    by_cases same : id = req.requestID
    · subst same
      exact ⟨req, AList.lookup_insert _, free old found final⟩
    · refine ⟨old, ?_, rfl⟩
      rw [putRequest, AList.lookup_insert_ne same]
      exact found

theorem advances_status {id : String} {status : RevocationRequestStatus}
    (found : rm.requests.lookup id = some req) (free : req.Final → status = req.status)
    (enough : status = .approved →
      requiredApprovalThreshold rm.config req ≤ countApprovedAuthorities req) :
    Advances config rm (rm.putRequest { req with status }) := by
  intro sound
  have key : req.requestID = id := sound.keyed id req found
  refine advances_putRequest ?_ (fun _ => ?_) sound
  · intro old found' final
    rw [key, found] at found'
    cases found'
    exact free final
  · have vouched := sound.vouched id req found
    exact ⟨vouched.distinct, vouched.granted, enough⟩

/-- So is a first approval by a known authority. -/
theorem advances_approve {authority comments : String} {now : Int}
    (known : (rm.authorities.lookup authority).isSome) (fresh : authority ∉ req.approvers)
    (free : ∀ old, rm.requests.lookup req.requestID = some old → ¬old.Final)
    (vouched : Sound config rm → Vouched rm req) :
    Advances config rm
      ((rm.putRequest (req.approve rm.config authority comments now)).grant req.requestID
        authority) := by
  intro sound
  have before : Vouched rm req := vouched sound
  refine Advances.trans (advances_grant req.requestID authority) ?_ sound
  change Advances config _ ((rm.grant req.requestID authority).putRequest _)
  refine advances_putRequest ?_ fun _ => ⟨?_, ?_, ?_⟩
  · intro old found final
    rw [approve_requestID] at found
    exact absurd final (free old found)
  · rw [approvers_approve]
    exact nodup_append.mpr ⟨before.distinct, nodup_singleton _, by
      intro a member b only same
      rw [mem_singleton.mp only] at same
      exact fresh (same ▸ member)⟩
  · intro a member
    rw [approvers_approve, mem_append] at member
    rw [approve_requestID]
    rcases member with old | new
    · obtain ⟨given, registered⟩ := before.granted a old
      exact ⟨mem_append_left _ given, registered⟩
    · rw [mem_singleton.mp new]
      exact ⟨mem_append_right _ (mem_singleton_self _), known⟩
  · intro approved
    rcases approve_status rm.config req authority comments now with same | enough
    · rw [same] at approved
      have enough := before.enough approved
      rw [length_approvers] at enough ⊢
      rw [approvers_approve, length_append]
      have unchanged : requiredApprovalThreshold rm.config
          (req.approve rm.config authority comments now) =
            requiredApprovalThreshold rm.config req := by
        rw [requiredApprovalThreshold, requiredApprovalThreshold, approve_emergency]
      change requiredApprovalThreshold rm.config _ ≤ _
      omega
    · exact enough

/-- So is the execution of an approved request past its deadline. -/
theorem advances_finish {requestID : String} {target : DigitalSeal}
    {now : Int} (found : rm.requests.lookup requestID = some req) (approved : req.status = .approved)
    (late : req.emergency = true ∨ req.disputeDeadline ≤ now)
    (undisputed : req.emergency = true ∨ rm.hasBlockingDispute requestID = false) :
    Advances config rm (rm.finish now req target) := by
  intro sound
  have key : req.requestID = requestID := sound.keyed requestID req found
  have vouched : Vouched rm req := sound.vouched requestID req found
  have proper : Execution.Proper config
      { request := req, now, disputes := rm.disputes, authorities := rm.authorities,
        grants := rm.grants } := by
    refine ⟨⟨req.approvers, vouched.distinct, ?_, vouched.granted⟩, ?_, ?_⟩
    · rw [← sound.config_eq, ← length_approvers]
      exact vouched.enough approved
    · intro ordinary
      exact late.resolve_left (ne_true_of_eq_false ordinary)
    · intro ordinary id dispute filed against standing
      have clear := undisputed.resolve_left (ne_true_of_eq_false ordinary)
      rw [hasBlockingDispute, any_eq_false] at clear
      refine clear id (AList.mem_keys.mp (AList.lookup_isSome.mp (by rw [filed]; rfl))) ?_
      rw [filed, Option.any_some, blocks, ← key]
      simp only [against, standing, decide_true, Bool.and_self]
  have stored : Advances config rm (rm.putRequest { req with
      status := .executed
      processedAt := some now
      processedBy := if req.processedBy = "" then "revocation_manager" else req.processedBy }) := by
    refine advances_putRequest ?_ fun _ => ⟨vouched.distinct, vouched.granted, nofun⟩
    intro old found' final
    change rm.requests.lookup req.requestID = some old at found'
    rw [key, found] at found'
    cases found'
    rw [Final, approved] at final
    cases final <;> contradiction
  obtain ⟨stored, keeps⟩ := stored sound
  refine ⟨⟨sound.config_eq, stored.keyed, ?_, ?_⟩, keeps⟩
  · intro id other found'
    exact (stored.vouched id other found').mono rfl (fun _ given => given) fun _ known => known
  · intro e member
    rcases mem_append.mp member with old | new
    · exact sound.executed e old
    · rw [mem_singleton.mp new]
      exact proper

end Primitives

/-- No executed or cancelled request has the identifier. -/
def OpenAt (rm : RevocationManager) (id : String) : Prop :=
  ∀ req, rm.requests.lookup id = some req → ¬req.Final

section Calls

variable {config : RevocationConfig} {rm : RevocationManager} {libraries : Libraries} {now : Int}

theorem advances_getSeal {α : Type} {sealID : String} {rest : DigitalSeal → Call α}
    (advances : ∀ target, rm.seals.lookup sealID = some target →
      Advances config rm (rest target rm).2) :
    Advances config rm ((getSeal sealID >>= rest) rm).2 := by
  change Advances config rm ((okOr (rm.seals.lookup sealID) _ >>= rest) rm).2
  exact moved_okOr (.refl rm) advances

theorem advances_registerAuthority (authority : RevocationAuthority) :
    Advances config rm (registerAuthority now authority rm).2 := by
  refine moved_ensure (.refl rm) fun _ => ?_
  exact advances_registered { authority with registeredAt := now, active := true }

/-- So is a request without approvals of its own. -/
theorem advances_requestRevocation {req : RevocationRequest}
    (bare : ∀ approval ∈ req.approvals, approval.approved = false)
    (free : rm.OpenAt (generateRequestID libraries now req.sealID req.requester)) :
    Advances config rm (requestRevocation libraries now req rm).2 := by
  have none_counted : ∀ other : RevocationRequest, other.approvals = req.approvals →
      other.approvers = [] := by
    intro other same
    rw [approvers, same, map_eq_nil_iff, filter_eq_nil_iff]
    intro approval listed
    rw [bare approval listed]
    exact Bool.false_ne_true
  have vouched : ∀ other : RevocationRequest, other.approvals = req.approvals →
      other.status = .pending → Vouched rm other := by
    intro other same pending
    refine ⟨?_, ?_, ?_⟩
    · rw [none_counted other same]
      exact nodup_nil
    · rw [none_counted other same]
      exact nofun
    · rw [pending]
      exact nofun
  let opened : RevocationRequest := { req with
    requestID := generateRequestID libraries now req.sealID req.requester
    status := .pending
    createdAt := now
    disputeDeadline := now + rm.config.minDisputePeriod }
  unfold requestRevocation
  rw [read_bind]
  refine moved_ofExcept (.refl rm) fun _ _ => advances_getSeal fun target _ => ?_
  refine moved_ensure (.refl rm) fun _ => moved_ensure (.refl rm) fun _ => ?_
  dsimp only
  split
  · rename_i admin
    rw [modify_bind]
    have known : (rm.authorities.lookup req.requester).isSome := Option.isSome_of_any admin
    have own : req.requester ∉ opened.approvers := by
      rw [none_counted opened rfl]
      exact not_mem_nil
    change Advances config rm ((rm.putRequest (opened.approve rm.config req.requester _
      now)).grant (opened.approve rm.config req.requester _ now).requestID
      (opened.approve rm.config req.requester _ now).requester)
    rw [approve_requestID, approve_requester]
    exact advances_approve known own free fun _ => vouched opened rfl rfl
  · rw [modify_bind]
    refine advances_putRequest ?_ fun _ => vouched opened rfl rfl
    intro old found final
    exact absurd final (free old found)

theorem advances_approveRevocation (requestID approver comments : String) :
    Advances config rm (approveRevocation now requestID approver comments rm).2 := by
  unfold approveRevocation
  rw [read_bind]
  refine moved_okOr (.refl rm) fun authority known => ?_
  refine moved_ensure (.refl rm) fun _ => moved_ensure (.refl rm) fun _ => ?_
  refine moved_okOr (.refl rm) fun req found => moved_ensure (.refl rm) fun _ => ?_
  refine moved_ofExcept (.refl rm) fun _ approvable => moved_ensure (.refl rm) fun fresh => ?_
  rw [modify_apply]
  intro sound
  have key : req.requestID = requestID := sound.keyed requestID req found
  rw [← key] at found ⊢
  refine advances_approve (by rw [known]; rfl) ?_ ?_ (fun sound => sound.vouched _ req found) sound
  · intro member
    exact absurd (mem_approvals_of_mem_approvers member) (ne_true_of_eq_false fresh)
  · intro old found' final
    rw [found] at found'
    cases found'
    rcases final with executed | cancelled
    · rw [executed] at approvable
      cases approvable
    · rw [cancelled] at approvable
      cases approvable

theorem advances_executeRevocation (requestID : String) :
    Advances config rm (executeRevocation libraries now requestID rm).2 := by
  unfold executeRevocation
  rw [read_bind]
  refine moved_okOr (.refl rm) fun req found => moved_ensure (.refl rm) fun approved => ?_
  refine moved_ensure (.refl rm) fun late => moved_ensure (.refl rm) fun undisputed => ?_
  refine advances_getSeal fun target _ => moved_ensure (.refl rm) fun _ => ?_
  exact advances_finish found approved late undisputed

theorem advances_revokeSeal (sealID revoker reason : String) :
    Advances config rm (revokeSeal libraries now sealID revoker reason rm).2 := by
  unfold revokeSeal
  refine advances_getSeal fun target _ => ?_
  rw [read_bind]
  refine moved_ensure (.refl rm) fun _ => moved_ensure (.refl rm) fun _ => ?_
  exact moved_ensure (.refl rm) fun _ => advances_setSeal _

theorem advances_fileDispute (requestID disputant reason : String) :
    Advances config rm (fileDispute libraries now requestID disputant reason rm).2 := by
  unfold fileDispute
  rw [read_bind]
  refine moved_okOr (.refl rm) fun req found => moved_ensure (.refl rm) fun _ => ?_
  refine moved_ensure (.refl rm) fun disputable => moved_ensure (.refl rm) fun _ => ?_
  have disputed : Advances config rm (rm.putRequest { req with status := .disputed }) := by
    refine advances_status found (fun final => ?_) nofun
    rcases final with executed | cancelled
    · exact absurd executed disputable.1
    · exact absurd cancelled disputable.2
  exact disputed.trans (advances_putDispute _)

/-- The resolver may resolve the dispute, whose request is executed, or is cancelled and would be
taken up again. -/
def Reopens (rm : RevocationManager) (disputeID resolver : String) (upheld : Bool) : Prop :=
  ∃ dispute req, rm.disputes.lookup disputeID = some dispute ∧
    ((rm.authorities.lookup resolver).any fun authority =>
      authority.active && decide (AuthorityLevelAdmin ≤ authority.level)) = true ∧
    rm.requests.lookup dispute.requestID = some req ∧
    (req.status = .executed ∨ req.status = .cancelled ∧ upheld = false)

/-- So is a resolution that reopens nothing. -/
theorem advances_resolveDispute {disputeID resolver : String} {upheld : Bool}
    (closed : ¬rm.Reopens disputeID resolver upheld) (resolution : String) :
    Advances config rm (resolveDispute now disputeID resolver upheld resolution rm).2 := by
  unfold resolveDispute
  rw [read_bind]
  refine moved_okOr (.refl rm) fun dispute filed => moved_ensure (.refl rm) fun authorized => ?_
  rw [modify_bind]
  cases found : rm.requests.lookup dispute.requestID with
  | none => exact advances_putDispute _
  | some req =>
    refine (advances_putDispute _).trans (advances_status found ?_ ?_)
    · rintro (executed | cancelled)
      · exact absurd ⟨dispute, req, filed, authorized, found, Or.inl executed⟩ closed
      · cases upheld with
        | true =>
          rw [cancelled]
          rfl
        | false =>
          exact absurd ⟨dispute, req, filed, authorized, found, Or.inr ⟨cancelled, rfl⟩⟩ closed
    · unfold resolvedStatus
      split
      · exact nofun
      · split
        · rename_i enough
          exact fun _ => enough
        · exact nofun

theorem findActiveEmergencyRequest_stored {order : RangeOrder String} {sealID : String}
    {req : RevocationRequest} (found : rm.findActiveEmergencyRequest order sealID = some req) :
    (∃ id, rm.requests.lookup id = some req) ∧ req.status ≠ .cancelled := by
  constructor
  · obtain ⟨id, _, stored⟩ := mem_filterMap.mp (mem_of_find?_eq_some found)
    exact ⟨id, stored⟩
  · have active := find?_some found
    simp only [isActiveEmergency, Bool.and_eq_true, decide_eq_true_eq, mem_cons, not_or]
      at active
    exact active.2.1

section Emergency

variable {order : RangeOrder String} {sealID revoker reason justification : String}

theorem takeEmergencyRequest_error {text : String} {between : RevocationManager}
    (failed : takeEmergencyRequest libraries now order sealID revoker reason justification rm =
      (.error text, between)) : between = rm := by
  unfold takeEmergencyRequest at failed
  rw [read_bind] at failed
  cases active : rm.findActiveEmergencyRequest order sealID with
  | some req =>
    rw [active] at failed
    dsimp only at failed
    rw [ofExcept_bind] at failed
    split at failed
    · cases failed
    · exact (Prod.ext_iff.mp failed).2.symm
  | none =>
    rw [active] at failed
    cases failed

/-- An emergency request is filed as its own. -/
theorem takeEmergencyRequest_ok {req : RevocationRequest} {between : RevocationManager}
    (free : rm.OpenAt (generateRequestID libraries now sealID revoker))
    (taken : takeEmergencyRequest libraries now order sealID revoker reason justification rm =
      (.ok req, between)) :
    Advances config rm between ∧ between.authorities = rm.authorities ∧ ¬req.Final ∧
      ∃ id, between.requests.lookup id = some req := by
  unfold takeEmergencyRequest at taken
  rw [read_bind] at taken
  cases active : rm.findActiveEmergencyRequest order sealID with
  | some found =>
    obtain ⟨⟨id, stored⟩, notCancelled⟩ := findActiveEmergencyRequest_stored active
    rw [active] at taken
    dsimp only at taken
    rw [ofExcept_bind] at taken
    split at taken
    · rename_i agreed
      cases taken
      refine ⟨Advances.refl rm, rfl, fun final => ?_, id, stored⟩
      rcases final with executed | cancelled
      · rw [checkEmergencyRequest] at agreed
        simp only [executed, ↓reduceIte, reduceCtorEq] at agreed
      · exact notCancelled cancelled
    · cases taken
  | none =>
    rw [active] at taken
    cases taken
    refine ⟨?_, rfl, ?_, _, AList.lookup_insert _⟩
    · refine advances_putRequest (fun old found final => absurd final (free old found)) fun _ => ?_
      exact ⟨nodup_nil, nofun, nofun⟩
    · intro final
      rcases final with executed | cancelled
      · cases executed
      · cases cancelled

/-- So is an emergency revocation under a free id. -/
theorem advances_emergencyRevoke
    (free : rm.OpenAt (generateRequestID libraries now sealID revoker)) :
    Advances config rm
      (emergencyRevoke libraries now order sealID revoker reason justification rm).2 := by
  unfold emergencyRevoke
  rw [read_bind]
  refine moved_ensure (.refl rm) fun authorized => moved_ensure (.refl rm) fun _ => ?_
  refine moved_ensure (.refl rm) fun _ => advances_getSeal fun target _ => ?_
  refine moved_ensure (.refl rm) fun _ => ?_
  rw [bind_apply]
  split
  · rename_i req between taken
    obtain ⟨advances, same, unfinished, id, stored⟩ := takeEmergencyRequest_ok free taken
    refine advances.trans (moved_ensure (.refl between) fun fresh => ?_)
    rw [modify_bind]
    have approved : Advances config between
        ((between.putRequest (req.approve between.config revoker
          (Strings.trimSpace justification) now)).grant req.requestID revoker) := by
      intro sound
      have key : req.requestID = id := sound.keyed id req stored
      refine advances_approve ?_ ?_ ?_ (fun sound => sound.vouched id req stored) sound
      · rw [same]
        exact Option.isSome_of_any authorized
      · intro member
        exact absurd (mem_approvals_of_mem_approvers member) (ne_true_of_eq_false fresh)
      · intro old found
        rw [key, stored] at found
        cases found
        exact unfinished
    split
    · exact approved
    · exact approved.trans (advances_executeRevocation req.requestID)
  · rename_i text between failed
    rw [takeEmergencyRequest_error failed]
    exact Advances.refl rm

end Emergency

section Batch

variable {emergency : Bool} {revoker reason details : String}

def revokeStep (libraries : Libraries) (now : Int) (emergency : Bool)
    (revoker reason details : String) (rm : RevocationManager)
    (item : String × RangeOrder String) : RevocationManager :=
  (revokeOne libraries now emergency revoker reason details item rm).2

theorem tried_eq (sealID : String) (call : Call RevocationResult) (rm : RevocationManager) :
    ∃ result, tried sealID call rm = (.ok result, (call rm).2) := by
  unfold tried
  cases call rm with
  | mk outcome after => cases outcome <;> exact ⟨_, rfl⟩

theorem revokeOne_eq (item : String × RangeOrder String) (rm : RevocationManager) :
    ∃ result, revokeOne libraries now emergency revoker reason details item rm =
      (.ok result, revokeStep libraries now emergency revoker reason details rm item) := by
  obtain ⟨result, done⟩ := tried_eq item.1 (if emergency then
      emergencyRevoke libraries now item.2 item.1 revoker reason details
    else revokeSeal libraries now item.1 revoker reason) rm
  refine ⟨result, ?_⟩
  rw [revokeStep, revokeOne, done]

theorem revokeAll_snd (items : List (String × RangeOrder String)) :
    (revokeAll libraries now emergency revoker reason details items rm).2 =
      Run.exec (revokeStep libraries now emergency revoker reason details) rm items := by
  induction items generalizing rm with
  | nil => rfl
  | cons item rest ih =>
    obtain ⟨result, done⟩ := revokeOne_eq item rm
    rw [revokeAll, bind_of_ok done, Run.exec_cons, ← ih, bind_apply]
    cases revokeAll libraries now emergency revoker reason details rest
        (revokeStep libraries now emergency revoker reason details rm item) with
    | mk outcome after => cases outcome <;> rfl

/-- A seal of a batch may open a request only where no final one stands. -/
def StepOpen (libraries : Libraries) (now : Int) (emergency : Bool) (revoker : String)
    (rm : RevocationManager) (item : String × RangeOrder String) : Prop :=
  emergency = true → rm.OpenAt (generateRequestID libraries now item.1 revoker)

theorem advances_revokeStep {item : String × RangeOrder String}
    (free : StepOpen libraries now emergency revoker rm item) :
    Advances config rm (revokeStep libraries now emergency revoker reason details rm item) := by
  rw [revokeStep, revokeOne]
  obtain ⟨result, done⟩ := tried_eq item.1 (if emergency then
      emergencyRevoke libraries now item.2 item.1 revoker reason details
    else revokeSeal libraries now item.1 revoker reason) rm
  rw [done]
  cases emergency with
  | true => exact advances_emergencyRevoke (free rfl)
  | false => exact advances_revokeSeal item.1 revoker reason

theorem advances_batchRevoke {items : List (String × RangeOrder String)} (free : Run.Along
      (revokeStep libraries now (rm.usesEmergencyPath revoker) revoker reason details)
      (StepOpen libraries now (rm.usesEmergencyPath revoker) revoker) rm items) :
    Advances config rm (batchRevoke libraries now items revoker reason details rm).2 := by
  unfold batchRevoke
  rw [read_bind]
  refine moved_ensure (.refl rm) fun _ => ?_
  rw [revokeAll_snd]
  exact Run.exec_moves (fun _ _ (_ : True) _ _ => trivial) Advances.refl
    (fun first second => first.trans second) (fun _ _ _ _ good => advances_revokeStep good)
    trivial (Run.along_true rm items) free

end Batch

end Calls

/-- A request comes without approvals and takes no final request's identifier, and no dispute is
resolved that would reopen one. -/
def Careful (libraries : Libraries) (rm : RevocationManager) : Int × Seal.Call → Prop
  | (now, .requestRevocation req) =>
    (∀ approval ∈ req.approvals, approval.approved = false) ∧
      rm.OpenAt (generateRequestID libraries now req.sealID req.requester)
  | (_, .resolveDispute disputeID resolver upheld _) => ¬rm.Reopens disputeID resolver upheld
  | (now, .emergencyRevoke _ sealID revoker _ _) =>
    rm.OpenAt (generateRequestID libraries now sealID revoker)
  | (now, .batchRevoke items revoker reason details) =>
    Run.Along (revokeStep libraries now (rm.usesEmergencyPath revoker) revoker reason details)
      (StepOpen libraries now (rm.usesEmergencyPath revoker) revoker) rm items
  | _ => True

section Runs

variable {config : RevocationConfig} {libraries : Libraries}

theorem advances_step {rm : RevocationManager} {call : Int × Seal.Call}
    (careful : Careful libraries rm call) : Advances config rm (step libraries rm call) := by
  obtain ⟨now, call⟩ := call
  cases call with
  | registerAuthority authority => exact advances_registerAuthority authority
  | requestRevocation req => exact advances_requestRevocation careful.1 careful.2
  | approveRevocation requestID approver comments =>
    exact advances_approveRevocation requestID approver comments
  | fileDispute requestID disputant reason =>
    exact advances_fileDispute requestID disputant reason
  | resolveDispute disputeID resolver upheld resolution =>
    exact advances_resolveDispute careful resolution
  | executeRevocation requestID => exact advances_executeRevocation requestID
  | emergencyRevoke order sealID revoker reason justification =>
    exact advances_emergencyRevoke careful
  | batchRevoke items revoker reason details => exact advances_batchRevoke careful

def initialManager (config : RevocationConfig) (seals : Map String DigitalSeal) :
    RevocationManager := { config, seals }

theorem sound_initialManager (config : RevocationConfig) (seals : Map String DigitalSeal) :
    Sound config (initialManager config seals) := by
  have empty : ∀ id req, (initialManager config seals).requests.lookup id ≠ some req := by
    intro id req found
    rw [initialManager, AList.lookup_empty] at found
    cases found
  exact ⟨rfl, fun id req found => absurd found (empty id req),
    fun id req found => absurd found (empty id req), fun e member => absurd member not_mem_nil⟩

/-- Careful calls revoke seals only through requests that enough authorities approved. -/
theorem revocations_hold (libraries : Libraries) (config : RevocationConfig)
    (seals : Map String DigitalSeal) (calls : List (Int × Seal.Call))
    (careful : Run.Along (step libraries) (Careful libraries) (initialManager config seals) calls) :
    RevocationsHold libraries (initialManager config seals) calls := by
  have initial := sound_initialManager config seals
  have kept : ∀ rm call, Careful libraries rm call → Sound config rm →
      Sound config (step libraries rm call) :=
    fun rm call careful sound => (advances_step careful sound).1
  constructor
  · exact (Run.invariant (Sound config) kept initial careful).executed
  · apply Run.lasting_of_along (fun rm call sound _ careful => kept rm call careful sound)
      KeepsFinal.refl KeepsFinal.trans
      (fun rm call sound _ careful => (advances_step careful sound).2)
      initial (Run.along_true _ calls) careful

def sampleLibraries : Libraries where
  sha256 := reverse
  timeString := toString
  formatTime := toString
  quote text := "\"" ++ text ++ "\""

def sampleSeals : Map String DigitalSeal :=
  (∅ : Map String DigitalSeal).insert "seal-1" ⟨"seal-1", .active, "owner"⟩

def sampleRequest : RevocationRequest where
  sealID := "seal-1"
  requester := "alice"
  reason := "fraud_detected"

def sampleID : String := generateRequestID sampleLibraries 1 "seal-1" "alice"

def alice : RevocationAuthority := { address := "alice", name := "Alice", level := 3 }

def bob : RevocationAuthority := { address := "bob", name := "Bob", level := 3 }

def agreedCalls : List (Int × Seal.Call) :=
  [(0, .registerAuthority alice),
   (0, .registerAuthority bob),
   (1, .requestRevocation sampleRequest),
   (2, .approveRevocation sampleID "bob" ""),
   (1 + 24 * 3600 * 1000000000, .executeRevocation sampleID)]

theorem revocations_hold_agreed :
    Run.Along (step sampleLibraries) (Careful sampleLibraries) (initialManager {} sampleSeals)
        agreedCalls ∧
      (Run.exec (step sampleLibraries) (initialManager {} sampleSeals) agreedCalls).executions.length
        = 1 ∧
      RevocationsHold sampleLibraries (initialManager {} sampleSeals) agreedCalls := by
  have careful : Run.Along (step sampleLibraries) (Careful sampleLibraries)
      (initialManager {} sampleSeals) agreedCalls := by
    refine ⟨trivial, trivial, ⟨nofun, fun req found => ?_⟩, trivial, trivial, trivial⟩
    have free : (step sampleLibraries (step sampleLibraries (initialManager {} sampleSeals)
        (0, .registerAuthority alice)) (0, .registerAuthority bob)).requests.lookup
          (generateRequestID sampleLibraries 1 sampleRequest.sealID sampleRequest.requester) =
        none := by decide +kernel
    exact absurd (free.symm.trans found) nofun
  exact ⟨careful, by decide +kernel, revocations_hold sampleLibraries {} sampleSeals agreedCalls careful⟩

def forgedCalls : List (Int × Seal.Call) :=
  [(0, .registerAuthority alice),
   (1, .requestRevocation { sampleRequest with approvals := [⟨"bob", true, "", 0⟩] }),
   (1 + 24 * 3600 * 1000000000, .executeRevocation sampleID)]

def reopenedCalls : List (Int × Seal.Call) :=
  [(0, .registerAuthority alice),
   (1, .requestRevocation sampleRequest),
   (2, .fileDispute sampleID "owner" ""),
   (3, .fileDispute sampleID "owner" ""),
   (4, .resolveDispute (generateDisputeID sampleLibraries 2 sampleID "owner") "alice" true ""),
   (5, .resolveDispute (generateDisputeID sampleLibraries 3 sampleID "owner") "alice" false "")]

theorem not_proper_of_one {e : Execution} {grant : Grant} (only : e.grants = [grant])
    (ordinary : e.request.emergency = false) : ¬e.Proper {} := by
  intro proper
  obtain ⟨approvers, distinct, enough, given⟩ := proper.approved
  have within : approvers ⊆ [grant.authority] := by
    intro authority member
    have listed := (given authority member).1
    rw [only, mem_singleton] at listed
    rw [← listed]
    exact mem_singleton_self _
  have short : approvers.length ≤ 1 := (subperm_of_subset distinct within).length_le
  have two : requiredApprovalThreshold {} e.request = 2 := by
    rw [requiredApprovalThreshold, ordinary]
    rfl
  omega

theorem revocation_on_forged_approval :
    ¬RevocationsHold sampleLibraries (initialManager {} sampleSeals) forgedCalls ∧
      ¬RevocationsHold sampleLibraries (initialManager {} sampleSeals) reopenedCalls := by
  constructor
  · intro holds
    have executed : ∃ e ∈ (Run.exec (step sampleLibraries) (initialManager {} sampleSeals)
        forgedCalls).executions, e.grants = [⟨sampleID, "alice"⟩] ∧
          e.request.emergency = false := by decide +kernel
    obtain ⟨e, member, only, ordinary⟩ := executed
    exact not_proper_of_one only ordinary (holds.1 e member)
  · intro holds
    have cancelled : ((Run.exec (step sampleLibraries) (initialManager {} sampleSeals)
        (reopenedCalls.take 5)).requests.lookup sampleID).map RevocationRequest.status =
          some .cancelled := by decide +kernel
    have pending : ((Run.exec (step sampleLibraries) (initialManager {} sampleSeals)
        reopenedCalls).requests.lookup sampleID).map RevocationRequest.status =
          some .pending := by decide +kernel
    obtain ⟨req, found, status⟩ := Option.map_eq_some_iff.mp cancelled
    obtain ⟨req', found', same⟩ := holds.2 (reopenedCalls.take 5) (reopenedCalls.drop 5)
      (take_append_drop 5 reopenedCalls ▸ prefix_rfl) sampleID req found (Or.inr status)
    rw [take_append_drop] at found'
    rw [found', Option.map_some, same, status] at pending
    cases pending

end Runs

end RevocationManager

end Seal
