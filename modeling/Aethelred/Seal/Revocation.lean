import Aethelred.Go.Hex
import Aethelred.Go.RangeOrder
import Aethelred.Go.Strings
import Aethelred.Lib.Result
import Aethelred.Lib.Run

/- The revocation of seals (`x/seal/keeper/revocation.go`): requests with the approvals of
authorities, disputes against them, and the emergency path. A call reads the clock once. -/
namespace Seal

open Go Attempt

inductive SealStatus
  | unspecified | pending | active | revoked | expired
  deriving DecidableEq

structure DigitalSeal where
  id : String
  status : SealStatus
  requestedBy : String

structure RevocationConfig where
  minDisputePeriod : Int := 24 * 3600 * 1000000000
  requiredAuthorityThreshold : Int := 2
  requiredEmergencyAuthorityThreshold : Int := 2
  allowUserRevocation : Bool := true
  maxRevocationReason : Int := 500

def AuthorityLevelOperator : Int := 2

def AuthorityLevelAdmin : Int := 3

def AuthorityLevelEmergency : Int := 4

structure RevocationAuthority where
  address : String
  name : String
  level : Int
  canRevokePurposes : List String := []
  active : Bool := false
  registeredAt : Int := 0

inductive RevocationRequestStatus
  | pending | approved | rejected | disputed | executed | cancelled
  deriving DecidableEq

structure RevocationApproval where
  authority : String
  approved : Bool
  comments : String
  timestamp : Int

/-- A reason is any text; the named ones are constants. -/
structure RevocationRequest where
  requestID : String := ""
  sealID : String
  requester : String
  reason : String
  reasonDetails : String := ""
  status : RevocationRequestStatus := .pending
  createdAt : Int := 0
  processedAt : Option Int := none
  processedBy : String := ""
  disputeDeadline : Int := 0
  approvals : List RevocationApproval := []
  emergency : Bool := false
  emergencyJustification : String := ""

def isEmergencyRevocationReason (reason : String) : Bool :=
  reason ∈ ["fraud_detected", "model_compromised", "privacy_breach", "compliance_violation",
    "tee_compromised", "legal_order"]

def requiredApprovalThreshold (config : RevocationConfig) (req : RevocationRequest) : Int :=
  let threshold := if req.emergency then config.requiredEmergencyAuthorityThreshold
    else config.requiredAuthorityThreshold
  if 0 < threshold then threshold else 1

def countApprovedAuthorities (req : RevocationRequest) : Int :=
  (req.approvals.countP RevocationApproval.approved : Nat)

def requestHasApproval (req : RevocationRequest) (authority : String) : Bool :=
  req.approvals.any fun approval => decide (approval.authority = authority)

def RevocationRequest.approve (config : RevocationConfig) (req : RevocationRequest)
    (authority comments : String) (now : Int) : RevocationRequest :=
  let req := { req with
    approvals := req.approvals ++ [{ authority, approved := true, comments, timestamp := now }] }
  if requiredApprovalThreshold config req ≤ countApprovedAuthorities req then
    { req with status := .approved, processedAt := some now, processedBy := authority }
  else req

inductive DisputeStatus
  | opened | underReview | upheld | rejected | closed
  deriving DecidableEq

structure RevocationDispute where
  disputeID : String
  requestID : String
  sealID : String
  disputant : String
  reason : String
  status : DisputeStatus
  createdAt : Int
  resolvedAt : Option Int := none
  resolution : String := ""
  resolvedBy : String := ""

structure RevocationResult where
  success : Bool
  sealID : String
  requestID : String := ""
  reason : String := ""
  revokedBy : String := ""
  revokedAt : Int := 0
  error : String := ""

/-- An authority's own approval of a request. -/
structure Grant where
  requestID : String
  authority : String
  deriving DecidableEq

/-- A request that revoked its seal, with what there was at the time. -/
structure Execution where
  request : RevocationRequest
  now : Int
  disputes : Map String RevocationDispute
  authorities : Map String RevocationAuthority
  grants : List Grant

/-- The manager and the seals of its keeper. The grants and the executions are a record of the past
that the program does not keep. -/
structure RevocationManager where
  config : RevocationConfig
  authorities : Map String RevocationAuthority := ∅
  requests : Map String RevocationRequest := ∅
  disputes : Map String RevocationDispute := ∅
  seals : Map String DigitalSeal
  grants : List Grant := []
  executions : List Execution := []

structure Libraries where
  sha256 : Bytes → Bytes
  /-- `time.Now().String()`. -/
  timeString : Int → String
  /-- `Format(time.RFC3339)`. -/
  formatTime : Int → String
  /-- `%q`. -/
  quote : String → String

namespace RevocationManager

abbrev Call := Attempt RevocationManager String

variable (libraries : Libraries) (now : Int)

def utf8 (text : String) : Bytes := text.toUTF8.data.toList

def shortHash (parts : List String) : String :=
  String.ofList ((Hex.encodeChars (libraries.sha256 (parts.flatMap utf8))).take 16)

def generateRequestID (sealID requester : String) : String :=
  "rev-" ++ shortHash libraries [sealID, requester, libraries.timeString now]

def generateDisputeID (requestID disputant : String) : String :=
  "disp-" ++ shortHash libraries [requestID, disputant, libraries.timeString now]

variable (rm : RevocationManager) (req : RevocationRequest)

def putRequest : RevocationManager :=
  { rm with requests := rm.requests.insert req.requestID req }

def putDispute (dispute : RevocationDispute) : RevocationManager :=
  { rm with disputes := rm.disputes.insert dispute.disputeID dispute }

def setSeal (target : DigitalSeal) : RevocationManager :=
  { rm with seals := rm.seals.insert target.id target }

def grant (requestID authority : String) : RevocationManager :=
  { rm with grants := rm.grants ++ [⟨requestID, authority⟩] }

def getSeal (sealID : String) : Call DigitalSeal := do
  let rm ← read
  okOr (rm.seals.lookup sealID) s!"seal not found: seal not found: {sealID}"

def registerAuthority (authority : RevocationAuthority) : Call Unit := do
  ensure (authority.address ≠ "") "authority address is required"
  modify fun rm => { rm with
    authorities := rm.authorities.insert authority.address
      { authority with registeredAt := now, active := true } }

def validateRevocationRequest (config : RevocationConfig) (req : RevocationRequest) :
    Except String Unit :=
  let most := config.maxRevocationReason
  if req.sealID = "" then .error "seal ID is required"
  else if req.emergency then .error "emergency revocation requests must use EmergencyRevoke"
  else if req.requester = "" then .error "requester is required"
  else if req.reason = "" then .error "reason is required"
  else if config.maxRevocationReason < (utf8 req.reasonDetails).length then
    .error s!"reason details too long (max {most} characters)"
  else .ok ()

def requestRevocation : Call RevocationRequest := do
  let rm ← read
  ofExcept ((validateRevocationRequest rm.config req).mapError ("invalid request: " ++ ·))
  let target ← getSeal req.sealID
  ensure (target.status ≠ .revoked) "seal is already revoked"
  let req := { req with
    requestID := generateRequestID libraries now req.sealID req.requester
    status := .pending
    createdAt := now
    disputeDeadline := now + rm.config.minDisputePeriod }
  let authority := rm.authorities.lookup req.requester
  ensure (authority.isSome ∨ rm.config.allowUserRevocation = false ∨
    target.requestedBy = req.requester) "not authorized to revoke this seal"
  if authority.any fun authority => decide (AuthorityLevelAdmin ≤ authority.level) then
    let req := req.approve rm.config req.requester "requester authority approval" now
    modify fun rm => (rm.putRequest req).grant req.requestID req.requester
    return req
  else
    modify fun rm => rm.putRequest req
    return req

variable (requestID : String)

def checkApprovable (status : RevocationRequestStatus) : Except String Unit :=
  match status with
  | .executed | .cancelled | .rejected =>
    .error s!"revocation request {requestID} is no longer approvable"
  | .disputed => .error s!"revocation request {requestID} is under dispute"
  | .pending | .approved => .ok ()

def approveRevocation (requestID approver comments : String) : Call Unit := do
  let rm ← read
  let authority ← okOr (rm.authorities.lookup approver) "not a registered authority"
  ensure (authority.active) "authority is inactive"
  ensure (AuthorityLevelOperator ≤ authority.level) "insufficient authority level"
  let req ← okOr (rm.requests.lookup requestID) "revocation request not found"
  ensure (¬(req.emergency ∧ authority.level < AuthorityLevelEmergency))
    "emergency approvals require emergency authority level"
  ofExcept (checkApprovable requestID req.status)
  ensure (requestHasApproval req approver = false)
    s!"authority {approver} already approved request {requestID}"
  modify fun rm => (rm.putRequest (req.approve rm.config approver comments now)).grant requestID
    approver

def blocks (dispute : RevocationDispute) : Bool :=
  decide (dispute.requestID = requestID) &&
    decide (dispute.status ∈ [.opened, .underReview, .upheld])

def hasBlockingDispute : Bool :=
  rm.disputes.keys.any fun id => (rm.disputes.lookup id).any (blocks requestID)

def finish (target : DigitalSeal) : RevocationManager :=
  { rm.setSeal { target with status := .revoked } with
    requests := rm.requests.insert req.requestID
      { req with
        status := .executed
        processedAt := some now
        processedBy := if req.processedBy = "" then "revocation_manager" else req.processedBy }
    executions := rm.executions ++
      [{ request := req, now, disputes := rm.disputes, authorities := rm.authorities,
         grants := rm.grants }] }

def executeRevocation : Call RevocationResult := do
  let rm ← read
  let req ← okOr (rm.requests.lookup requestID) "revocation request not found"
  ensure (req.status = .approved) s!"revocation request {requestID} is not approved"
  let deadline := libraries.formatTime req.disputeDeadline
  ensure (req.emergency ∨ req.disputeDeadline ≤ now)
    s!"revocation request {requestID} is still in dispute period until {deadline}"
  ensure (req.emergency ∨ rm.hasBlockingDispute requestID = false)
    s!"revocation request {requestID} has an unresolved dispute"
  let target ← getSeal req.sealID
  ensure (target.status ≠ .revoked) "seal is already revoked"
  modify fun rm => rm.finish now req target
  return { success := true
           sealID := req.sealID
           requestID
           reason := req.reason
           revokedBy := if req.processedBy = "" then "revocation_manager" else req.processedBy
           revokedAt := now }

def revokeSeal (sealID revoker reason : String) : Call RevocationResult := do
  let target ← getSeal sealID
  let rm ← read
  ensure (¬(rm.authorities.lookup revoker).any fun authority =>
      authority.active && decide (AuthorityLevelAdmin ≤ authority.level))
    "authorities must use request-based revocation workflow"
  ensure (rm.config.allowUserRevocation = true ∧ target.requestedBy = revoker)
    "not authorized to revoke this seal"
  ensure (target.status ≠ .revoked) "seal is already revoked"
  modify fun rm => rm.setSeal { target with status := .revoked }
  return { success := true
           sealID
           requestID := generateRequestID libraries now sealID revoker
           reason
           revokedBy := revoker
           revokedAt := now }

def fileDispute (requestID disputant reason : String) : Call RevocationDispute := do
  let rm ← read
  let req ← okOr (rm.requests.lookup requestID) "revocation request not found"
  ensure (req.emergency = false)
    "emergency revocation requests cannot enter the dispute workflow"
  ensure (req.status ≠ .executed ∧ req.status ≠ .cancelled)
    s!"revocation request {requestID} can no longer be disputed"
  ensure (now ≤ req.disputeDeadline) s!"dispute deadline has passed for request {requestID}"
  let dispute : RevocationDispute :=
    { disputeID := generateDisputeID libraries now requestID disputant
      requestID
      sealID := req.sealID
      disputant
      reason
      status := .opened
      createdAt := now }
  modify fun rm => (rm.putRequest { req with status := .disputed }).putDispute dispute
  return dispute

def resolvedStatus (config : RevocationConfig) (req : RevocationRequest) (upheld : Bool) :
    RevocationRequestStatus :=
  if upheld then .cancelled
  else if requiredApprovalThreshold config req ≤ countApprovedAuthorities req then .approved
  else .pending

def resolveDispute (disputeID resolver : String) (upheld : Bool) (resolution : String) :
    Call Unit := do
  let rm ← read
  let dispute ← okOr (rm.disputes.lookup disputeID) "dispute not found"
  ensure ((rm.authorities.lookup resolver).any fun authority =>
      authority.active && decide (AuthorityLevelAdmin ≤ authority.level))
    "not authorized to resolve disputes"
  modify fun rm => rm.putDispute { dispute with
    resolvedAt := some now
    resolvedBy := resolver
    resolution
    status := if upheld then .upheld else .rejected }
  match rm.requests.lookup dispute.requestID with
  | some req =>
    modify fun rm => rm.putRequest { req with status := resolvedStatus rm.config req upheld }
  | none => return ()

def isActiveEmergency (sealID : String) (req : RevocationRequest) : Bool :=
  decide (req.sealID = sealID) && req.emergency &&
    decide (req.status ∉ [.cancelled, .rejected])

variable (order : RangeOrder String)

def findActiveEmergencyRequest (rm : RevocationManager)
    (sealID : String) : Option RevocationRequest :=
  ((order.order rm.requests.keys).filterMap fun id => rm.requests.lookup id).find?
    (isActiveEmergency sealID)

variable (sealID revoker reason justification : String)

def emergencyRequest : RevocationRequest where
  requestID := generateRequestID libraries now sealID revoker
  sealID
  requester := revoker
  reason
  reasonDetails := justification
  createdAt := now
  disputeDeadline := now
  emergency := true
  emergencyJustification := justification

def checkEmergencyRequest (req : RevocationRequest) (reason justification : String) :
    Except String Unit :=
  let id := req.requestID
  if req.status = .executed then .error s!"emergency revocation request {id} has already executed"
  else if req.reason ≠ reason then
    .error s!"emergency revocation request {id} already exists with a different reason"
  else if req.emergencyJustification ≠ justification then
    .error s!"emergency revocation request {id} already exists with a different justification"
  else .ok ()

def takeEmergencyRequest : Call RevocationRequest := do
  let rm ← read
  match rm.findActiveEmergencyRequest order sealID with
  | some req =>
    ofExcept (checkEmergencyRequest req reason justification)
    return req
  | none =>
    let req := emergencyRequest libraries now sealID revoker reason justification
    modify fun rm => rm.putRequest req
    return req

def emergencyRevoke : Call RevocationResult := do
  let rm ← read
  ensure ((rm.authorities.lookup revoker).any fun authority =>
      authority.active && decide (AuthorityLevelEmergency ≤ authority.level))
    "not authorized for emergency revocation"
  let justification := Strings.trimSpace justification
  ensure (justification ≠ "") "emergency revocation justification is required"
  let quoted := libraries.quote reason
  ensure (isEmergencyRevocationReason reason = true)
    s!"reason {quoted} is not eligible for emergency revocation"
  let target ← getSeal sealID
  ensure (target.status ≠ .revoked) "seal is already revoked"
  let req ← takeEmergencyRequest libraries now order sealID revoker reason justification
  let id := req.requestID
  ensure (requestHasApproval req revoker = false)
    s!"authority {revoker} already approved emergency request {id}"
  modify fun rm => (rm.putRequest (req.approve rm.config revoker justification now)).grant
    req.requestID revoker
  let approved := req.approve rm.config revoker justification now
  let required := requiredApprovalThreshold rm.config approved
  if countApprovedAuthorities approved < required then
    return { success := false
             sealID
             requestID := req.requestID
             reason
             revokedBy := revoker
             revokedAt := now
             error := s!"awaiting {required} emergency approvals before execution" }
  else executeRevocation libraries now req.requestID

def tried (sealID : String) (call : Call RevocationResult) : Call RevocationResult := fun rm =>
  match call rm with
  | (.ok result, rm) => (.ok result, rm)
  | (.error reason, rm) => (.ok { success := false, sealID, error := reason }, rm)

def usesEmergencyPath (rm : RevocationManager) (revoker : String) : Bool :=
  (rm.authorities.lookup revoker).any fun authority =>
    authority.active && decide (AuthorityLevelEmergency ≤ authority.level)

def revokeOne (emergency : Bool) (revoker reason details : String)
    (item : String × RangeOrder String) : Call RevocationResult :=
  tried item.1 (if emergency then
      emergencyRevoke libraries now item.2 item.1 revoker reason details
    else revokeSeal libraries now item.1 revoker reason)

def revokeAll (emergency : Bool) (revoker reason details : String) :
    List (String × RangeOrder String) → Call (List RevocationResult)
  | [] => return []
  | item :: rest => do
      let result ← revokeOne libraries now emergency revoker reason details item
      let results ← revokeAll emergency revoker reason details rest
      return result :: results

def batchRevoke (items : List (String × RangeOrder String)) (revoker reason details : String) :
    Call (List RevocationResult) := do
  let rm ← read
  ensure (¬(rm.usesEmergencyPath revoker ∧ Strings.trimSpace details = ""))
    "emergency batch revocation justification is required"
  revokeAll libraries now (rm.usesEmergencyPath revoker) revoker reason details items

end RevocationManager

inductive Call where
  | registerAuthority (authority : RevocationAuthority)
  | requestRevocation (req : RevocationRequest)
  | approveRevocation (requestID approver comments : String)
  | fileDispute (requestID disputant reason : String)
  | resolveDispute (disputeID resolver : String) (upheld : Bool) (resolution : String)
  | executeRevocation (requestID : String)
  | emergencyRevoke (order : RangeOrder String) (sealID revoker reason justification : String)
  | batchRevoke (items : List (String × RangeOrder String)) (revoker reason details : String)

namespace RevocationManager

def step (libraries : Libraries) (rm : RevocationManager) (call : Int × Seal.Call) :
    RevocationManager :=
  match call.2 with
  | .registerAuthority authority => (registerAuthority call.1 authority rm).2
  | .requestRevocation req => (requestRevocation libraries call.1 req rm).2
  | .approveRevocation requestID approver comments =>
    (approveRevocation call.1 requestID approver comments rm).2
  | .fileDispute requestID disputant reason =>
    (fileDispute libraries call.1 requestID disputant reason rm).2
  | .resolveDispute disputeID resolver upheld resolution =>
    (resolveDispute call.1 disputeID resolver upheld resolution rm).2
  | .executeRevocation requestID => (executeRevocation libraries call.1 requestID rm).2
  | .emergencyRevoke order sealID revoker reason justification =>
    (emergencyRevoke libraries call.1 order sealID revoker reason justification rm).2
  | .batchRevoke items revoker reason details =>
    (batchRevoke libraries call.1 items revoker reason details rm).2

end RevocationManager

end Seal
