import Aethelred.Go.Hex
import Aethelred.Go.RangeOrder
import Aethelred.Go.Strings
import Aethelred.Lib.Bytes
import Aethelred.Lib.Run

namespace Go.Map

variable {κ ν : Type} [DecidableEq κ]

/-- `delete(m, key)` for every key of a list. -/
def eraseAll (m : Map κ ν) (keys : List κ) : Map κ ν := keys.foldl (fun m key => m.erase key) m

theorem lookup_eraseAll (m : Map κ ν) (keys : List κ) (key : κ) :
    (m.eraseAll keys).lookup key = if key ∈ keys then none else m.lookup key := by
  induction keys generalizing m with
  | nil => rfl
  | cons first rest ih =>
    have tail : m.eraseAll (first :: rest) = eraseAll (m.erase first) rest := rfl
    rw [tail, ih]
    by_cases same : key = first
    · subst same
      simp
    · simp [same, AList.lookup_erase_ne same]

end Go.Map

/- The DAG mempool (`network/dag/mempool.go`): vertices by id and by round, certificates, and the
order that a leader vertex puts transactions in. -/
namespace Dag

open Go Attempt

/-- A `peer.ID` is a string of bytes. -/
abbrev PeerId := Bytes

/-- 32 bytes. -/
abbrev VertexID := Fin (2 ^ 256)

namespace VertexID

def bytes (id : VertexID) : Bytes := Bytes.bigEndian 32 id

def string (id : VertexID) : String := Hex.encodeToString (bytes id)

end VertexID

structure Vertex where
  id : VertexID
  round : Nat
  author : PeerId
  transactions : List Bytes
  strongLinks : List VertexID
  weakLinks : List VertexID
  timestamp : Int
  deriving DecidableEq

structure Certificate where
  vertexID : VertexID
  round : Nat
  signatures : Map PeerId Bytes
  timestamp : Int

structure DAGConfig where
  maxTxsPerVertex : Int := 10000
  maxVertexSize : Int := 4 * 1024 * 1024
  retentionRounds : Nat := 100
  minStrongLinks : Int := 1
  enableEncryptedMempool : Bool := true
  encryptedTxPrefix : UInt8 := 0xAE

structure Libraries where
  sha256 : Bytes → VertexID
  /-- `peer.ID.String`. -/
  peerString : PeerId → Bytes

structure DAGMempool where
  vertices : Map VertexID Vertex := ∅
  roundVertices : Map Nat (Map VertexID Vertex) := ∅
  certificates : Map VertexID Certificate := ∅
  currentRound : Nat := 0
  localPeer : PeerId
  quorumSize : Int
  totalValidators : Int
  pendingTxs : List Bytes := []
  config : DAGConfig

def faultBound (totalValidators : Int) : Int := (totalValidators - 1).tdiv 3

def newDAGMempool (localPeer : PeerId) (totalValidators : Int) (config : DAGConfig) :
    DAGMempool where
  localPeer
  quorumSize := 2 * faultBound totalValidators + 1
  totalValidators
  config

namespace DAGMempool

abbrev Call := Attempt DAGMempool String

def minEncryptedTxLen : Nat := 1 + 32 + 16

def addTransaction (tx : Bytes) : Call Unit := do
  let d ← read
  ensure (tx ≠ []) "empty transaction"
  if d.config.enableEncryptedMempool ∧ 1 < tx.length ∧
      tx.head? = some d.config.encryptedTxPrefix then
    let size := tx.length
    ensure (minEncryptedTxLen ≤ tx.length)
      s!"encrypted transaction too short: {size} bytes (minimum {minEncryptedTxLen})"
    modify fun d => { d with pendingTxs := tx :: d.pendingTxs }
  else
    modify fun d => { d with pendingTxs := d.pendingTxs ++ [tx] }

def takePendingTxs : Call (List Bytes) := do
  let d ← read
  ensure (0 ≤ d.config.maxTxsPerVertex) "runtime error: makeslice: len out of range"
  modify fun d => { d with pendingTxs := d.pendingTxs.drop d.config.maxTxsPerVertex.toNat }
  return d.pendingTxs.take d.config.maxTxsPerVertex.toNat

def getStrongLinks (order : RangeOrder VertexID) (d : DAGMempool) : List VertexID :=
  if d.currentRound = 0 then []
  else
    (order.order (d.roundVertices.get (d.currentRound - 1) ∅).keys).filter fun id =>
      (d.certificates.lookup id).isSome

def getWeakLinks (order : RangeOrder VertexID) (d : DAGMempool) : List VertexID :=
  let curRound := d.roundVertices.get d.currentRound ∅
  (order.order curRound.keys).filter fun id =>
    (curRound.lookup id).any fun v => decide (v.author ≠ d.localPeer)

def vertexPreimage (peerString : PeerId → Bytes) (v : Vertex) : Bytes :=
  (Strconv.formatUint v.round).toUTF8.data.toList ++ peerString v.author ++
    v.transactions.flatten ++ v.strongLinks.flatMap VertexID.bytes

variable (libraries : Libraries)

def calculateVertexID (v : Vertex) : VertexID :=
  libraries.sha256 (vertexPreimage libraries.peerString v)

def storeVertex (d : DAGMempool) (v : Vertex) : DAGMempool :=
  { d with
    vertices := d.vertices.insert v.id v
    roundVertices := d.roundVertices.insert v.round
      ((d.roundVertices.get v.round ∅).insert v.id v) }

def createVertex (strongOrder weakOrder : RangeOrder VertexID) (now : Int) : Call Vertex := do
  let txs ← takePendingTxs
  let d ← read
  let strongLinks := d.getStrongLinks strongOrder
  let need := d.config.minStrongLinks
  let have_ := strongLinks.length
  ensure (d.currentRound = 0 ∨ d.config.minStrongLinks ≤ strongLinks.length)
    s!"insufficient strong links: need {need}, have {have_}"
  let unnamed : Vertex :=
    { id := 0
      round := d.currentRound
      author := d.localPeer
      transactions := txs
      strongLinks
      weakLinks := d.getWeakLinks weakOrder
      timestamp := now }
  let vertex := { unnamed with id := calculateVertexID libraries unnamed }
  modify fun d => d.storeVertex vertex
  return vertex

def validateVertex (d : DAGMempool) (v : Vertex) : Except String Unit :=
  let size := (v.transactions.map List.length).sum
  let current := d.currentRound
  let round := v.round
  if (d.currentRound + 1) % 2 ^ 64 < v.round then
    .error s!"vertex round {round} too far ahead (current: {current})"
  else if d.config.maxVertexSize < size then .error s!"vertex too large: {size} bytes"
  else
    match v.strongLinks.find? fun link => (d.vertices.lookup link).isNone with
    | some link => .error ("missing strong link: " ++ VertexID.string link)
    | none => .ok ()

def addVertex (v : Vertex) : Call Unit := do
  let d ← read
  ofExcept ((d.validateVertex v).mapError ("invalid vertex: " ++ ·))
  if (d.vertices.lookup v.id).isSome then return ()
  else
    ensure (v.id = calculateVertexID libraries v) "vertex ID mismatch"
    modify fun d => d.storeVertex v

def addCertificate (cert : Certificate) : Call Unit := do
  let d ← read
  ensure ((d.vertices.lookup cert.vertexID).isSome)
    ("unknown vertex: " ++ VertexID.string cert.vertexID)
  let need := d.quorumSize
  let have_ := cert.signatures.keys.length
  ensure (d.quorumSize ≤ cert.signatures.keys.length)
    s!"insufficient signatures: need {need}, have {have_}"
  modify fun d => { d with certificates := d.certificates.insert cert.vertexID cert }

def cutoff (d : DAGMempool) : Nat := d.currentRound - d.config.retentionRounds

def oldRounds (d : DAGMempool) : List Nat :=
  d.roundVertices.keys.filter fun round => decide (round < d.cutoff)

def oldVertices (d : DAGMempool) : List VertexID :=
  d.oldRounds.flatMap fun round => (d.roundVertices.get round ∅).keys

def gcOldRounds (d : DAGMempool) : DAGMempool :=
  if d.currentRound ≤ d.config.retentionRounds then d
  else
    { d with
      vertices := d.vertices.eraseAll d.oldVertices
      certificates := d.certificates.eraseAll d.oldVertices
      roundVertices := d.roundVertices.eraseAll d.oldRounds }

def nextRound (d : DAGMempool) : DAGMempool :=
  { d with currentRound := (d.currentRound + 1) % 2 ^ 64 }

def advanceRound (d : DAGMempool) : DAGMempool := d.nextRound.gcOldRounds

def collectTransactions (d : DAGMempool) :
    Nat → Vertex → List VertexID × List Bytes → List VertexID × List Bytes
  | 0, _, state => state
  | fuel + 1, v, state =>
    if v.id ∈ state.1 then state
    else
      let after := v.strongLinks.foldl (fun state linkID =>
        match d.vertices.lookup linkID with
        | some linkedV => d.collectTransactions fuel linkedV state
        | none => state) (v.id :: state.1, state.2)
      (after.1, after.2 ++ v.transactions)

def orderTransactions (d : DAGMempool) (leaderVertex : Vertex) : List Bytes :=
  (d.collectTransactions (d.vertices.keys.length + 2) leaderVertex ([], [])).2

end DAGMempool

inductive Call where
  | addTransaction (tx : Bytes)
  | createVertex (strongOrder weakOrder : RangeOrder VertexID) (now : Int)
  | addVertex (v : Vertex)
  | addCertificate (cert : Certificate)
  | advanceRound

/-- A mempool with a record of the vertices it has accepted, and of the certificates, each with the
vertex that it certified. -/
structure Node where
  mempool : DAGMempool
  accepted : List Vertex := []
  certified : List (Certificate × Vertex) := []

namespace Node

variable (libraries : Libraries)

def certification (d : DAGMempool) (cert : Certificate) : List (Certificate × Vertex) :=
  match DAGMempool.addCertificate cert d with
  | (.ok _, _) => ((d.vertices.lookup cert.vertexID).map fun v => (cert, v)).toList
  | (.error _, _) => []

/-- Failed calls change the mempool too. -/
def step (node : Node) : Call → Node
  | .addTransaction tx =>
    { node with mempool := (DAGMempool.addTransaction tx node.mempool).2 }
  | .createVertex strongOrder weakOrder now =>
    match DAGMempool.createVertex libraries strongOrder weakOrder now node.mempool with
    | (.ok v, d) => { node with mempool := d, accepted := node.accepted ++ [v] }
    | (.error _, d) => { node with mempool := d }
  | .addVertex v =>
    match DAGMempool.addVertex libraries v node.mempool with
    | (.ok _, d) => { node with mempool := d, accepted := node.accepted ++ [v] }
    | (.error _, d) => { node with mempool := d }
  | .addCertificate cert =>
    { node with
      mempool := (DAGMempool.addCertificate cert node.mempool).2
      certified := node.certified ++ certification node.mempool cert }
  | .advanceRound => { node with mempool := node.mempool.advanceRound }

def start (localPeer : PeerId) (totalValidators : Int) (config : DAGConfig) : Node where
  mempool := newDAGMempool localPeer totalValidators config

end Node

end Dag
