import Aethelred.Dag.Mempool
import Aethelred.Lib.Quorum

/- What each call leaves of a mempool, and the certificates a node accepts. Two quorums share an
honest validator exactly when the number of validators is one more than a multiple of three. -/
namespace Dag

open Go Attempt List Option

namespace DAGMempool

variable {libraries : Libraries}
  {d after : DAGMempool} {v : Vertex} {cert : Certificate} {reason : String}

theorem addTransaction_cases (tx : Bytes) (d : DAGMempool) :
    (∃ pending, pending.Perm (tx :: d.pendingTxs) ∧
      addTransaction tx d = (.ok (), { d with pendingTxs := pending })) ∨
    ∃ reason, addTransaction tx d = (.error reason, d) := by
  unfold addTransaction
  rw [read_bind, ensure_bind]
  split
  · split
    · rw [ensure_bind]
      split
      · exact .inl ⟨_, .refl _, rfl⟩
      · exact .inr ⟨_, rfl⟩
    · exact .inl ⟨_, perm_append_singleton tx d.pendingTxs, rfl⟩
  · exact .inr ⟨_, rfl⟩

def vertexOf (libraries : Libraries) (strongOrder weakOrder : RangeOrder VertexID) (now : Int)
    (d : DAGMempool) : Vertex :=
  let unnamed : Vertex :=
    { id := 0
      round := d.currentRound
      author := d.localPeer
      transactions := d.pendingTxs.take d.config.maxTxsPerVertex.toNat
      strongLinks := d.getStrongLinks strongOrder
      weakLinks := d.getWeakLinks weakOrder
      timestamp := now }
  { unnamed with id := calculateVertexID libraries unnamed }

abbrev EnoughLinks (strongOrder : RangeOrder VertexID) (d : DAGMempool) : Prop :=
  d.currentRound = 0 ∨ d.config.minStrongLinks ≤ (d.getStrongLinks strongOrder).length

/-- A node creates a vertex, or stays as it is. -/
theorem createVertex_cases (libraries : Libraries) (strongOrder weakOrder : RangeOrder VertexID)
    (now : Int) (d : DAGMempool) :
    let spent : DAGMempool :=
      { d with pendingTxs := d.pendingTxs.drop d.config.maxTxsPerVertex.toNat }
    (¬0 ≤ d.config.maxTxsPerVertex ∧
      ∃ reason, createVertex libraries strongOrder weakOrder now d = (.error reason, d)) ∨
    (0 ≤ d.config.maxTxsPerVertex ∧ d.EnoughLinks strongOrder ∧
      createVertex libraries strongOrder weakOrder now d =
        (.ok (vertexOf libraries strongOrder weakOrder now d),
          spent.storeVertex (vertexOf libraries strongOrder weakOrder now d))) ∨
    (0 ≤ d.config.maxTxsPerVertex ∧ ¬d.EnoughLinks strongOrder ∧
      ∃ reason, createVertex libraries strongOrder weakOrder now d = (.error reason, spent)) := by
  have taken : takePendingTxs d =
      if 0 ≤ d.config.maxTxsPerVertex then
        (.ok (d.pendingTxs.take d.config.maxTxsPerVertex.toNat),
          { d with pendingTxs := d.pendingTxs.drop d.config.maxTxsPerVertex.toNat })
      else (.error "runtime error: makeslice: len out of range", d) := by
    unfold takePendingTxs
    rw [read_bind, ensure_bind]
    rfl
  intro spent
  unfold createVertex
  by_cases sized : 0 ≤ d.config.maxTxsPerVertex
  · rw [if_pos sized] at taken
    rw [bind_of_ok taken, read_bind, ensure_bind]
    by_cases enough : d.EnoughLinks strongOrder
    · exact .inr (.inl ⟨sized, enough, if_pos enough⟩)
    · exact .inr (.inr ⟨sized, enough, _, if_neg enough⟩)
  · rw [if_neg sized] at taken
    exact .inl ⟨sized, _, bind_of_error taken⟩

theorem validateVertex_eq_ok : d.validateVertex v = .ok () ↔
    v.round ≤ (d.currentRound + 1) % 2 ^ 64 ∧
      ((v.transactions.map length).sum : Nat) ≤ d.config.maxVertexSize ∧
      ∀ link ∈ v.strongLinks, (d.vertices.lookup link).isSome := by
  unfold validateVertex
  dsimp only
  simp only [Except.ite_error_eq_ok, not_lt]
  refine and_congr_right fun _ => and_congr_right fun _ => ?_
  have all : (∀ link ∈ v.strongLinks, (d.vertices.lookup link).isSome) ↔
      v.strongLinks.find? (fun link => (d.vertices.lookup link).isNone) = none := by
    simp [isSome_iff_ne_none]
  rw [all]
  cases v.strongLinks.find? fun link => (d.vertices.lookup link).isNone <;> simp

theorem validateVertex_links (valid : d.validateVertex v = .ok ()) :
    ∀ link ∈ v.strongLinks, ∃ linked, d.vertices.lookup link = some linked :=
  fun link member => isSome_iff_exists.mp ((validateVertex_eq_ok.mp valid).2.2 link member)

theorem addVertex_ok (added : addVertex libraries v d = (.ok (), after)) :
    (∀ link ∈ v.strongLinks, ∃ linked, d.vertices.lookup link = some linked) ∧
      ((∃ held, d.vertices.lookup v.id = some held) ∧ after = d ∨
        d.vertices.lookup v.id = none ∧ after = d.storeVertex v) := by
  unfold addVertex at added
  rw [read_bind] at added
  obtain ⟨_, between, checked, added⟩ := of_bind_ok added
  cases valid : d.validateVertex v with
  | error reason =>
    rw [valid] at checked
    cases checked
  | ok _ =>
    rw [valid] at checked
    obtain rfl : d = between := (Prod.mk.inj checked).2
    refine ⟨validateVertex_links valid, ?_⟩
    split at added
    next held =>
      exact Or.inl ⟨isSome_iff_exists.mp held, (Prod.mk.inj added).2.symm⟩
    next missing =>
      rw [ensure_bind] at added
      split at added
      · exact Or.inr ⟨not_isSome_iff_eq_none.mp missing, (Prod.mk.inj added).2.symm⟩
      · cases added

theorem addVertex_error (failed : addVertex libraries v d = (.error reason, after)) :
    after = d := by
  unfold addVertex at failed
  rw [read_bind] at failed
  cases valid : d.validateVertex v with
  | error reason =>
    rw [valid] at failed
    exact (Prod.mk.inj failed).2.symm
  | ok _ =>
    rw [ofExcept_bind, valid] at failed
    dsimp only [Except.mapError] at failed
    split at failed
    · cases failed
    · rw [ensure_bind] at failed
      split at failed
      · cases failed
      · exact (Prod.mk.inj failed).2.symm

theorem addCertificate_cases (cert : Certificate) (d : DAGMempool) :
    (∃ v, d.vertices.lookup cert.vertexID = some v ∧ d.quorumSize ≤ cert.signatures.keys.length ∧
      addCertificate cert d =
        (.ok (), { d with certificates := d.certificates.insert cert.vertexID cert })) ∨
      ∃ reason, addCertificate cert d = (.error reason, d) := by
  unfold addCertificate
  rw [read_bind, ensure_bind]
  split
  next held =>
    obtain ⟨v, held⟩ := isSome_iff_exists.mp held
    rw [ensure_bind]
    split
    next enough => exact Or.inl ⟨v, held, enough, rfl⟩
    next => exact Or.inr ⟨_, rfl⟩
  next => exact Or.inr ⟨_, rfl⟩

end DAGMempool

namespace Node

variable {libraries : Libraries} {quorum : Int}

/-- What a call can do to a node. -/
inductive Moved (node : Node) : Call → Node → Prop
  | quiet (call : Call) (pending : List Bytes) :
      Moved node call
        { node with mempool := { node.mempool with pendingTxs := pending } }
  | created (strongOrder weakOrder : RangeOrder VertexID) (now : Int) (v : Vertex)
      (pending : List Bytes) (round : v.round = node.mempool.currentRound)
      (links : v.strongLinks = node.mempool.getStrongLinks strongOrder) :
      Moved node (.createVertex strongOrder weakOrder now)
        { node with
          mempool := DAGMempool.storeVertex { node.mempool with pendingTxs := pending } v
          accepted := node.accepted ++ [v] }
  | known (v : Vertex)
      (linked : ∀ link ∈ v.strongLinks, ∃ linked, node.mempool.vertices.lookup link = some linked)
      (held : ∃ held, node.mempool.vertices.lookup v.id = some held) :
      Moved node (.addVertex v) { node with accepted := node.accepted ++ [v] }
  | added (v : Vertex)
      (linked : ∀ link ∈ v.strongLinks, ∃ linked, node.mempool.vertices.lookup link = some linked)
      (new : node.mempool.vertices.lookup v.id = none) :
      Moved node (.addVertex v)
        { node with
          mempool := node.mempool.storeVertex v
          accepted := node.accepted ++ [v] }
  | certified (cert : Certificate) (v : Vertex)
      (held : node.mempool.vertices.lookup cert.vertexID = some v)
      (enough : node.mempool.quorumSize ≤ cert.signatures.keys.length) :
      Moved node (.addCertificate cert)
        { node with
          mempool := { node.mempool with
            certificates := node.mempool.certificates.insert cert.vertexID cert }
          certified := node.certified ++ [(cert, v)] }
  | advanced : Moved node .advanceRound { node with mempool := node.mempool.advanceRound }

variable (node : Node)

theorem moved_createVertex (strongOrder weakOrder : RangeOrder VertexID) (now : Int) :
    Moved node (.createVertex strongOrder weakOrder now)
      (node.step libraries (.createVertex strongOrder weakOrder now)) := by
  dsimp only [step]
  obtain ⟨-, reason, failed⟩ | ⟨-, -, created⟩ | ⟨-, -, reason, failed⟩ :=
    DAGMempool.createVertex_cases libraries strongOrder weakOrder now node.mempool
  · rw [failed]
    exact .quiet _ node.mempool.pendingTxs
  · rw [created]
    exact .created strongOrder weakOrder now _ _ rfl rfl
  · rw [failed]
    exact .quiet _ _

theorem moved_addVertex (v : Vertex) :
    Moved node (.addVertex v) (node.step libraries (.addVertex v)) := by
  dsimp only [step]
  split
  next d added =>
    obtain ⟨linked, ⟨held, rfl⟩ | ⟨new, rfl⟩⟩ := DAGMempool.addVertex_ok added
    · exact .known v linked held
    · exact .added v linked new
  next reason d failed =>
    obtain rfl := DAGMempool.addVertex_error failed
    exact .quiet _ node.mempool.pendingTxs

theorem moved_addCertificate (cert : Certificate) :
    Moved node (.addCertificate cert) (node.step libraries (.addCertificate cert)) := by
  dsimp only [step, certification]
  rcases DAGMempool.addCertificate_cases cert node.mempool with
    ⟨v, held, enough, done⟩ | ⟨reason, failed⟩
  · rw [done, held]
    exact .certified cert v held enough
  · rw [failed]
    dsimp only
    rw [append_nil]
    exact .quiet _ node.mempool.pendingTxs

theorem step_moved (call : Call) : Moved node call (node.step libraries call) := by
  cases call with
  | addTransaction tx =>
    dsimp only [step]
    obtain ⟨pending, -, done⟩ | ⟨_, done⟩ := DAGMempool.addTransaction_cases tx node.mempool
    · rw [done]
      exact .quiet _ pending
    · rw [done]
      exact .quiet _ node.mempool.pendingTxs
  | createVertex strongOrder weakOrder now =>
    exact moved_createVertex node strongOrder weakOrder now
  | addVertex v => exact moved_addVertex node v
  | addCertificate cert => exact moved_addCertificate node cert
  | advanceRound => exact .advanced

/-- Every certified vertex has a quorum of signers. -/
structure Backed (quorum : Int) (node : Node) : Prop where
  quorumSize : node.mempool.quorumSize = quorum
  signed : ∀ pair ∈ node.certified, quorum ≤ pair.1.signatures.keys.length

theorem advanceRound_quorumSize (d : DAGMempool) : d.advanceRound.quorumSize = d.quorumSize := by
  unfold DAGMempool.advanceRound DAGMempool.gcOldRounds
  split
  · rfl
  · rfl

theorem Backed.moved {node after : Node} {call : Call} (backed : Backed quorum node)
    (moved : Moved node call after) : Backed quorum after := by
  cases moved with
  | quiet | created | known | added => exact ⟨backed.quorumSize, backed.signed⟩
  | certified cert v held enough =>
    refine ⟨backed.quorumSize, fun pair member => ?_⟩
    rcases mem_append.mp member with old | new
    · exact backed.signed pair old
    · obtain rfl := mem_singleton.mp new
      rw [← backed.quorumSize]
      exact enough
  | advanced =>
    exact ⟨(advanceRound_quorumSize node.mempool).trans backed.quorumSize, backed.signed⟩

/-- The states a node can get to, with a number of validators. -/
def Reachable (libraries : Libraries) (totalValidators : Int) (node : Node) : Prop :=
  ∃ (localPeer : PeerId) (config : DAGConfig) (calls : List Call),
    node = Run.exec (step libraries) (start localPeer totalValidators config) calls

theorem Reachable.backed {totalValidators : Int} {node : Node}
    (reachable : Reachable libraries totalValidators node) :
    Backed (2 * faultBound totalValidators + 1) node := by
  obtain ⟨localPeer, config, calls, rfl⟩ := reachable
  apply Run.invariant_of_step (Backed _) (fun state call backed => backed.moved (step_moved state call))
  exact ⟨rfl, fun _ none => by cases none⟩

end Node

/-- Validators of whom the honest ones sign one vertex for each author and round, and of whom no more
are faulty than their number allows. Vertices are told apart by a key. -/
structure Signing (n : Nat) {α : Type} (key : Vertex → α) where
  validators : Finset PeerId
  faulty : Finset PeerId
  signs : PeerId → Vertex → Prop
  count : validators.card = n
  inside : faulty ⊆ validators
  few : faulty.card ≤ faultBound n
  once : ∀ peer ∈ validators, peer ∉ faulty → ∀ v w, signs peer v → signs peer w →
    v.author = w.author → v.round = w.round → key v = key w

/-- The signatures of a certificate were made by validators, for the vertex it certifies. -/
def Signing.Genuine {n : Nat} {α : Type} {key : Vertex → α} (signing : Signing n key)
    (pair : Certificate × Vertex) : Prop :=
  ∀ peer ∈ pair.1.signatures.keys, peer ∈ signing.validators ∧ signing.signs peer pair.2

/-- Quorums of a number of validators share more than the tolerated faults, and no two vertices of one
author and round get certificates, on whichever nodes. -/
structure Safe (n : Nat) : Prop where
  overlap : ∀ (localPeer : PeerId) (config : DAGConfig) (validators first second : Finset PeerId),
    validators.card = n → first ⊆ validators → second ⊆ validators →
    first.card = (newDAGMempool localPeer n config).quorumSize →
    second.card = (newDAGMempool localPeer n config).quorumSize →
    faultBound n < (first ∩ second).card
  unique : ∀ {α : Type} {key : Vertex → α} (signing : Signing n key) (libraries : Libraries)
    (one two : Node), one.Reachable libraries n → two.Reachable libraries n →
    ∀ c ∈ one.certified, ∀ c' ∈ two.certified, signing.Genuine c → signing.Genuine c' →
    c.2.author = c'.2.author → c.2.round = c'.2.round → key c.2 = key c'.2

section Quorums

variable {n : Nat}

theorem faultBound_eq (positive : 1 ≤ n) : faultBound n = ((n - 1) / 3 : Nat) := by
  unfold faultBound
  rw [Int.tdiv_eq_ediv_of_nonneg (by omega)]
  omega

theorem overlap_of_mod (exact : n % 3 = 1) {validators first second : Finset PeerId}
    (count : validators.card = n) (inside : first ⊆ validators) (inside' : second ⊆ validators)
    (sized : 2 * faultBound n + 1 ≤ first.card) (sized' : 2 * faultBound n + 1 ≤ second.card) :
    faultBound n < (first ∩ second).card := by
  have bound := faultBound_eq (n := n) (by omega)
  have both := Quorum.card_add_card_le inside inside'
  omega

theorem unique_of_mod (exact : n % 3 = 1) {α : Type} {key : Vertex → α} (signing : Signing n key)
    {c c' : Certificate × Vertex} (enough : 2 * faultBound n + 1 ≤ c.1.signatures.keys.length)
    (enough' : 2 * faultBound n + 1 ≤ c'.1.signatures.keys.length) (genuine : signing.Genuine c)
    (genuine' : signing.Genuine c') (author : c.2.author = c'.2.author)
    (round : c.2.round = c'.2.round) : key c.2 = key c'.2 := by
  have signers : ∀ c : Certificate × Vertex, signing.Genuine c →
      c.1.signatures.keys.toFinset ⊆ signing.validators := by
    intro c genuine peer member
    exact (genuine peer (mem_toFinset.mp member)).1
  have counted : ∀ c : Certificate × Vertex,
      c.1.signatures.keys.toFinset.card = c.1.signatures.keys.length :=
    fun c => toFinset_card_of_nodup c.1.signatures.keys_nodup
  have shared := overlap_of_mod exact signing.count (signers c genuine) (signers c' genuine')
    (by rw [counted]; exact enough) (by rw [counted]; exact enough')
  have few := signing.few
  have more : signing.faulty.card <
      (c.1.signatures.keys.toFinset ∩ c'.1.signatures.keys.toFinset).card := by omega
  obtain ⟨peer, first, second, honest⟩ := Quorum.exists_honest more
  obtain ⟨validator, signed⟩ := genuine peer (mem_toFinset.mp first)
  obtain ⟨-, signed'⟩ := genuine' peer (mem_toFinset.mp second)
  exact signing.once peer validator honest _ _ signed signed' author round

theorem exists_validators (n : Nat) : ∃ validators : Finset PeerId, validators.card = n :=
  Infinite.exists_subset_card_eq PeerId n

end Quorums

/-- Certificates are safe exactly for one validator more than a multiple of three. -/
theorem safe_iff (n : Nat) (positive : 1 ≤ n) : Safe n ↔ n % 3 = 1 := by
  have bound := faultBound_eq positive
  constructor
  · intro safe
    by_contra other
    obtain ⟨validators, count⟩ := exists_validators n
    have fits : 2 * ((n - 1) / 3) + 1 ≤ validators.card := by omega
    have small : 2 * (2 * ((n - 1) / 3) + 1) ≤ validators.card + (n - 1) / 3 := by omega
    obtain ⟨first, second, inside, inside', sized, sized', few⟩ :=
      Quorum.exists_pair fits small (by omega)
    have shared := safe.overlap [] {} validators first second count inside inside'
      (by dsimp only [newDAGMempool]; omega) (by dsimp only [newDAGMempool]; omega)
    omega
  · intro exact
    constructor
    · intro localPeer config validators first second count inside inside' sized sized'
      exact overlap_of_mod exact count inside inside' sized.ge sized'.ge
    · intro α key signing libraries one two reachable reachable' c member c' member' genuine
        genuine' author round
      exact unique_of_mod exact signing (reachable.backed.signed c member)
        (reachable'.backed.signed c' member') genuine genuine' author round

theorem safe_four : Safe 4 := (safe_iff 4 (by decide)).mpr rfl

/-- The bytes of a preimage read as digits of base 257, which is enough to tell a few apart. -/
def sampleLibraries : Libraries where
  sha256 bytes := Fin.ofNat (2 ^ 256) (bytes.foldl (fun number byte => number * 257 + byte.toNat) 1)
  peerString peer := peer

def sampleVertex (round : Nat) (author : PeerId) (transactions : List Bytes)
    (strongLinks : List VertexID) : Vertex :=
  let unnamed : Vertex :=
    { id := 0, round, author, transactions, strongLinks, weakLinks := [], timestamp := 0 }
  { unnamed with id := DAGMempool.calculateVertexID sampleLibraries unnamed }

def sampleCertificate (v : Vertex) (signers : List PeerId) : Certificate where
  vertexID := v.id
  round := v.round
  signatures := signers.foldl (fun signatures peer => signatures.insert peer []) ∅
  timestamp := 0

def twins : Vertex × Vertex := (sampleVertex 0 [3] [[1]] [], sampleVertex 0 [3] [[2]] [])

def twinSigning : Signing 5 (id : Vertex → Vertex) where
  validators := {[1], [2], [3], [4], [5]}
  faulty := {[3]}
  signs peer v := v = twins.1 ∧ peer ∈ [[1], [2], [3]] ∨ v = twins.2 ∧ peer ∈ [[3], [4], [5]]
  count := rfl
  inside := by decide
  few := by decide
  once := by
    intro peer validator honest v w signed signed' author round
    rcases signed with ⟨rfl, first⟩ | ⟨rfl, second⟩
    · rcases signed' with ⟨rfl, -⟩ | ⟨rfl, second⟩
      · rfl
      · revert peer
        decide
    · rcases signed' with ⟨rfl, first⟩ | ⟨rfl, -⟩
      · revert peer
        decide
      · rfl

def twinCalls : List Call :=
  [.addVertex twins.1, .addVertex twins.2,
    .addCertificate (sampleCertificate twins.1 [[1], [2], [3]]),
    .addCertificate (sampleCertificate twins.2 [[3], [4], [5]])]

def twinNode : Node := Run.exec (Node.step sampleLibraries) (Node.start [1] 5 {}) twinCalls

theorem certified_twinNode : twinNode.certified =
    [(sampleCertificate twins.1 [[1], [2], [3]], twins.1),
      (sampleCertificate twins.2 [[3], [4], [5]], twins.2)] := by
  rfl

/-- With five validators a faulty one is enough for certificates of two vertices. -/
theorem not_safe_five : ¬Safe 5 := by
  intro safe
  have reachable : twinNode.Reachable sampleLibraries 5 := ⟨[1], {}, twinCalls, rfl⟩
  have same : twins.1 = twins.2 := by
    apply safe.unique twinSigning sampleLibraries twinNode twinNode reachable reachable
      (sampleCertificate twins.1 [[1], [2], [3]], twins.1) (by rw [certified_twinNode]; simp)
      (sampleCertificate twins.2 [[3], [4], [5]], twins.2) (by rw [certified_twinNode]; simp)
    · intro peer signer
      have listed : peer ∈ ([[3], [2], [1]] : List PeerId) := signer
      refine ⟨?_, Or.inl ⟨rfl, ?_⟩⟩
      · revert peer
        decide
      · revert peer
        decide
    · intro peer signer
      have listed : peer ∈ ([[5], [4], [3]] : List PeerId) := signer
      refine ⟨?_, Or.inr ⟨rfl, ?_⟩⟩
      · revert peer
        decide
      · revert peer
        decide
    · rfl
    · rfl
  exact absurd same (by decide)

end Dag
