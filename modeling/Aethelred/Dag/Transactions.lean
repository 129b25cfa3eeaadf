import Aethelred.Dag.Ordering

/- What the id of a vertex says of its content, and what becomes of the transactions of a node. -/
namespace Dag

open Go Attempt Function Bytes List DAGMempool

def Vertex.layout (peerString : PeerId → Bytes) (v : Vertex) : Nat × Nat × List Nat × Nat :=
  ((Strconv.formatUint v.round).toUTF8.data.toList.length, (peerString v.author).length,
    v.transactions.map length, v.strongLinks.length)

theorem VertexID.bytes_injective : Injective VertexID.bytes := fun first second same =>
  Fin.ext (bigEndian_inj first.isLt second.isLt same)

theorem flatMap_bytes_inj {links links' : List VertexID} (length : links.length = links'.length)
    (same : links.flatMap VertexID.bytes = links'.flatMap VertexID.bytes) : links = links' := by
  rw [flatMap_def, flatMap_def] at same
  refine map_injective_iff.mpr VertexID.bytes_injective
    (eq_iff_flatten_eq.mpr ⟨same, ?_⟩)
  have sizes (ids : List VertexID) : (ids.map VertexID.bytes).map List.length =
      replicate ids.length 32 := by
    rw [map_map]
    exact map_eq_replicate_iff.mpr fun id _ => length_bigEndian 32 id
  rw [sizes, sizes, length]

theorem content_of_preimage {peerString : PeerId → Bytes}
    (named : Injective peerString) {v w : Vertex}
    (same : vertexPreimage peerString v = vertexPreimage peerString w)
    (alike : v.layout peerString = w.layout peerString) : v.content = w.content := by
  simp only [Vertex.layout, Prod.mk.injEq] at alike
  obtain ⟨rounds, authors, sizes, links⟩ := alike
  unfold vertexPreimage at same
  have flat : v.transactions.flatten.length = w.transactions.flatten.length := by
    rw [length_flatten, length_flatten, sizes]
  obtain ⟨front, sameLinks⟩ := append_inj same (by simp only [length_append, rounds, authors, flat])
  obtain ⟨front, sameTransactions⟩ := append_inj front (by simp only [length_append, rounds, authors])
  obtain ⟨sameRound, sameAuthor⟩ := append_inj front rounds
  have round : v.round = w.round := by
    have text := ofText_injective sameRound
    have digits := congrArg (fun text => Strconv.parseDigits text.toList) text
    simpa [Strconv.formatUint, Strconv.parseDigits_toDigits] using digits
  simp only [Vertex.content, Prod.mk.injEq]
  exact ⟨round, named sameAuthor, eq_iff_flatten_eq.mpr ⟨sameTransactions, sizes⟩,
    flatMap_bytes_inj links sameLinks⟩

/-- Where the hash does not collide, the id tells two vertices apart exactly if equal preimages are
divided at the same places. -/
theorem id_identifies_iff {libraries : Libraries} (v w : Vertex)
    (named : Injective libraries.peerString)
    (free : calculateVertexID libraries v = calculateVertexID libraries w →
      vertexPreimage libraries.peerString v =
        vertexPreimage libraries.peerString w) :
    (calculateVertexID libraries v = calculateVertexID libraries w →
      v.content = w.content) ↔
    (vertexPreimage libraries.peerString v =
        vertexPreimage libraries.peerString w →
      v.layout libraries.peerString = w.layout libraries.peerString) := by
  constructor
  · intro identifies same
    have content := identifies (congrArg libraries.sha256 same)
    simp only [Vertex.content, Prod.mk.injEq] at content
    obtain ⟨round, author, transactions, links⟩ := content
    rw [Vertex.layout, Vertex.layout, round, author, transactions, links]
  · intro alike same
    exact content_of_preimage named (free same) (alike (free same))

theorem id_identifies_twins : twins.1.content ≠ twins.2.content ∧
    (calculateVertexID sampleLibraries twins.1 =
      calculateVertexID sampleLibraries twins.2 → twins.1.content = twins.2.content) :=
  ⟨by decide, (id_identifies_iff twins.1 twins.2 (fun _ _ same => same)
    (fun same => absurd same (by decide))).mpr fun _ => by decide⟩

/-- One transaction of two bytes, and two of one byte. -/
theorem split_transaction_same_id :
    let v := sampleVertex 0 [3] [[1, 2]] []
    let w := sampleVertex 0 [3] [[1], [2]] []
    v.id = w.id ∧ v.content ≠ w.content ∧
      (addVertex sampleLibraries { w with id := v.id } (newDAGMempool [1] 4 {})).1 =
        .ok () := by
  decide +kernel

section Transactions

variable (libraries : Libraries)

/-- A node with the transactions it has taken and the vertices it has created. -/
structure Books where
  mempool : DAGMempool
  taken : List Bytes := []
  created : List Vertex := []

namespace Books

variable (books : Books)

def step : Call → Books
  | .addTransaction tx =>
    match addTransaction tx books.mempool with
    | (.ok _, d) => { books with mempool := d, taken := books.taken ++ [tx] }
    | (.error _, d) => { books with mempool := d }
  | .createVertex strongOrder weakOrder now =>
    match createVertex libraries strongOrder weakOrder now books.mempool with
    | (.ok v, d) => { books with mempool := d, created := books.created ++ [v] }
    | (.error _, d) => { books with mempool := d }
  | .addVertex v => { books with mempool := (addVertex libraries v books.mempool).2 }
  | .addCertificate cert =>
    { books with mempool := (addCertificate cert books.mempool).2 }
  | .advanceRound => { books with mempool := books.mempool.advanceRound }

def start (localPeer : PeerId) (totalValidators : Int) (config : DAGConfig) : Books where
  mempool := newDAGMempool localPeer totalValidators config

/-- What was taken is pending or in a vertex of this node, each as often as it was taken. -/
def Conserved : Prop :=
  books.taken.Perm (books.mempool.pendingTxs ++ books.created.flatMap Vertex.transactions)

/-- Every node of the configuration that is in the round and holds the linked vertices accepts the
vertex. -/
def Welcome (config : DAGConfig) (v : Vertex) : Prop :=
  ∀ d : DAGMempool, d.config = config → d.currentRound = v.round →
    (∀ link ∈ v.strongLinks, (d.vertices.lookup link).isSome) →
      (addVertex libraries v d).1 = .ok ()

/-- No transaction is lost by the call, and a vertex that it returns is welcome elsewhere. -/
def Keeps (call : Call) : Prop :=
  (books.step libraries call).Conserved ∧
    ∀ strongOrder weakOrder now, call = .createVertex strongOrder weakOrder now →
      ∀ v after, createVertex libraries strongOrder weakOrder now books.mempool =
        (.ok v, after) → Welcome libraries books.mempool.config v

/-- A vertex is asked for where there are enough links, and then the transactions that go into it
fit into a vertex and the round is not the last; or where there is none to take. -/
def Fits : Call → Prop
  | .createVertex strongOrder _ _ =>
    let d := books.mempool
    let txs := d.pendingTxs.take d.config.maxTxsPerVertex.toNat
    0 ≤ d.config.maxTxsPerVertex →
      if d.EnoughLinks strongOrder then
        d.currentRound ≤ (d.currentRound + 1) % 2 ^ 64 ∧
          ((txs.map length).sum : Nat) ≤ d.config.maxVertexSize
      else txs = []
  | _ => True

variable {libraries} {books : Books} {v : Vertex} {d : DAGMempool}

theorem conserved_addTransaction (tx : Bytes) (conserved : books.Conserved) :
    (books.step libraries (.addTransaction tx)).Conserved := by
  unfold Conserved at conserved ⊢
  dsimp only [step]
  obtain ⟨pending, perm, done⟩ | ⟨_, done⟩ := addTransaction_cases tx books.mempool
  · rw [done]
    refine (perm_append_singleton tx books.taken).trans ((conserved.cons tx).trans ?_)
    exact perm.symm.append_right _
  · rw [done]
    exact conserved

theorem pendingTxs_addVertex : (addVertex libraries v d).2.pendingTxs = d.pendingTxs := by
  cases done : addVertex libraries v d with
  | mk outcome after =>
    cases outcome with
    | error reason => rw [addVertex_error done]
    | ok _ =>
      obtain ⟨-, ⟨-, rfl⟩ | ⟨-, rfl⟩⟩ := addVertex_ok done
      · rfl
      · rfl

theorem pendingTxs_addCertificate (cert : Certificate) :
    (addCertificate cert d).2.pendingTxs = d.pendingTxs := by
  obtain ⟨_, -, -, done⟩ | ⟨_, done⟩ := addCertificate_cases cert d <;> rw [done]

theorem pendingTxs_advanceRound : d.advanceRound.pendingTxs = d.pendingTxs := by
  unfold advanceRound gcOldRounds
  split <;> rfl

theorem lookup_foldl_insert_isSome (links : List VertexID) (vertices : Map VertexID Vertex)
    {link : VertexID} (held : link ∈ links ∨ (vertices.lookup link).isSome) :
    ((links.foldl (fun vertices link => vertices.insert link v) vertices).lookup link).isSome := by
  induction links generalizing vertices with
  | nil => simpa using held
  | cons first rest ih =>
    apply ih
    by_cases same : link = first
    · right
      rw [same, AList.lookup_insert]
      rfl
    · rw [AList.lookup_insert_ne same]
      simpa [same] using held

theorem addVertex_eq_ok (own : v.id = calculateVertexID libraries v) :
    (addVertex libraries v d).1 = .ok () ↔ d.validateVertex v = .ok () := by
  rw [addVertex, read_bind, ofExcept_bind]
  cases d.validateVertex v with
  | error reason => exact iff_of_false nofun nofun
  | ok _ =>
    refine iff_of_true ?_ rfl
    dsimp only [Except.mapError]
    split
    · rfl
    · rw [ensure_bind, if_pos own]
      rfl

theorem welcome_iff (config : DAGConfig) (own : v.id = calculateVertexID libraries v) :
    Welcome libraries config v ↔ v.round ≤ (v.round + 1) % 2 ^ 64 ∧
      ((v.transactions.map length).sum : Nat) ≤ config.maxVertexSize := by
  unfold Welcome
  simp only [addVertex_eq_ok own, validateVertex_eq_ok]
  constructor
  · intro welcome
    obtain ⟨early, small, -⟩ := welcome
      { newDAGMempool [] 0 config with
        currentRound := v.round
        vertices := v.strongLinks.foldl (fun vertices link => vertices.insert link v) ∅ }
      rfl rfl fun link member => lookup_foldl_insert_isSome v.strongLinks ∅ (.inl member)
    exact ⟨early, small⟩
  · rintro ⟨early, small⟩ d rfl round held
    rw [round]
    exact ⟨early, small, held⟩

theorem perm_take_drop {α : Type} (count : Nat) (pending created : List α) :
    (pending ++ created).Perm (pending.drop count ++ (created ++ pending.take count)) := by
  conv_lhs => rw [← take_append_drop count pending]
  rw [append_assoc, ← append_assoc (pending.drop count)]
  exact perm_append_comm

/-- A vertex loses no transaction exactly if they all fit. -/
theorem keeps_createVertex_iff (conserved : books.Conserved)
    (strongOrder weakOrder : RangeOrder VertexID) (now : Int) :
    books.Keeps libraries (.createVertex strongOrder weakOrder now) ↔
      books.Fits (.createVertex strongOrder weakOrder now) := by
  unfold Conserved at conserved
  dsimp only [Fits]
  obtain ⟨sized, reason, failed⟩ | ⟨sized, enough, created⟩ | ⟨sized, few, reason, failed⟩ :=
    createVertex_cases libraries strongOrder weakOrder now books.mempool
  · refine iff_of_true ⟨?_, ?_⟩ fun sized' => absurd sized' sized
    · dsimp only [step]
      rw [failed]
      exact conserved
    · rintro _ _ _ ⟨⟩ v after created
      rw [failed] at created
      cases created
  · rw [imp_iff_right sized, if_pos enough]
    have welcomed : Welcome libraries books.mempool.config
        (vertexOf libraries strongOrder weakOrder now books.mempool) ↔ _ :=
      welcome_iff books.mempool.config rfl
    refine Iff.trans ?_ welcomed
    constructor
    · intro keeps
      exact keeps.2 _ _ _ rfl _ _ created
    · intro welcome
      refine ⟨?_, ?_⟩
      · dsimp only [step]
        rw [created]
        refine conserved.trans ?_
        dsimp only
        rw [flatMap_append, flatMap_singleton]
        exact perm_take_drop _ _ _
      · rintro _ _ _ ⟨⟩ v after again
        rw [created] at again
        cases again
        exact welcome
  · rw [imp_iff_right sized, if_neg few]
    constructor
    · rintro ⟨kept, -⟩
      dsimp only [step] at kept
      rw [failed] at kept
      have size := (conserved.symm.trans kept).length_eq
      simp only [length_append, length_drop] at size
      refine length_eq_zero_iff.mp ?_
      rw [length_take]
      omega
    · intro none
      refine ⟨?_, ?_⟩
      · dsimp only [step]
        rw [failed]
        have all := take_append_drop books.mempool.config.maxTxsPerVertex.toNat
          books.mempool.pendingTxs
        rw [none, nil_append] at all
        unfold Conserved
        dsimp only
        rw [all]
        exact conserved
      · rintro _ _ _ ⟨⟩ v after created
        rw [failed] at created
        cases created

theorem keeps_iff (conserved : books.Conserved) (call : Call) :
    books.Keeps libraries call ↔ books.Fits call := by
  have quiet {call : Call} (kept : (books.step libraries call).Conserved)
      (other : ∀ strongOrder weakOrder now, call ≠ .createVertex strongOrder weakOrder now) :
      books.Keeps libraries call :=
    ⟨kept, fun _ _ _ same => absurd same (other _ _ _)⟩
  cases call with
  | createVertex strongOrder weakOrder now => exact keeps_createVertex_iff conserved ..
  | addTransaction tx =>
    exact iff_of_true (quiet (conserved_addTransaction tx conserved) nofun) trivial
  | addVertex v =>
    refine iff_of_true (quiet ?_ nofun) trivial
    rwa [Conserved, step, pendingTxs_addVertex]
  | addCertificate cert =>
    refine iff_of_true (quiet ?_ nofun) trivial
    rwa [Conserved, step, pendingTxs_addCertificate]
  | advanceRound =>
    refine iff_of_true (quiet ?_ nofun) trivial
    rwa [Conserved, step, pendingTxs_advanceRound]

/-- No transaction is lost in a run, and every vertex it creates is welcome, exactly if each vertex
is asked for where it fits. -/
theorem keeps_run_iff (libraries : Libraries) (localPeer : PeerId) (totalValidators : Int)
    (config : DAGConfig) (calls : List Call) :
    Run.Along (step libraries) (Keeps libraries) (start localPeer totalValidators config) calls ↔
      Run.Along (step libraries) Fits (start localPeer totalValidators config) calls := by
  refine Run.along_iff_of_fair
    (fun (books : Books) call (conserved : books.Conserved) (_ : True) =>
      keeps_iff conserved call)
    (fun (books : Books) call (conserved : books.Conserved) (_ : True) fits =>
      ((keeps_iff conserved call).mpr fits).1) ?_
    (Run.along_true _ _)
  exact Perm.refl []

/-- A transaction that is added in the round after one without certificates. -/
theorem transaction_lost :
    ¬Run.Along (step sampleLibraries) (Keeps sampleLibraries) (start [1] 4 {})
      [.advanceRound, .addTransaction [7], .createVertex .asGiven .asGiven 0] := by
  intro keeps
  have kept := (keeps.2.2.1.1).length_eq
  revert kept
  decide +kernel

end Books

end Transactions

end Dag
