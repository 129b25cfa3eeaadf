import Aethelred.Dag.Certificates
import Aethelred.Lib.Postorder
import Mathlib.Algebra.Order.Ring.Nat

/- The order of transactions that nodes derive from one vertex. Nodes agree on it, and it is a causal
order of all ancestors, as long as an id stands for one vertex and no round is collected that holds
a strong link of an accepted vertex. -/
namespace Dag

open Go Postorder List DAGMempool

def Vertex.content (v : Vertex) : Nat × PeerId × List Bytes × List VertexID :=
  (v.round, v.author, v.transactions, v.strongLinks)

/-- Vertices of one id have one content. -/
def Agree (vertices : List Vertex) : Prop :=
  ∀ v ∈ vertices, ∀ w ∈ vertices, v.id = w.id → v.content = w.content

/-- The ids that a vertex comes to through strong links of known vertices. -/
inductive Ancestor (known : List Vertex) (v : Vertex) : VertexID → Prop
  | link {id : VertexID} : id ∈ v.strongLinks → Ancestor known v id
  | step {u : Vertex} {id : VertexID} : Ancestor known v u.id → u ∈ known → id ∈ u.strongLinks →
      Ancestor known v id

/-- The vertex and all its ancestors, each once and after its own ancestors. -/
structure CausalOrder (known : List Vertex) (v : Vertex) (order : List Vertex) : Prop where
  member : ∀ u ∈ order, u ∈ known
  distinct : (order.map Vertex.id).Nodup
  complete : ∀ id, id ∈ order.map Vertex.id ↔ id = v.id ∨ Ancestor known v id
  causal : ∀ earlier u later, order = earlier ++ u :: later → ∀ id, Ancestor known u id →
    id ∈ earlier.map Vertex.id

/-- From a vertex that both have accepted, two nodes derive one list of transactions, in a causal
order of the vertices that either of them knows. -/
def OrderedAlike (one two : Node) : Prop :=
  ∀ v, v ∈ one.accepted → v ∈ two.accepted → ∃ order,
    CausalOrder (one.accepted ++ two.accepted) v order ∧
    one.mempool.orderTransactions v = order.flatMap Vertex.transactions ∧
    two.mempool.orderTransactions v = order.flatMap Vertex.transactions

section Walk

def DAGMempool.graph (d : DAGMempool) : Postorder.Graph VertexID Vertex where
  find id := d.vertices.lookup id
  name := Vertex.id
  links := Vertex.strongLinks

variable {d : DAGMempool}

def DAGMempool.collectLink (d : DAGMempool) (fuel : Nat) (state : List VertexID × List Bytes)
    (linkID : VertexID) : List VertexID × List Bytes :=
  match d.vertices.lookup linkID with
  | some linkedV => d.collectTransactions fuel linkedV state
  | none => state

def collected (state : List VertexID × List Vertex) : List VertexID × List Bytes :=
  (state.1, state.2.flatMap Vertex.transactions)

/-- The collection is a postorder walk of the strong links. -/
theorem collectTransactions_eq (fuel : Nat) (v : Vertex) (state : List VertexID × List Vertex) :
    d.collectTransactions fuel v (collected state) = collected (d.graph.visit fuel v state) := by
  induction fuel generalizing v state with
  | zero => rfl
  | succ fuel ih =>
    have link : ∀ state id,
        d.collectLink fuel (collected state) id = collected (d.graph.follow fuel state id) := by
      intro state id
      cases found : d.vertices.lookup id with
      | none =>
        have missing : d.graph.find id = none := found
        rw [collectLink, Postorder.Graph.follow, found, missing]
      | some linked =>
        rw [Postorder.Graph.follow_some (g := d.graph) found, collectLink, found]
        exact ih linked state
    have along : ∀ (links : List VertexID) (state : List VertexID × List Vertex),
        links.foldl (d.collectLink fuel) (collected state) =
          collected (links.foldl (d.graph.follow fuel) state) := by
      intro links
      induction links with
      | nil => exact fun _ => rfl
      | cons first rest rests =>
        intro state
        rw [foldl_cons, foldl_cons, link, rests]
    by_cases already : d.graph.name v ∈ state.1
    · rw [Postorder.Graph.visit_seen already]
      exact if_pos already
    · have new : d.collectTransactions (fuel + 1) v (collected state) =
          let after := v.strongLinks.foldl (d.collectLink fuel) (collected (v.id :: state.1, state.2))
          (after.1, after.2 ++ v.transactions) := if_neg already
      rw [Postorder.Graph.visit_new already, new, along]
      unfold collected
      rw [flatMap_append, flatMap_singleton]
      rfl

theorem orderTransactions_eq (named : ∀ id u, d.vertices.lookup id = some u → u.id = id)
    (v : Vertex) {fuel : Nat} (more : d.vertices.keys.length + 2 ≤ fuel) :
    d.orderTransactions v =
      (d.graph.visit fuel v ([], [])).2.flatMap Vertex.transactions := by
  have walk := collectTransactions_eq (d := d) (d.vertices.keys.length + 2) v ([], [])
  have within : ∀ link next, d.graph.find link = some next →
      d.graph.name next ∈ insert v.id d.vertices.keys.toFinset := by
    intro link next found
    rw [show d.graph.name next = link from named link next found]
    apply Finset.mem_insert_of_mem
    exact mem_toFinset.mpr (Map.mem_keys_iff.mpr ⟨next, found⟩)
  have enough : Postorder.Graph.unseen (insert v.id d.vertices.keys.toFinset) [] <
      d.vertices.keys.length + 2 := by
    have few : (insert v.id d.vertices.keys.toFinset).card ≤ d.vertices.keys.length + 1 := by
      apply (Finset.card_insert_le _ _).trans
      exact Nat.succ_le_succ (toFinset_card_le _)
    simp only [Postorder.Graph.unseen, toFinset_nil, Finset.sdiff_empty]
    omega
  have stable := Postorder.Graph.visit_stable within v ([], []) (Finset.mem_insert_self _ _) enough
    more
  unfold orderTransactions
  rw [stable]
  exact congrArg Prod.snd walk

end Walk

def DAGMempool.removed (d : DAGMempool) : List VertexID :=
  if d.currentRound ≤ d.config.retentionRounds then [] else d.oldVertices

namespace Node

/-- What a node needs to order its vertices: every accepted one has its strong links in the mempool,
and they were accepted before it. -/
structure Sound (node : Node) : Prop where
  stored : ∀ id u, node.mempool.vertices.lookup id = some u → u ∈ node.accepted ∧ u.id = id
  rounds : ∀ round vertices id, node.mempool.roundVertices.lookup round = some vertices →
    id ∈ vertices.keys → ∃ u, node.mempool.vertices.lookup id = some u ∧ u.round = round
  closed : ∀ u ∈ node.accepted, ∀ link ∈ u.strongLinks,
    ∃ w, node.mempool.vertices.lookup link = some w
  ranked : ∃ rank : VertexID → Nat, ∀ u ∈ node.accepted, ∀ link ∈ u.strongLinks,
    rank link < rank u.id

/-- A new round does not collect the strong link of an accepted vertex. -/
def Retains (node : Node) : Call → Prop
  | .advanceRound => ∀ u ∈ node.accepted, ∀ link ∈ u.strongLinks,
      link ∉ node.mempool.nextRound.removed
  | _ => True

section Steps

variable {node : Node} {v : Vertex}

section

variable (sound : Sound node) (agree : Agree (node.accepted ++ [v]))
  (linked : ∀ link ∈ v.strongLinks, ∃ w, node.mempool.vertices.lookup link = some w)
include sound agree linked

/-- Accepted vertices link to earlier ones only. -/
theorem Sound.ranked_snoc :
    ∃ rank : VertexID → Nat, ∀ u ∈ node.accepted ++ [v], ∀ link ∈ u.strongLinks,
      rank link < rank u.id := by
  obtain ⟨rank, lower⟩ := sound.ranked
  have last : v ∈ node.accepted ++ [v] := mem_append_right _ (mem_singleton_self v)
  have known : ∀ link w, node.mempool.vertices.lookup link = some w →
      link ∈ node.accepted.map Vertex.id := by
    intro link w found
    obtain ⟨member, named⟩ := sound.stored link w found
    exact mem_map.mpr ⟨w, member, named⟩
  by_cases again : v.id ∈ node.accepted.map Vertex.id
  · obtain ⟨w, member, same⟩ := mem_map.mp again
    have content := agree v last w (mem_append_left _ member) same.symm
    have links : v.strongLinks = w.strongLinks := congrArg (·.2.2.2) content
    refine ⟨rank, fun u accepted link listed => ?_⟩
    rcases mem_append.mp accepted with old | new
    · exact lower u old link listed
    · obtain rfl := mem_singleton.mp new
      rw [← same]
      exact lower w member link (links ▸ listed)
  · refine ⟨fun id => if id = v.id then (v.strongLinks.map rank).sum + 1 else rank id, ?_⟩
    have other : ∀ link w, node.mempool.vertices.lookup link = some w → link ≠ v.id := by
      rintro link w found rfl
      exact again (known v.id w found)
    intro u accepted link member
    rcases mem_append.mp accepted with old | new
    · obtain ⟨w, found⟩ := sound.closed u old link member
      have differs : u.id ≠ v.id := fun same => again (mem_map.mpr ⟨u, old, same⟩)
      dsimp only
      rw [if_neg (other link w found), if_neg differs]
      exact lower u old link member
    · obtain rfl := mem_singleton.mp new
      obtain ⟨w, found⟩ := linked link member
      dsimp only
      rw [if_neg (other link w found), if_pos rfl]
      exact Nat.lt_succ_of_le (single_le_sum (by simp) _ (mem_map_of_mem member))

theorem Sound.known :
    Sound { node with accepted := node.accepted ++ [v] } where
  stored := fun id u found =>
    ⟨mem_append_left _ (sound.stored id u found).1, (sound.stored id u found).2⟩
  rounds := sound.rounds
  closed := by
    intro u accepted link member
    rcases mem_append.mp accepted with old | new
    · exact sound.closed u old link member
    · obtain rfl := mem_singleton.mp new
      exact linked link member
  ranked := sound.ranked_snoc agree linked

/-- Storing an acceptable vertex keeps the node sound. -/
theorem Sound.store :
    Sound { node with
      mempool := node.mempool.storeVertex v
      accepted := node.accepted ++ [v] } where
  stored := by
    intro id u found
    exact Map.forall_insert ⟨mem_append_right _ (mem_singleton_self v), rfl⟩
      (sound.known agree linked).stored id u found
  rounds := by
    intro round vertices id listed member
    have last : v ∈ node.accepted ++ [v] := mem_append_right _ (mem_singleton_self v)
    -- An id that was listed before is still there, unless the new vertex took its place.
    have old : ∀ u, node.mempool.vertices.lookup id = some u → u.round = round →
        ∃ u, (node.mempool.storeVertex v).vertices.lookup id = some u ∧ u.round = round := by
      intro u found within
      rw [storeVertex, Map.lookup_insert_eq]
      split
      next same =>
        obtain ⟨accepted, named⟩ := sound.stored id u found
        have content := agree u (mem_append_left _ accepted) v last (named.trans same)
        exact ⟨v, rfl, (congrArg Prod.fst content).symm.trans within⟩
      next => exact ⟨u, found, within⟩
    dsimp only [storeVertex] at listed
    rw [Map.lookup_insert_eq] at listed
    split at listed
    next here =>
      obtain rfl := Option.some.inj listed
      obtain ⟨held, found⟩ := Map.mem_keys_iff.mp member
      rw [Map.lookup_insert_eq] at found
      split at found
      next same =>
        refine ⟨v, ?_, here.symm⟩
        rw [storeVertex, Map.lookup_insert_eq, if_pos same]
      next =>
        cases present : node.mempool.roundVertices.lookup v.round with
        | none =>
          rw [Map.get, present] at found
          cases found
        | some vertices =>
          rw [Map.get, present] at found
          obtain ⟨u, stored, within⟩ := sound.rounds v.round vertices id present
            (Map.mem_keys_iff.mpr ⟨held, found⟩)
          exact old u stored (within.trans here.symm)
    next =>
      obtain ⟨u, stored, within⟩ := sound.rounds round vertices id listed member
      exact old u stored within
  closed := by
    intro u accepted link member
    obtain ⟨w, found⟩ := (sound.known agree linked).closed u accepted link member
    rw [storeVertex, Map.lookup_insert_eq]
    split
    · exact ⟨v, rfl⟩
    · exact ⟨w, found⟩
  ranked := sound.ranked_snoc agree linked

end

theorem lookup_advanceRound (d : DAGMempool) (id : VertexID) :
    d.advanceRound.vertices.lookup id =
      if id ∈ d.nextRound.removed then none else d.vertices.lookup id := by
  unfold advanceRound gcOldRounds removed
  split
  · simp [nextRound]
  · exact Map.lookup_eraseAll _ _ _

/-- So does a round's end that drops nothing still linked. -/
theorem Sound.advanced (sound : Sound node) (retains : node.Retains .advanceRound) :
    Sound { node with mempool := node.mempool.advanceRound } where
  stored := by
    intro id u found
    rw [lookup_advanceRound] at found
    split at found
    · cases found
    · exact sound.stored id u found
  rounds := by
    intro round vertices id listed member
    have kept : node.mempool.roundVertices.lookup round = some vertices ∧
        (id ∈ node.mempool.nextRound.removed → ∃ old, old ≠ round ∧
          ∃ held, node.mempool.roundVertices.lookup old = some held ∧ id ∈ held.keys) := by
      unfold advanceRound gcOldRounds at listed
      unfold removed
      split at listed
      next fresh =>
        refine ⟨listed, fun gone => ?_⟩
        rw [if_pos fresh] at gone
        cases gone
      next fresh =>
        dsimp only at listed
        rw [Map.lookup_eraseAll] at listed
        split at listed
        · cases listed
        next young =>
          refine ⟨listed, fun gone => ?_⟩
          rw [if_neg fresh] at gone
          obtain ⟨old, removed, held⟩ := mem_flatMap.mp gone
          refine ⟨old, ?_, ?_⟩
          · rintro rfl
            exact young removed
          · cases present : node.mempool.nextRound.roundVertices.lookup old with
            | none =>
              rw [Map.get, present] at held
              cases held
            | some vertices =>
              rw [Map.get, present] at held
              exact ⟨vertices, present, held⟩
    obtain ⟨u, found, within⟩ := sound.rounds round vertices id kept.1 member
    refine ⟨u, ?_, within⟩
    rw [lookup_advanceRound, if_neg]
    · exact found
    · intro gone
      obtain ⟨old, differs, held, listed, within'⟩ := kept.2 gone
      obtain ⟨w, found', round'⟩ := sound.rounds old held id listed within'
      obtain rfl := Option.some.inj (found.symm.trans found')
      exact differs (round'.symm.trans within)
  closed := by
    intro u accepted link member
    rw [lookup_advanceRound, if_neg (retains u accepted link member)]
    exact sound.closed u accepted link member
  ranked := sound.ranked

theorem Sound.getStrongLinks (sound : Sound node) (order : RangeOrder VertexID) :
    ∀ link ∈ node.mempool.getStrongLinks order,
      ∃ w, node.mempool.vertices.lookup link = some w := by
  intro link member
  unfold DAGMempool.getStrongLinks at member
  split at member
  · cases member
  · have listed := order.mem_order.mp (mem_filter.mp member).1
    cases present : node.mempool.roundVertices.lookup (node.mempool.currentRound - 1) with
    | none =>
      rw [Map.get, present] at listed
      cases listed
    | some vertices =>
      rw [Map.get, present] at listed
      obtain ⟨w, found, -⟩ := sound.rounds _ vertices link present listed
      exact ⟨w, found⟩

theorem Sound.moved {after : Node} {call : Call} (sound : Sound node)
    (moved : Moved node call after) (retains : node.Retains call)
    (agree : Agree after.accepted) : Sound after := by
  cases moved with
  | quiet pending => exact ⟨sound.stored, sound.rounds, sound.closed, sound.ranked⟩
  | created strongOrder weakOrder now v pending round links =>
    have quiet : Sound { node with mempool := { node.mempool with pendingTxs := pending } } :=
      ⟨sound.stored, sound.rounds, sound.closed, sound.ranked⟩
    exact quiet.store agree (links ▸ sound.getStrongLinks strongOrder)
  | known v linked held => exact sound.known agree linked
  | added v linked new => exact sound.store agree linked
  | certified cert v held enough =>
    exact ⟨sound.stored, sound.rounds, sound.closed, sound.ranked⟩
  | advanced => exact sound.advanced retains

theorem accepted_subset {after : Node} {call : Call} (moved : Moved node call after) :
    node.accepted ⊆ after.accepted := by
  cases moved with
  | quiet | certified | advanced => exact fun _ member => member
  | created | known | added => exact fun _ member => mem_append_left _ member

end Steps

variable {libraries : Libraries}

theorem accepted_subset_exec (libraries : Libraries) (start : Node) (calls : List Call) :
    start.accepted ⊆ (Run.exec (step libraries) start calls).accepted := by
  induction calls generalizing start with
  | nil => exact fun _ member => member
  | cons call rest ih =>
    exact fun _ member => ih _ (accepted_subset (step_moved start call) member)

theorem sound_exec {start : Node} (calls : List Call) (sound : Sound start)
    (retains : Run.Along (step libraries) Retains start calls)
    (agree : Agree (Run.exec (step libraries) start calls).accepted) :
    Sound (Run.exec (step libraries) start calls) := by
  induction calls generalizing start with
  | nil => exact sound
  | cons call rest ih =>
    refine ih (sound.moved (step_moved start call) retains.1 ?_) retains.2 agree
    have later := accepted_subset_exec libraries (step libraries start call) rest
    exact fun v member w member' => agree v (later member) w (later member')

theorem sound_start (localPeer : PeerId) (totalValidators : Int) (config : DAGConfig) :
    Sound (start localPeer totalValidators config) where
  stored := fun _ _ found => by cases found
  rounds := fun _ _ _ found => by cases found
  closed := fun _ member => by cases member
  ranked := ⟨fun _ => 0, fun _ member => by cases member⟩

end Node

section Agreement

variable {node one two : Node} {known : List Vertex} {v : Vertex}

theorem Node.Sound.descends (sound : node.Sound) :
    ∃ rank, Postorder.Graph.Descends node.mempool.graph rank (· ∈ node.accepted) := by
  obtain ⟨rank, lower⟩ := sound.ranked
  refine ⟨rank, fun u accepted link member => ?_⟩
  obtain ⟨w, found⟩ := sound.closed u accepted link member
  obtain ⟨accepted', named⟩ := sound.stored link w found
  exact ⟨w, found, accepted', named, lower u accepted link member⟩

theorem Node.Sound.ancestor_of_reaches (sound : node.Sound) (subset : node.accepted ⊆ known)
    (accepted : v ∈ node.accepted) {u : Vertex} (reaches : node.mempool.graph.Reaches v u) :
    u ∈ node.accepted ∧ (u.id = v.id ∨ Ancestor known v u.id) ∧
      ∀ link ∈ u.strongLinks, Ancestor known v link := by
  induction reaches with
  | refl => exact ⟨accepted, Or.inl rfl, fun link member => .link member⟩
  | @tail u w _ edge ih =>
    obtain ⟨link, member, found⟩ := edge
    obtain ⟨accepted', named⟩ := sound.stored link w found
    have reached : Ancestor known v w.id := named ▸ ih.2.2 link member
    exact ⟨accepted', Or.inr reached, fun link member => .step reached (subset accepted') member⟩

theorem mem_of_sorted {order : List Vertex} (agree : Agree known) (listed : order ⊆ known)
    (sorted : node.mempool.graph.Sorted order) {w : Vertex} (isKnown : w ∈ known)
    (there : w.id ∈ order.map Vertex.id) {link : VertexID} (member : link ∈ w.strongLinks) :
    ∃ earlier u later, order = earlier ++ u :: later ∧ link ∈ earlier.map Vertex.id := by
  obtain ⟨u, isListed, same⟩ := mem_map.mp there
  obtain ⟨earlier, later, split⟩ := append_of_mem isListed
  have content := agree u (listed isListed) w isKnown same
  have links : u.strongLinks = w.strongLinks := congrArg (·.2.2.2) content
  have ours : link ∈ u.strongLinks := links ▸ member
  exact ⟨earlier, u, later, split, sorted.before split ours⟩

/-- A walk lists each ancestor once, before its descendants. -/
theorem Node.Sound.causalOrder (sound : node.Sound) (subset : node.accepted ⊆ known)
    (agree : Agree known) (accepted : v ∈ node.accepted) {rank : VertexID → Nat}
    (descends : Postorder.Graph.Descends node.mempool.graph rank (· ∈ node.accepted)) {fuel : Nat}
    (enough : rank v.id < fuel) :
    CausalOrder known v (node.mempool.graph.visit fuel v ([], [])).2 := by
  obtain ⟨sorted, started, reached⟩ := Postorder.Graph.visit_start descends accepted enough
  generalize (node.mempool.graph.visit fuel v ([], [])).2 = order at *
  have listed : order ⊆ known := fun u member =>
    subset (sound.ancestor_of_reaches subset accepted (reached u member)).1
  refine ⟨listed, sorted.nodup, fun id => ⟨?_, ?_⟩, ?_⟩
  · intro member
    obtain ⟨u, isListed, rfl⟩ := mem_map.mp member
    exact (sound.ancestor_of_reaches subset accepted (reached u isListed)).2.1
  · rintro (rfl | ancestor)
    · exact started
    · -- The list contains the vertex, and with a vertex also the vertices that it links to.
      have inside : ∀ w ∈ known, w.id ∈ order.map Vertex.id → ∀ link ∈ w.strongLinks,
          link ∈ order.map Vertex.id := by
        intro w isKnown there link member
        obtain ⟨earlier, u, later, rfl, before⟩ :=
          mem_of_sorted agree listed sorted isKnown there member
        rw [map_append]
        exact mem_append_left _ before
      induction ancestor with
      | link member => exact inside v (subset accepted) started _ member
      | step _ isKnown member ih => exact inside _ isKnown ih _ member
  · intro earlier u later split id ancestor
    induction ancestor with
    | link member => exact sorted.before split member
    | @step w id _ isKnown member ih =>
      -- The place of `w` in the list is before that of `u`.
      obtain ⟨x, within, same⟩ := mem_map.mp ih
      obtain ⟨first, rest, rfl⟩ := append_of_mem within
      have place : order = first ++ x :: (rest ++ u :: later) := by
        rw [split, append_assoc, cons_append]
      have content := agree x (listed (place ▸ by simp)) w isKnown same
      have links : x.strongLinks = w.strongLinks := congrArg (·.2.2.2) content
      have ours : id ∈ x.strongLinks := links ▸ member
      have before : id ∈ first.map Vertex.id := sorted.before place ours
      rw [map_append]
      exact mem_append_left _ before

section

variable (sound : one.Sound) (sound' : two.Sound) (agree : Agree (one.accepted ++ two.accepted))
include sound sound' agree

theorem alike :
    Postorder.Graph.Alike one.mempool.graph two.mempool.graph
      fun a b => a ∈ one.accepted ∧ b ∈ two.accepted ∧ a.id = b.id := by
  have content : ∀ {a b : Vertex}, a ∈ one.accepted ∧ b ∈ two.accepted ∧ a.id = b.id →
      a.content = b.content := fun matched =>
    agree _ (mem_append_left _ matched.1) _ (mem_append_right _ matched.2.1) matched.2.2
  have links : ∀ {a b : Vertex}, a ∈ one.accepted ∧ b ∈ two.accepted ∧ a.id = b.id →
      a.strongLinks = b.strongLinks := fun matched => congrArg (·.2.2.2) (content matched)
  refine ⟨fun matched => matched.2.2, links, fun {a b} matched link member => ?_⟩
  obtain ⟨c, found⟩ := sound.closed a matched.1 link member
  obtain ⟨d, found'⟩ := sound'.closed b matched.2.1 link (links matched ▸ member)
  obtain ⟨accepted, named⟩ := sound.stored link c found
  obtain ⟨accepted', named'⟩ := sound'.stored link d found'
  exact ⟨c, d, found, found', accepted, accepted', named.trans named'.symm⟩

/-- Sound nodes order alike what they both know. -/
theorem orderedAlike_of_sound : OrderedAlike one two := by
  intro v accepted accepted'
  obtain ⟨rank, descends⟩ := sound.descends
  obtain ⟨fuel, enough, first, second⟩ : ∃ fuel, rank v.id < fuel ∧
      one.mempool.vertices.keys.length + 2 ≤ fuel ∧
      two.mempool.vertices.keys.length + 2 ≤ fuel :=
    ⟨rank v.id + one.mempool.vertices.keys.length + two.mempool.vertices.keys.length + 2,
      by omega, by omega, by omega⟩
  have matched := (Postorder.Graph.visit_alike (alike sound sound' agree) fuel
    ⟨accepted, accepted', rfl⟩ ([], []) ([], []) rfl .nil).2
  have transactions : (one.mempool.graph.visit fuel v ([], [])).2.flatMap Vertex.transactions =
      (two.mempool.graph.visit fuel v ([], [])).2.flatMap Vertex.transactions := by
    generalize (one.mempool.graph.visit fuel v ([], [])).2 = first at matched
    generalize (two.mempool.graph.visit fuel v ([], [])).2 = second at matched
    induction matched with
    | nil => rfl
    | cons same _ ih =>
      have content := agree _ (mem_append_left _ same.1) _
        (mem_append_right _ same.2.1) same.2.2
      rw [flatMap_cons, flatMap_cons, ih]
      exact congrArg (· ++ _) (congrArg (·.2.2.1) content)
  refine ⟨_, sound.causalOrder (subset_append_left _ _) agree accepted descends enough, ?_, ?_⟩
  · exact orderTransactions_eq (fun id u found => (sound.stored id u found).2) v first
  · rw [transactions]
    exact orderTransactions_eq (fun id u found => (sound'.stored id u found).2) v second

end

end Agreement

/-- Two nodes whose accepted vertices agree, and that have not collected a strong link of any of them,
order transactions alike. -/
theorem ordered_alike (libraries : Libraries) (localPeer localPeer' : PeerId)
    (totalValidators totalValidators' : Int) (config config' : DAGConfig) (calls calls' : List Call)
    (retains : Run.Along (Node.step libraries) Node.Retains
      (Node.start localPeer totalValidators config) calls)
    (retains' : Run.Along (Node.step libraries) Node.Retains
      (Node.start localPeer' totalValidators' config') calls')
    (agree : Agree ((Run.exec (Node.step libraries)
      (Node.start localPeer totalValidators config) calls).accepted ++
      (Run.exec (Node.step libraries)
        (Node.start localPeer' totalValidators' config') calls').accepted)) :
    OrderedAlike
      (Run.exec (Node.step libraries) (Node.start localPeer totalValidators config) calls)
      (Run.exec (Node.step libraries) (Node.start localPeer' totalValidators' config') calls') := by
  apply orderedAlike_of_sound
  · apply Node.sound_exec calls (Node.sound_start _ _ _) retains
    exact fun v member w member' =>
      agree v (mem_append_left _ member) w (mem_append_left _ member')
  · apply Node.sound_exec calls' (Node.sound_start _ _ _) retains'
    exact fun v member w member' =>
      agree v (mem_append_right _ member) w (mem_append_right _ member')
  · exact agree

def sampleTriple : Vertex × Vertex × Vertex :=
  let a := sampleVertex 0 [1] [[10], [11]] []
  let b := sampleVertex 0 [2] [[20]] []
  (a, b, sampleVertex 1 [3] [[30]] [a.id, b.id])

/-- The vertices arrive in different orders, and the nodes are in different rounds. -/
theorem ordered_alike_triple :
    OrderedAlike
      (Run.exec (Node.step sampleLibraries) (Node.start [1] 4 {})
        [.addVertex sampleTriple.1, .addVertex sampleTriple.2.1, .addVertex sampleTriple.2.2])
      (Run.exec (Node.step sampleLibraries) (Node.start [2] 4 {})
        [.advanceRound, .addVertex sampleTriple.2.1, .addVertex sampleTriple.1,
          .addVertex sampleTriple.2.2]) := by
  apply ordered_alike
  · exact ⟨trivial, trivial, trivial, trivial⟩
  · refine ⟨?_, trivial, trivial, trivial, trivial⟩
    intro u accepted
    cases accepted
  · unfold Agree
    decide +kernel

/-- A hundred and one rounds later a node has collected the links of a vertex it still holds. -/
theorem not_ordered_alike_collected :
    ¬∀ (libraries : Libraries) (localPeer localPeer' : PeerId) (totalValidators : Int)
      (config : DAGConfig) (calls calls' : List Call),
      OrderedAlike
        (Run.exec (Node.step libraries) (Node.start localPeer totalValidators config) calls)
        (Run.exec (Node.step libraries) (Node.start localPeer' totalValidators config) calls') := by
  intro every
  obtain ⟨order, -, first, second⟩ := every sampleLibraries [1] [2] 4 {}
    [.addVertex sampleTriple.1, .addVertex sampleTriple.2.1, .addVertex sampleTriple.2.2]
    ([.addVertex sampleTriple.1, .addVertex sampleTriple.2.1, .addVertex sampleTriple.2.2] ++
      replicate 101 .advanceRound)
    sampleTriple.2.2 (by decide +kernel) (by decide +kernel)
  have differ : (Run.exec (Node.step sampleLibraries) (Node.start [1] 4 {})
      [.addVertex sampleTriple.1, .addVertex sampleTriple.2.1,
        .addVertex sampleTriple.2.2]).mempool.orderTransactions sampleTriple.2.2 ≠
      (Run.exec (Node.step sampleLibraries) (Node.start [2] 4 {})
        ([.addVertex sampleTriple.1, .addVertex sampleTriple.2.1, .addVertex sampleTriple.2.2] ++
          replicate 101 .advanceRound)).mempool.orderTransactions sampleTriple.2.2 := by
    decide +kernel
  exact differ (first.trans second.symm)

end Dag
