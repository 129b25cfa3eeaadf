import Aethelred.Vm.ComplianceBonds

/- Runs of postings and liquidations of compliance bonds: every bond is held or liquidated once, and
each held bond is found by its identifier as long as no node posts two bonds of one type in a
block. -/
namespace Vm.PoUWEngine

open Go Attempt List

variable (sha256 : List UInt8 → Hash)

/-- What happens to bonds. -/
inductive BondCall
  | postComplianceBond (node : Address) (bondType : ComplianceBondType) (amount expiresAt : Nat)
  | executeComplianceSlash (node : Address) (bondId : Hash) (victim : Address)
      (reason : LiquidationReason) (evidenceHash : Hash)
  /-- `update_block`, of which the bonds see the time. -/
  | updateBlock (timestamp : Fin (2 ^ 64))

/-- The engine and the bonds that have been posted. -/
structure Bonding where
  engine : PoUWEngine
  posted : List ComplianceBond := []

namespace Bonding

variable (engine : PoUWEngine) (node : Address)

/-- A posting that is accepted: the amount is enough and the node not in cooldown. -/
def Accepts (bondType : ComplianceBondType) (amount : Nat) : Prop :=
  bondType.requiredBond ≤ amount ∧ engine.nodeCooldowns.get node 0 ≤ engine.currentTime

instance (bondType : ComplianceBondType) (amount : Nat) :
    Decidable (Accepts engine node bondType amount) := inferInstanceAs (Decidable (_ ∧ _))

def noted (posted : List ComplianceBond) (bond : ComplianceBond) :
    Except SystemContractError Hash × PoUWEngine → Bonding
  | (.ok _, engine) => ⟨engine, posted ++ [bond]⟩
  | (.error _, engine) => ⟨engine, posted⟩

variable (bonding : Bonding)

def step : BondCall → Bonding
  | .postComplianceBond node bondType amount expiresAt =>
    noted bonding.posted (bonding.engine.newBond sha256 node bondType amount expiresAt)
      (postComplianceBond sha256 node bondType amount expiresAt bonding.engine)
  | .executeComplianceSlash node bondId victim reason evidenceHash =>
    ⟨(executeComplianceSlash sha256 node bondId victim reason evidenceHash bonding.engine).2,
      bonding.posted⟩
  | .updateBlock timestamp => ⟨{ bonding.engine with currentTime := timestamp }, bonding.posted⟩

def atId (bondId : Hash) : List ComplianceBond :=
  match engine.bondLookup.lookup bondId with
  | some node => (engine.bondsOf node).filter fun bond => bond.bondId = bondId
  | none => []

variable (measure : Address → Hash → Nat → Nat)

def ofBond (bond : ComplianceBond) : Nat :=
  measure bond.node bond.bondId bond.amount

def ofRecord (record : BondLiquidation) : Nat :=
  measure record.node record.bondId record.bondAmount

def postedTotal (measure : Address → Hash → Nat → Nat) : Nat :=
  (bonding.posted.map (ofBond measure)).sum

def heldTotal : Nat :=
  engine.complianceBonds.sum fun bonds => (bonds.map (ofBond measure)).sum

def liquidatedTotal : Nat :=
  (engine.liquidationHistory.map (ofRecord measure)).sum

def only (bondId : Hash) (amount : Nat) : Address → Hash → Nat → Nat :=
  fun node' bondId' amount' => if (node', bondId', amount') = (node, bondId, amount) then 1 else 0

/-- Each held bond is the one its identifier leads to, each posted bond is held or liquidated and
not both, and so are the amounts. -/
structure Accounted (bonding : Bonding) : Prop where
  addressable : ∀ node, ∀ bond ∈ bonding.engine.bondsOf node,
    atId bonding.engine bond.bondId = [bond]
  once : ∀ node bondId amount, bonding.postedTotal (only node bondId amount) =
    heldTotal bonding.engine (only node bondId amount) +
      liquidatedTotal bonding.engine (only node bondId amount)
  conserved : (bonding.posted.map (·.amount)).sum =
    bonding.engine.complianceBonds.sum (fun bonds => (bonds.map (·.amount)).sum) +
      (bonding.engine.liquidationHistory.map (·.bondAmount)).sum

/-- The node of an accepted posting holds no bond of the type from the same block time. -/
def Distinct : BondCall → Prop
  | .postComplianceBond node bondType amount _ =>
    Accepts bonding.engine node bondType amount → ∀ bond ∈ bonding.engine.bondsOf node,
      ¬(bond.bondType = bondType ∧ bond.createdAt = bonding.engine.currentTime)
  | _ => True

/-- What is hashed for an accepted posting is one of the preimages without a collision. -/
def Covered (hashed : List (List UInt8)) (bonding : Bonding) : BondCall → Prop
  | .postComplianceBond node bondType amount _ =>
    Accepts bonding.engine node bondType amount →
      bondPreimage node bondType bonding.engine.currentTime ∈ hashed
  | _ => True

section Calls

variable {sha256} {bonding : Bonding} {engine : PoUWEngine}

theorem postComplianceBond_accepted {node : Address} {bondType : ComplianceBondType} {amount : Nat}
    (accepts : Accepts engine node bondType amount) (expiresAt : Nat) :
    postComplianceBond sha256 node bondType amount expiresAt engine =
      (.ok (generateBondId sha256 node bondType engine.currentTime),
        engine.file (engine.newBond sha256 node bondType amount expiresAt)) := by
  simp only [postComplianceBond, ensure_bind, read_bind, modify_bind, accepts.1, accepts.2,
    ↓reduceIte]
  rfl

theorem postComplianceBond_refused {node : Address} {bondType : ComplianceBondType} {amount : Nat}
    (refused : ¬Accepts engine node bondType amount) (expiresAt : Nat) :
    ∃ reason, postComplianceBond sha256 node bondType amount expiresAt engine =
      (.error reason, engine) := by
  simp only [postComplianceBond, ensure_bind, read_bind, modify_bind]
  split
  next enough =>
    rw [if_neg fun ready => refused ⟨enough, ready⟩]
    exact ⟨_, rfl⟩
  · exact ⟨_, rfl⟩

theorem executeComplianceSlash_cases (node : Address) (bondId : Hash) (victim : Address)
    (reason : LiquidationReason) (evidenceHash : Hash) :
    (executeComplianceSlash sha256 node bondId victim reason evidenceHash engine).2 = engine ∨
    ∃ bonds bond, engine.complianceBonds.lookup node = some bonds ∧
      bonds.find? (fun bond => decide (bond.bondId = bondId)) = some bond ∧
      (executeComplianceSlash sha256 node bondId victim reason evidenceHash engine).2 =
        engine.liquidate node bonds
          (engine.liquidation sha256 bond node bondId victim reason evidenceHash) := by
  simp only [executeComplianceSlash, read_bind, okOr_bind]
  cases present : engine.complianceBonds.lookup node with
  | none => exact .inl rfl
  | some bonds =>
    dsimp only
    cases found : bonds.find? (fun bond => decide (bond.bondId = bondId)) with
    | none => exact .inl rfl
    | some bond => exact .inr ⟨bonds, bond, rfl, found, rfl⟩

theorem bondsOf_eq {node : Address} {bonds : List ComplianceBond}
    (present : engine.complianceBonds.lookup node = some bonds) : engine.bondsOf node = bonds := by
  rw [bondsOf, Map.get, present, Option.getD_some]

theorem share_bonds (node : Address) (measure : Address → Hash → Nat → Nat) :
    Map.share (fun bonds => (bonds.map (ofBond measure)).sum)
      (engine.complianceBonds.lookup node) = ((engine.bondsOf node).map (ofBond measure)).sum := by
  unfold bondsOf Map.get
  cases engine.complianceBonds.lookup node with
  | none => rfl
  | some bonds => rfl

end Calls

theorem filter_eq_singleton {α β : Type} [DecidableEq β] {name : α → β} {items : List α}
    (nodup : (items.map name).Nodup) {item : α} (member : item ∈ items) :
    (items.filter fun other => name other = name item) = [item] := by
  induction items with
  | nil => cases member
  | cons head rest ih =>
    rw [map_cons, nodup_cons] at nodup
    by_cases same : name head = name item
    · have absent : item ∉ rest := fun inside => nodup.1 (same ▸ mem_map_of_mem inside)
      have first : item = head := (mem_cons.mp member).resolve_right absent
      subst first
      have others : rest.filter (fun other => decide (name other = name item)) = [] := by
        refine filter_eq_nil_iff.mpr fun other inside => ?_
        have differ : name other ≠ name item :=
          fun equal => nodup.1 (equal ▸ mem_map_of_mem inside)
        simpa using differ
      rw [filter_cons_of_pos (by simp), others]
    · have inside : item ∈ rest := by
        obtain rfl | inside := mem_cons.mp member
        · exact absurd rfl same
        · exact inside
      rw [filter_cons_of_neg (by simpa using same)]
      exact ih nodup.2 inside

theorem ne_of_mem_eraseP {α β : Type} [DecidableEq β] {name : α → β} {items : List α} {sought : β}
    (nodup : (items.map name).Nodup) {item : α}
    (member : item ∈ items.eraseP fun other => name other = sought) : name item ≠ sought := by
  induction items with
  | nil => cases member
  | cons head rest ih =>
    rw [map_cons, nodup_cons] at nodup
    by_cases hit : name head = sought
    · rw [eraseP_cons_of_pos (by simpa using hit)] at member
      intro same
      exact nodup.1 (hit ▸ same ▸ mem_map_of_mem member)
    · rw [eraseP_cons_of_neg (by simpa using hit)] at member
      obtain rfl | inside := mem_cons.mp member
      · exact hit
      · exact ih nodup.2 inside

theorem sum_map_eraseP {α : Type} {test : α → Bool} {items : List α} {item : α}
    (found : items.find? test = some item) (amount : α → Nat) :
    ((items.eraseP test).map amount).sum + amount item = (items.map amount).sum := by
  induction items with
  | nil => cases found
  | cons head rest ih =>
    by_cases hit : test head = true
    · rw [find?_cons_of_pos hit] at found
      cases found
      rw [eraseP_cons_of_pos hit, map_cons, sum_cons]
      omega
    · rw [find?_cons_of_neg hit] at found
      rw [eraseP_cons_of_neg hit, map_cons, sum_cons, map_cons,
        sum_cons]
      have rest := ih found
      omega

section Invariant

variable {sha256} {hashed : List (List UInt8)} {bonding : Bonding}

/-- Bonds are filed under their hashes, and all that was posted is held or liquidated. -/
structure Kept (sha256 : List UInt8 → Hash) (hashed : List (List UInt8)) (bonding : Bonding) :
    Prop where
  placed : ∀ node, ∀ bond ∈ bonding.engine.bondsOf node, bond.node = node
  named : ∀ node, ∀ bond ∈ bonding.engine.bondsOf node,
    bond.bondId = generateBondId sha256 node bond.bondType bond.createdAt
  hashes : ∀ node, ∀ bond ∈ bonding.engine.bondsOf node,
    bondPreimage node bond.bondType bond.createdAt ∈ hashed
  filed : ∀ node, ∀ bond ∈ bonding.engine.bondsOf node,
    bonding.engine.bondLookup.lookup bond.bondId = some node
  unique : ∀ node, ((bonding.engine.bondsOf node).map (·.bondId)).Nodup
  balanced : ∀ measure, bonding.postedTotal measure =
    heldTotal bonding.engine measure + liquidatedTotal bonding.engine measure

theorem Kept.accounted (kept : Kept sha256 hashed bonding) : bonding.Accounted where
  addressable node bond member := by
    rw [atId, kept.filed node bond member]
    exact filter_eq_singleton (kept.unique node) member
  once node bondId amount := kept.balanced (only node bondId amount)
  conserved := kept.balanced fun _ _ amount => amount

theorem bondPreimage_inj {node other : Address} {bondType type : ComplianceBondType}
    {timestamp time : Fin (2 ^ 64)}
    (same : bondPreimage node bondType timestamp = bondPreimage other type time) :
    node = other ∧ bondType = type ∧ timestamp = time := by
  unfold bondPreimage at same
  have fields := append_cancel_left same
  obtain ⟨account, fields⟩ := append_inj fields (by simp)
  obtain ⟨kind, last⟩ := append_inj fields rfl
  refine ⟨Fin.ext ?_, ?_, Fin.ext ?_⟩
  · exact Bytes.bigEndian_inj node.isLt other.isLt account
  · exact ComplianceBondType.code_inj (cons.inj kind).1
  · exact Bytes.littleEndian_inj timestamp.isLt time.isLt last

theorem bondsOf_file (engine : PoUWEngine) (bond : ComplianceBond) (node : Address) :
    (engine.file bond).bondsOf node =
      if node = bond.node then engine.bondsOf node ++ [bond] else engine.bondsOf node := by
  unfold bondsOf file
  rw [Map.get_insert_eq]
  split
  next same => rw [same, bondsOf]
  · rfl

theorem bondsOf_liquidate (engine : PoUWEngine) (node other : Address)
    (bonds : List ComplianceBond) (record : BondLiquidation) :
    (engine.liquidate node bonds record).bondsOf other =
      if other = node then bonds.eraseP fun bond => bond.bondId = record.bondId
      else engine.bondsOf other := by
  unfold bondsOf liquidate
  rw [Map.get_insert_eq]

variable {bond : ComplianceBond}

theorem Kept.fresh (kept : Kept sha256 hashed bonding)
    (collisionless : ∀ p ∈ hashed, ∀ q ∈ hashed, sha256 p = sha256 q → p = q)
    {node : Address} {bondType : ComplianceBondType}
    (covered : bondPreimage node bondType bonding.engine.currentTime ∈ hashed)
    (distinct : ∀ bond ∈ bonding.engine.bondsOf node,
      ¬(bond.bondType = bondType ∧ bond.createdAt = bonding.engine.currentTime))
    {other : Address} (member : bond ∈ bonding.engine.bondsOf other) :
    bond.bondId ≠ generateBondId sha256 node bondType bonding.engine.currentTime := by
  intro same
  rw [kept.named other bond member] at same
  have fields := bondPreimage_inj
    (collisionless _ (kept.hashes other bond member) _ covered same)
  obtain ⟨rfl, sameType, sameTime⟩ := fields
  exact distinct bond member ⟨sameType, sameTime⟩

theorem balanced_post (balanced : ∀ measure, bonding.postedTotal measure =
      heldTotal bonding.engine measure + liquidatedTotal bonding.engine measure)
    (bond : ComplianceBond) (measure : Address → Hash → Nat → Nat) :
    postedTotal ⟨bonding.engine.file bond, bonding.posted ++ [bond]⟩ measure =
      heldTotal (bonding.engine.file bond) measure +
        liquidatedTotal (bonding.engine.file bond) measure := by
  have before := balanced measure
  have held := Map.sum_insert bonding.engine.complianceBonds bond.node
    (bonding.engine.bondsOf bond.node ++ [bond]) fun bonds => (bonds.map (ofBond measure)).sum
  rw [share_bonds, map_append, sum_append, map_singleton, sum_singleton]
    at held
  have posted : postedTotal ⟨bonding.engine.file bond, bonding.posted ++ [bond]⟩ measure =
      bonding.postedTotal measure + ofBond measure bond := by
    unfold postedTotal
    rw [map_append, sum_append, map_singleton, sum_singleton]
  change _ = Map.sum (bonding.engine.complianceBonds.insert bond.node
    (bonding.engine.bondsOf bond.node ++ [bond])) _ + liquidatedTotal bonding.engine measure
  unfold heldTotal at before
  omega

variable {bondType : ComplianceBondType}

variable {node : Address}

theorem step_accepted {amount : Nat}
    (accepts : Accepts bonding.engine node bondType amount) (expiresAt : Nat) :
    bonding.step sha256 (.postComplianceBond node bondType amount expiresAt) =
      ⟨bonding.engine.file (bonding.engine.newBond sha256 node bondType amount expiresAt),
        bonding.posted ++ [bonding.engine.newBond sha256 node bondType amount expiresAt]⟩ :=
  congrArg (noted _ _) (postComplianceBond_accepted accepts expiresAt)

theorem step_refused {amount : Nat}
    (refused : ¬Accepts bonding.engine node bondType amount) (expiresAt : Nat) :
    bonding.step sha256 (.postComplianceBond node bondType amount expiresAt) = bonding := by
  obtain ⟨reason, failed⟩ := postComplianceBond_refused refused expiresAt
  exact congrArg (noted _ _) failed

/-- Filing a bond under a new hash keeps the books. -/
theorem Kept.file (kept : Kept sha256 hashed bonding)
    (named : bond.bondId = generateBondId sha256 bond.node bond.bondType bond.createdAt)
    (covered : bondPreimage bond.node bond.bondType bond.createdAt ∈ hashed)
    (fresh : ∀ node, ∀ held ∈ bonding.engine.bondsOf node, held.bondId ≠ bond.bondId) :
    Kept sha256 hashed ⟨bonding.engine.file bond, bonding.posted ++ [bond]⟩ := by
  have cases : ∀ node, ∀ held ∈ (bonding.engine.file bond).bondsOf node,
      held ∈ bonding.engine.bondsOf node ∨ held = bond ∧ node = bond.node := by
    intro node held member
    rw [bondsOf_file] at member
    split at member
    next same =>
      obtain old | new := mem_append.mp member
      · exact .inl old
      · exact .inr ⟨mem_singleton.mp new, same⟩
    · exact .inl member
  refine ⟨fun node held member => ?_, fun node held member => ?_, fun node held member => ?_,
    fun node held member => ?_, fun node => ?_, balanced_post kept.balanced bond⟩
  · obtain old | ⟨rfl, rfl⟩ := cases node held member
    · exact kept.placed node held old
    · rfl
  · obtain old | ⟨rfl, rfl⟩ := cases node held member
    · exact kept.named node held old
    · exact named
  · obtain old | ⟨rfl, rfl⟩ := cases node held member
    · exact kept.hashes node held old
    · exact covered
  · change (bonding.engine.bondLookup.insert bond.bondId bond.node).lookup held.bondId = some node
    obtain old | ⟨rfl, rfl⟩ := cases node held member
    · rw [AList.lookup_insert_ne (fresh node held old)]
      exact kept.filed node held old
    · exact AList.lookup_insert _
  · change (((bonding.engine.file bond).bondsOf node).map (·.bondId)).Nodup
    rw [bondsOf_file]
    split
    · rw [map_append, nodup_append]
      refine ⟨kept.unique node, nodup_singleton _, fun id old other new => ?_⟩
      obtain ⟨held, member, rfl⟩ := mem_map.mp old
      rw [map_singleton, mem_singleton] at new
      rw [new]
      exact fresh node held member
    · exact kept.unique node

theorem Kept.post (kept : Kept sha256 hashed bonding)
    (collisionless : ∀ p ∈ hashed, ∀ q ∈ hashed, sha256 p = sha256 q → p = q)
    {amount expiresAt : Nat}
    (covered : bonding.Covered hashed (.postComplianceBond node bondType amount expiresAt))
    (distinct : bonding.Distinct (.postComplianceBond node bondType amount expiresAt)) :
    Kept sha256 hashed
      (bonding.step sha256 (.postComplianceBond node bondType amount expiresAt)) := by
  by_cases accepts : Accepts bonding.engine node bondType amount
  · rw [step_accepted accepts]
    exact kept.file rfl (covered accepts) fun other held member =>
      kept.fresh collisionless (covered accepts) (distinct accepts) member
  · rw [step_refused accepts]
    exact kept

theorem atId_file_ne {engine : PoUWEngine} {bond held : ComplianceBond}
    (member : held ∈ engine.bondsOf bond.node) (same : held.bondId = bond.bondId) :
    atId (engine.file bond) bond.bondId ≠ [bond] := by
  intro found
  have filed : (engine.file bond).bondLookup.lookup bond.bondId = some bond.node :=
    AList.lookup_insert _
  rw [atId, filed] at found
  dsimp only at found
  rw [bondsOf_file, if_pos rfl, filter_append, filter_cons_of_pos (by simp),
    filter_nil] at found
  have none := append_left_eq_self.mp found
  exact filter_eq_nil_iff.mp none held member (decide_eq_true same)

theorem Kept.distinct_of_accounted (kept : Kept sha256 hashed bonding) (call : BondCall)
    (accounted : (bonding.step sha256 call).Accounted) : bonding.Distinct call := by
  cases call with
  | postComplianceBond node bondType amount expiresAt =>
    rintro accepts held member ⟨sameType, sameTime⟩
    rw [step_accepted accepts] at accounted
    generalize new : bonding.engine.newBond sha256 node bondType amount expiresAt = bond
      at accounted
    have atNode : bond.node = node := new ▸ rfl
    have same : held.bondId = bond.bondId := by
      rw [kept.named node held member, sameType, sameTime, ← new]
      rfl
    refine atId_file_ne (atNode ▸ member) same (accounted.addressable node bond ?_)
    rw [bondsOf_file, if_pos atNode.symm]
    exact mem_append_right _ (mem_singleton_self _)
  | executeComplianceSlash node bondId victim reason evidenceHash => trivial
  | updateBlock timestamp => trivial

/-- A liquidation moves what it takes from the bond. -/
theorem Kept.slash (kept : Kept sha256 hashed bonding)
    {bonds : List ComplianceBond} {record : BondLiquidation}
    (present : bonding.engine.complianceBonds.lookup node = some bonds)
    (found : bonds.find? (fun bond => decide (bond.bondId = record.bondId)) = some bond)
    (atNode : record.node = node) (amount : record.bondAmount = bond.amount) :
    Kept sha256 hashed ⟨bonding.engine.liquidate node bonds record, bonding.posted⟩ := by
  have listed := bondsOf_eq present
  have member : bond ∈ bonding.engine.bondsOf node := listed ▸ mem_of_find?_eq_some found
  have hit : bond.bondId = record.bondId := by simpa using find?_some found
  have smaller : ∀ other, ∀ held ∈ (bonding.engine.liquidate node bonds record).bondsOf other,
      held ∈ bonding.engine.bondsOf other := by
    intro other held inside
    rw [bondsOf_liquidate] at inside
    split at inside
    next same =>
      rw [same, listed]
      exact mem_of_mem_eraseP inside
    · exact inside
  refine ⟨fun other held inside => kept.placed other held (smaller other held inside),
    fun other held inside => kept.named other held (smaller other held inside),
    fun other held inside => kept.hashes other held (smaller other held inside),
    fun other held inside => ?_, fun other => ?_, fun measure => ?_⟩
  · have old := smaller other held inside
    have filed := kept.filed other held old
    have differ : held.bondId ≠ record.bondId := by
      intro same
      have atNode := kept.filed node bond member
      rw [hit, ← same, filed] at atNode
      have here : other = node := Option.some.inj atNode
      have left : held ∈ (bonding.engine.liquidate node bonds record).bondsOf other := inside
      rw [bondsOf_liquidate, if_pos here] at left
      exact ne_of_mem_eraseP (listed ▸ kept.unique node) left same
    change (bonding.engine.bondLookup.erase record.bondId).lookup held.bondId = some other
    rw [AList.lookup_erase_ne differ]
    exact filed
  · change (((bonding.engine.liquidate node bonds record).bondsOf other).map (·.bondId)).Nodup
    rw [bondsOf_liquidate]
    split
    · exact (listed ▸ kept.unique node).sublist (eraseP_sublist.map _)
    · exact kept.unique other
  · have before := kept.balanced measure
    have held := Map.sum_insert bonding.engine.complianceBonds node
      (bonds.eraseP fun bond => bond.bondId = record.bondId)
      fun bonds => (bonds.map (ofBond measure)).sum
    have less := sum_map_eraseP found (ofBond measure)
    have placed := kept.placed node bond member
    have same : ofRecord measure record = ofBond measure bond := by
      rw [ofRecord, ofBond, atNode, amount, placed, hit]
    have liquidated : liquidatedTotal (bonding.engine.liquidate node bonds record) measure =
        liquidatedTotal bonding.engine measure + ofRecord measure record := by
      unfold liquidatedTotal liquidate
      rw [map_append, sum_append, map_singleton, sum_singleton]
    rw [present, Map.share_some] at held
    change bonding.postedTotal measure = Map.sum (bonding.engine.complianceBonds.insert node
      (bonds.eraseP fun bond => bond.bondId = record.bondId)) _ +
        liquidatedTotal (bonding.engine.liquidate node bonds record) measure
    unfold heldTotal at before
    omega

theorem kept_step (bonding : Bonding) (call : BondCall)
    (collisionless : ∀ p ∈ hashed, ∀ q ∈ hashed, sha256 p = sha256 q → p = q)
    (covered : bonding.Covered hashed call) (distinct : bonding.Distinct call)
    (kept : Kept sha256 hashed bonding) : Kept sha256 hashed (bonding.step sha256 call) := by
  cases call with
  | postComplianceBond node bondType amount expiresAt =>
    exact kept.post collisionless covered distinct
  | executeComplianceSlash node bondId victim reason evidenceHash =>
    change Kept sha256 hashed ⟨(executeComplianceSlash sha256 node bondId victim reason
      evidenceHash bonding.engine).2, bonding.posted⟩
    obtain same | ⟨bonds, bond, present, found, done⟩ :=
      @executeComplianceSlash_cases sha256 bonding.engine node bondId victim reason evidenceHash
    · rw [same]
      exact kept
    · rw [done]
      exact kept.slash present found rfl rfl
  | updateBlock timestamp =>
    exact ⟨kept.placed, kept.named, kept.hashes, kept.filed, kept.unique, kept.balanced⟩

end Invariant

theorem kept_new (sha256 : List UInt8 → Hash) (hashed : List (List UInt8)) (victimPayoutBps : Nat) :
    Kept sha256 hashed ⟨new victimPayoutBps, []⟩ where
  placed _ _ member := nomatch member
  named _ _ member := nomatch member
  hashes _ _ member := nomatch member
  filed _ _ member := nomatch member
  unique _ := nodup_nil
  balanced _ := rfl

/-- Every posted bond is accounted for in every state of a run exactly if no accepted posting is for
a type of which its node holds a bond from the same block time. -/
theorem accounted_iff_distinct (hashed : List (List UInt8)) (victimPayoutBps : Nat)
    (calls : List BondCall)
    (collisionless : ∀ p ∈ hashed, ∀ q ∈ hashed, sha256 p = sha256 q → p = q)
    (covered : Run.Along (step sha256) (Covered hashed) ⟨new victimPayoutBps, []⟩ calls) :
    (∀ first, first <+: calls →
        (Run.exec (step sha256) ⟨new victimPayoutBps, []⟩ first).Accounted) ↔
      Run.Along (step sha256) Distinct ⟨new victimPayoutBps, []⟩ calls :=
  Run.forall_prefix_iff_of_fair
    (fun bonding call covered distinct kept =>
      kept_step bonding call collisionless covered distinct kept)
    (fun _ kept => kept.accounted)
    (fun _ call kept accounted => kept.distinct_of_accounted call accounted)
    (kept_new sha256 hashed victimPayoutBps) calls covered

/-- The bytes of a preimage read as a number, which is enough to tell short runs apart. -/
def sampleHash (bytes : List UInt8) : Hash :=
  Fin.ofNat (2 ^ 256) (bytes.foldl (fun number byte => number * 256 + byte.toNat) 0)

def samplePosts : List BondCall :=
  [.updateBlock 100, .postComplianceBond 1 .GdprProcessing (5000 * ONE_AETHEL) 0,
    .postComplianceBond 1 .HipaaProcessing (10000 * ONE_AETHEL) 0]

def samplePreimages : List (List UInt8) :=
  [bondPreimage 1 .GdprProcessing 100, bondPreimage 1 .HipaaProcessing 100]

/-- Bonds of two types in one block. -/
theorem accounted_samplePosts :
    (Run.exec (step sampleHash) ⟨new 8000, []⟩ samplePosts).Accounted := by
  refine (accounted_iff_distinct sampleHash samplePreimages 8000 samplePosts (by decide +kernel)
    ?_).mpr ?_ samplePosts prefix_rfl
  · refine ⟨trivial, fun _ => ?_, fun _ => ?_, trivial⟩
    · decide +kernel
    · decide +kernel
  · refine ⟨trivial, fun _ => ?_, fun _ => ?_, trivial⟩
    · decide +kernel
    · decide +kernel

/-- Two bonds of one type in one block share an identifier. -/
theorem not_accounted_twin_posts :
    ¬(Run.exec (step sampleHash) ⟨new 8000, []⟩
      [.updateBlock 100, .postComplianceBond 1 .GdprProcessing (5000 * ONE_AETHEL) 0,
        .postComplianceBond 1 .GdprProcessing (6000 * ONE_AETHEL) 0]).Accounted := by
  intro accounted
  have found := accounted.addressable 1
  revert found
  decide +kernel

end Bonding

end Vm.PoUWEngine
