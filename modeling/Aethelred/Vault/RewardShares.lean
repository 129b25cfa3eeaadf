import Aethelred.Vault.CalculateRewards

/- What the allocations of `calculate_rewards` add up to, and that the order of the stakers does not
change them. -/
namespace Vault.RewardCalculator

open Bytes List Nat

section Parts

variable {overflowChecks : Bool} {validators : List ScoredValidator}

def weight (validators : List ScoredValidator) (staker : StakerStake) : U128 :=
  let perfScore := ((validatorScores validators staker.delegatedTo).getD 0).toNat
  Fin.ofNat _ (staker.shares.val * (10000 + perfScore * 1000 / 10000) / 10000)

theorem weightedStake_eq {staker : StakerStake}
    (delegated : validatorScores validators staker.delegatedTo ≠ none) :
    weightedStake overflowChecks validators staker = some (weight validators staker) := by
  obtain ⟨perfScore, found⟩ := Option.ne_none_iff_exists'.mp delegated
  have small : perfScore.toNat < 2 ^ 32 := perfScore.toNat_lt
  have score : (Fin.ofNat (2 ^ 128) perfScore.toNat).val = perfScore.toNat :=
    mod_eq_of_lt (by omega)
  have bonus : (Fin.ofNat (2 ^ 128) (perfScore.toNat * 1000 / 10000)).val =
      perfScore.toNat * 1000 / 10000 := mod_eq_of_lt (by omega)
  have denominator : bpsDenominator.val = 10000 := rfl
  have rate : bonusBps.val = 1000 := rfl
  have fits : bpsDenominator.val +
      (Fin.ofNat (2 ^ 128) (perfScore.toNat * 1000 / 10000)).val < 2 ^ 128 := by
    rw [bonus, denominator]
    omega
  simp only [weightedStake, weight, found, muldiv_eq, score, rate, denominator, U128.add_of_lt fits,
    U128.val_add_of_lt fits, bonus, Option.bind_eq_bind, Option.bind_some, Option.getD_some]

variable (distributable mevRevenue totalStake totalWeighted : U128)

def allocation (staker : StakerStake) (weight : U128) : RewardAllocation :=
  let totalReward : U128 := Fin.ofNat _ (distributable.val * weight.val / totalWeighted.val)
  let baseReward : U128 := Fin.ofNat _ (distributable.val * staker.shares.val / totalStake.val)
  let mevPool : U128 := Fin.ofNat _ (mevRevenue.val * mevStakerShareBps.val / bpsDenominator.val)
  { address := staker.address
    baseReward := baseReward
    performanceBonus := if baseReward ≤ totalReward then totalReward - baseReward else 0
    mevShare := Fin.ofNat _ (mevPool.val * staker.shares.val / totalStake.val)
    totalReward := totalReward }

theorem allocate_eq (staker : StakerStake) (weight : U128) :
    allocate overflowChecks distributable mevRevenue totalStake totalWeighted staker weight =
      some (allocation distributable mevRevenue totalStake totalWeighted staker weight) := by
  simp only [allocate, muldiv_eq, Option.bind_eq_bind, Option.bind_some, Option.pure_def]
  rfl

theorem undelegated_eq_none {stakers : List StakerStake} :
    undelegated validators stakers = none ↔ ∀ staker ∈ stakers,
      staker.delegatedTo ≠ "" ∧ validatorScores validators staker.delegatedTo ≠ none := by
  induction stakers with
  | nil => exact iff_of_true rfl (forall_mem_nil _)
  | cons staker rest ih =>
    rw [undelegated, forall_mem_cons]
    by_cases empty : staker.delegatedTo = ""
    · rw [if_pos empty]
      exact iff_of_false nofun fun all => all.1.1 empty
    · rw [if_neg empty]
      by_cases unknown : validatorScores validators staker.delegatedTo = none
      · rw [if_pos unknown]
        exact iff_of_false nofun fun all => all.1.2 unknown
      · rw [if_neg unknown, ih]
        exact ⟨fun later => ⟨⟨empty, unknown⟩, later⟩, fun all => all.2⟩

theorem firstDuplicate_eq_none {seen addresses : List String} (distinct : addresses.Nodup)
    (unseen : ∀ address ∈ addresses, address ∉ seen) :
    Store.firstDuplicate seen addresses = none := by
  induction addresses generalizing seen with
  | nil => rfl
  | cons address rest ih =>
    obtain ⟨fresh, others⟩ := nodup_cons.mp distinct
    rw [Store.firstDuplicate, if_neg (unseen address mem_cons_self)]
    refine ih others fun other member before => ?_
    obtain rfl | earlier := mem_cons.mp before
    · exact fresh member
    · exact unseen other (mem_cons_of_mem _ member) earlier

theorem mapM_weightedStake {stakers : List StakerStake}
    (delegated : undelegated validators stakers = none) :
    stakers.mapM (weightedStake overflowChecks validators) =
      some (stakers.map (weight validators)) := by
  have every := undelegated_eq_none.mp delegated
  induction stakers with
  | nil => rfl
  | cons staker rest ih =>
    obtain ⟨first, others⟩ := forall_mem_cons.mp every
    rw [mapM_cons, weightedStake_eq first.2,
      ih (undelegated_eq_none.mpr others) others]
    rfl

theorem mapM_allocate (stakers : List StakerStake) :
    ((stakers.zip (stakers.map (weight validators))).mapM fun entry =>
        allocate overflowChecks distributable mevRevenue totalStake totalWeighted entry.1 entry.2) =
      some (stakers.map fun staker =>
        allocation distributable mevRevenue totalStake totalWeighted staker
          (weight validators staker)) := by
  induction stakers with
  | nil => rfl
  | cons staker rest ih =>
    rw [map_cons, zip_cons_cons, mapM_cons, allocate_eq, ih]
    rfl

end Parts

instance : Std.Total byAddress where
  total a b := String.le_total a.address b.address

instance : IsTrans RewardAllocation byAddress where
  trans _ _ _ := String.le_trans

theorem insertionSort_byAddress_eq {allocations other : List RewardAllocation}
    (perm : allocations.Perm other) (distinct : (allocations.map (·.address)).Nodup) :
    allocations.insertionSort byAddress = other.insertionSort byAddress := by
  have sorted := perm_insertionSort byAddress allocations
  have same := (sorted.trans perm).trans (perm_insertionSort byAddress other).symm
  refine Perm.eq_of_pairwise ?_ (pairwise_insertionSort byAddress _)
    (pairwise_insertionSort byAddress _) same
  intro a b aSorted bSorted below above
  have aListed := sorted.subset aSorted
  have bListed := perm.symm.subset ((perm_insertionSort byAddress other).subset bSorted)
  exact inj_on_of_nodup_map distinct aListed bListed (String.le_antisymm below above)

theorem sum_perm {overflowChecks : Bool} {values other : List U128} (perm : values.Perm other) :
    U128.sum overflowChecks values = U128.sum overflowChecks other := by
  rw [U128.sum_eq, U128.sum_eq, (perm.map (·.val)).sum_eq]

section Request

variable (request : CalculateRewardsRequest)

def protocolFee : U128 := Fin.ofNat _ (request.totalRewards.val * 500 / 10000)

def allocated (totalStake totalWeighted : U128) : List RewardAllocation :=
  request.stakerStakes.map fun staker =>
    allocation (request.totalRewards - protocolFee request) request.mevRevenue totalStake
      totalWeighted staker (weight request.validators staker)

def unstaked : CalculateRewardsResponse where
  epoch := request.epoch
  allocations := []
  totalDistributed := 0
  protocolFee := protocolFee request
  merkleRoot := "0x" ++ String.ofList (replicate 64 '0')
  merkleProofs := []
  attestation := {}
  stakeSnapshotHash := ""
  validatorSetHash := ""

variable (overflowChecks : Bool) (sha256 : List UInt8 → Fixed 32)

def distribute (allocations : List RewardAllocation) : Except Failure CalculateRewardsResponse := do
  let totalDistributed ← orPanic (U128.sum overflowChecks (allocations.map (·.totalReward)))
  if totalDistributed ≤ request.totalRewards - protocolFee request then
    return {
      epoch := request.epoch
      allocations := allocations
      totalDistributed := totalDistributed
      protocolFee := protocolFee request
      merkleRoot := (buildMerkleTree sha256 allocations request.epoch).1
      merkleProofs := (buildMerkleTree sha256 allocations request.epoch).2
      attestation := {}
      stakeSnapshotHash := ""
      validatorSetHash := "" }
  else .error (.overAllocated totalDistributed (request.totalRewards - protocolFee request))

variable {request overflowChecks sha256}

theorem val_protocolFee : (protocolFee request).val = request.totalRewards.val * 500 / 10000 := by
  have bound := request.totalRewards.isLt
  exact mod_eq_of_lt (by omega)

theorem protocolFee_le : protocolFee request ≤ request.totalRewards := by
  rw [Fin.le_def, val_protocolFee]
  omega

theorem orPanic_bind {α β : Type} (value : α) (next : α → Except Failure β) :
    (orPanic (some value) >>= next) = next value := rfl

/-- The calculation, where no staker is named twice. -/
theorem calculateRewards_eq (distinct : (request.stakerStakes.map (·.address)).Nodup) :
    calculateRewards overflowChecks sha256 request = (do
      let totalStake ← orPanic (U128.sum overflowChecks (request.stakerStakes.map (·.shares)))
      if totalStake = 0 then .ok (unstaked request)
      else
        match undelegated request.validators request.stakerStakes with
        | some reason => .error (.refused reason)
        | none => do
            let totalWeighted ← orPanic (U128.sum overflowChecks
              (request.stakerStakes.map (weight request.validators)))
            distribute request overflowChecks sha256
              ((allocated request totalStake totalWeighted).insertionSort byAddress)) := by
  have fee : muldiv overflowChecks request.totalRewards protocolFeeBps bpsDenominator =
      some (protocolFee request) := muldiv_eq _ _ _ _
  rw [calculateRewards, firstDuplicate_eq_none distinct fun _ _ => not_mem_nil]
  dsimp only
  rw [fee, orPanic_bind, U128.sub_of_le protocolFee_le, orPanic_bind]
  congr 1
  funext totalStake
  split
  · rfl
  · cases delegated : undelegated request.validators request.stakerStakes with
    | some reason => rfl
    | none =>
      dsimp only
      rw [mapM_weightedStake delegated, orPanic_bind]
      congr 1
      funext totalWeighted
      rw [mapM_allocate, orPanic_bind]
      rfl

/-- A calculation is refused, panics or shares the pool. -/
theorem calculateRewards_cases :
    (∃ reason, calculateRewards overflowChecks sha256 request = .error (.refused reason)) ∨
      calculateRewards overflowChecks sha256 request = .error .panicked ∨
      (request.stakerStakes.map (·.address)).Nodup ∧ ∃ totalStake,
        U128.sum overflowChecks (request.stakerStakes.map (·.shares)) = some totalStake ∧
        (totalStake = 0 ∧
            calculateRewards overflowChecks sha256 request = .ok (unstaked request) ∨
          totalStake ≠ 0 ∧ undelegated request.validators request.stakerStakes = none ∧
            ∃ totalWeighted, U128.sum overflowChecks
                (request.stakerStakes.map (weight request.validators)) = some totalWeighted ∧
              calculateRewards overflowChecks sha256 request =
                distribute request overflowChecks sha256
                  ((allocated request totalStake totalWeighted).insertionSort byAddress)) := by
  cases duplicate : Store.firstDuplicate [] (request.stakerStakes.map (·.address)) with
  | some address =>
    refine .inl ⟨s!"duplicate staker address in reward request: {address}", ?_⟩
    rw [calculateRewards, duplicate]
  | none =>
    have distinct := (Store.nodup_of_firstDuplicate duplicate).1
    rw [calculateRewards_eq distinct]
    cases summed : U128.sum overflowChecks (request.stakerStakes.map (·.shares)) with
    | none => exact .inr (.inl rfl)
    | some totalStake =>
      rw [orPanic_bind]
      by_cases zero : totalStake = 0
      · rw [if_pos zero]
        exact .inr (.inr ⟨distinct, totalStake, rfl, .inl ⟨zero, rfl⟩⟩)
      · rw [if_neg zero]
        cases delegated : undelegated request.validators request.stakerStakes with
        | some reason => exact .inl ⟨reason, rfl⟩
        | none =>
          dsimp only
          cases weighed : U128.sum overflowChecks
              (request.stakerStakes.map (weight request.validators)) with
          | none => exact .inr (.inl rfl)
          | some totalWeighted =>
            exact .inr (.inr ⟨distinct, totalStake, rfl,
              .inr ⟨zero, rfl, totalWeighted, rfl, rfl⟩⟩)

/-- The order of the stakers does not matter. -/
theorem calculateRewards_perm {response : CalculateRewardsResponse} {stakers : List StakerStake}
    (accepted : calculateRewards overflowChecks sha256 request = .ok response)
    (perm : stakers.Perm request.stakerStakes) :
    calculateRewards overflowChecks sha256 { request with stakerStakes := stakers } =
      .ok response := by
  obtain ⟨reason, refused⟩ | panicked | ⟨distinct, totalStake, summed, outcome⟩ :=
    @calculateRewards_cases request overflowChecks sha256
  · rw [refused] at accepted
    cases accepted
  · rw [panicked] at accepted
    cases accepted
  · have others : (stakers.map (·.address)).Nodup :=
      (perm.map (·.address)).nodup_iff.mpr distinct
    have stakes : U128.sum overflowChecks (stakers.map (·.shares)) = some totalStake :=
      (sum_perm (perm.map _)).trans summed
    rw [calculateRewards_eq others]
    dsimp only
    rw [stakes, orPanic_bind]
    obtain ⟨zero, unstakedIs⟩ | ⟨staked, delegated, totalWeighted, weighed, distributed⟩ := outcome
    · rw [if_pos zero]
      exact unstakedIs.symm.trans accepted
    · have all : undelegated request.validators stakers = none := by
        rw [undelegated_eq_none] at delegated ⊢
        exact fun staker listed => delegated staker (perm.subset listed)
      have weights : U128.sum overflowChecks (stakers.map (weight request.validators)) =
          some totalWeighted := (sum_perm (perm.map _)).trans weighed
      rw [if_neg staked, all]
      dsimp only
      rw [weights, orPanic_bind]
      have addresses : ((allocated { request with stakerStakes := stakers } totalStake
          totalWeighted).map (·.address)).Nodup := by
        rw [allocated, map_map]
        exact others
      have sorted := insertionSort_byAddress_eq
        (show (allocated { request with stakerStakes := stakers } totalStake totalWeighted).Perm
          (allocated request totalStake totalWeighted) from perm.map _) addresses
      rw [sorted]
      exact distributed.symm.trans accepted

end Request

section Totals

variable {request : CalculateRewardsRequest}

def distributed (allocations : List RewardAllocation) : Nat :=
  (allocations.map (·.totalReward.val)).sum

def weighted (request : CalculateRewardsRequest) : Nat :=
  request.stakerStakes.countP (0 < weight request.validators ·)

variable {totalStake totalWeighted : U128}

theorem distributed_allocated (exact : totalWeighted.val =
      (request.stakerStakes.map fun staker => (weight request.validators staker).val).sum) :
    distributed (allocated request totalStake totalWeighted) =
      (Apportion.shares (request.totalRewards - protocolFee request).val totalWeighted
        (request.stakerStakes.map fun staker => (weight request.validators staker).val)).sum := by
  rw [distributed, allocated, Apportion.shares, map_map, map_map]
  refine congrArg sum (map_congr_left fun staker listed => ?_)
  have within := le_sum_of_mem (mem_map_of_mem (f := fun staker =>
    (weight request.validators staker).val) listed)
  rw [← exact] at within
  have small : (request.totalRewards - protocolFee request).val *
      (weight request.validators staker).val / totalWeighted.val ≤
        (request.totalRewards - protocolFee request).val :=
    Nat.div_le_of_le_mul (by rw [Nat.mul_comm]; exact Nat.mul_le_mul_right _ within)
  exact mod_eq_of_lt (small.trans_lt (Fin.isLt _))

/-- The total shares and the total weight are `u128` values. -/
structure Unwrapped (request : CalculateRewardsRequest) : Prop where
  shares : (request.stakerStakes.map fun staker => staker.shares.val).sum < 2 ^ 128
  weights :
    (request.stakerStakes.map fun staker => (weight request.validators staker).val).sum < 2 ^ 128

variable {overflowChecks : Bool} {sha256 : List UInt8 → Fixed 32}

theorem val_of_sum_eq {values : List U128} {total : U128}
    (summed : U128.sum overflowChecks values = some total)
    (fits : overflowChecks = false → (values.map (·.val)).sum < 2 ^ 128) :
    total.val = (values.map (·.val)).sum := by
  have small : (values.map (·.val)).sum < 2 ^ 128 := by
    cases overflowChecks with
    | false => exact fits rfl
    | true =>
      by_contra large
      rw [U128.sum_eq, if_pos ⟨rfl, Nat.le_of_not_lt large⟩] at summed
      cases summed
  rw [U128.sum_of_lt small] at summed
  cases summed
  rfl

theorem countP_eq_zero_of_sum {weights : List Nat} (none : weights.sum = 0) :
    weights.countP (0 < ·) = 0 := by
  rw [countP_eq_zero]
  intro weight member
  have zero := sum_eq_zero_iff.mp none weight member
  simp only [zero, lt_irrefl, decide_false, Bool.false_eq_true, not_false_eq_true]

theorem weighted_eq : weighted request =
    (request.stakerStakes.map fun staker => (weight request.validators staker).val).countP
      (0 < ·) := by
  rw [weighted, countP_map]
  rfl

theorem weight_eq_zero {staker : StakerStake} (unstaked : staker.shares = 0) :
    weight request.validators staker = 0 := by
  rw [weight, unstaked, show (0 : U128).val = 0 from rfl, Nat.zero_mul, Nat.zero_div]
  rfl

theorem distribute_eq {allocations : List RewardAllocation}
    (within : distributed allocations ≤ (request.totalRewards - protocolFee request).val) :
    ∃ response, distribute request overflowChecks sha256 allocations = .ok response ∧
      response.allocations = allocations ∧ response.protocolFee = protocolFee request := by
  have values : (allocations.map (·.totalReward)).map (·.val) =
      allocations.map (·.totalReward.val) := map_map ..
  have fits : ((allocations.map (·.totalReward)).map (·.val)).sum < 2 ^ 128 := by
    rw [values]
    exact lt_of_le_of_lt within (Fin.isLt _)
  rw [distribute, U128.sum_of_lt fits, orPanic_bind, if_pos]
  · exact ⟨_, rfl, rfl, rfl⟩
  · rw [Fin.le_def, Fin.val_mk, values]
    exact within

/-- What a response says: the fee and what is distributable are the gross reward, the allocations
are within what is distributable and fall short of it by less than the number of stakers with a
weight, nothing is allocated where there is none, and the order of the stakers is of no effect. -/
structure Settled (overflowChecks : Bool) (sha256 : List UInt8 → Fixed 32)
    (request : CalculateRewardsRequest) (response : CalculateRewardsResponse) : Prop where
  fee : response.protocolFee.val = request.totalRewards.val * 500 / 10000
  gross : response.protocolFee.val + (request.totalRewards - response.protocolFee).val =
    request.totalRewards.val
  spent : distributed response.allocations ≤ (request.totalRewards - response.protocolFee).val
  shortfall : 0 < weighted request → (request.totalRewards - response.protocolFee).val <
    distributed response.allocations + weighted request
  idle : weighted request = 0 → distributed response.allocations = 0
  permuted : ∀ stakers : List StakerStake, stakers.Perm request.stakerStakes →
    calculateRewards overflowChecks sha256 { request with stakerStakes := stakers } = .ok response

theorem gross_eq : (protocolFee request).val + (request.totalRewards - protocolFee request).val =
    request.totalRewards.val := by
  have le := Fin.le_def.mp (@protocolFee_le request)
  rw [Fin.sub_val_of_le protocolFee_le]
  omega

theorem distributed_sorted_le (exact : totalWeighted.val =
      (request.stakerStakes.map fun staker => (weight request.validators staker).val).sum) :
    distributed ((allocated request totalStake totalWeighted).insertionSort byAddress) =
        distributed (allocated request totalStake totalWeighted) ∧
      distributed (allocated request totalStake totalWeighted) ≤
        (request.totalRewards - protocolFee request).val := by
  have sorted := perm_insertionSort byAddress (allocated request totalStake totalWeighted)
  refine ⟨?_, ?_⟩
  · rw [distributed, distributed]
    exact (sorted.map _).sum_eq
  · rw [distributed_allocated exact]
    exact Apportion.sum_shares_le _ (le_of_eq exact.symm)

theorem weighted_eq_zero
    (none : (request.stakerStakes.map fun staker => staker.shares.val).sum = 0) :
    weighted request = 0 := by
  rw [weighted, countP_eq_zero]
  intro staker listed
  have zero := sum_eq_zero_iff.mp none _ (mem_map_of_mem listed)
  rw [weight_eq_zero (Fin.ext zero)]
  decide

theorem distributed_allocated_bounds (exact : totalWeighted.val =
      (request.stakerStakes.map fun staker => (weight request.validators staker).val).sum) :
    (0 < weighted request → (request.totalRewards - protocolFee request).val <
        distributed (allocated request totalStake totalWeighted) + weighted request) ∧
      (weighted request = 0 → distributed (allocated request totalStake totalWeighted) = 0) := by
  rw [distributed_allocated exact, weighted_eq]
  refine ⟨fun some => ?_, fun none => Apportion.sum_shares_eq_zero _ _ none⟩
  have positive : 0 < (request.stakerStakes.map
      fun staker => (weight request.validators staker).val).sum := by
    by_contra zero
    rw [countP_eq_zero_of_sum (Nat.eq_zero_of_not_pos zero)] at some
    exact lt_irrefl 0 some
  rw [exact]
  exact Apportion.lt_sum_shares_add _ positive

/-- Without a wrapped total no allocation exceeds the distributable amount, so the assertion does
not fail, and every response is settled. -/
theorem calculateRewards_settled (unwrapped : overflowChecks = false → Unwrapped request) :
    (∀ totalDistributed distributable, calculateRewards overflowChecks sha256 request ≠
      .error (.overAllocated totalDistributed distributable)) ∧
    ∀ response, calculateRewards overflowChecks sha256 request = .ok response →
      Settled overflowChecks sha256 request response := by
  have permuted := @calculateRewards_perm request overflowChecks sha256
  have values (f : StakerStake → U128) : (request.stakerStakes.map f).map (·.val) =
      request.stakerStakes.map fun staker => (f staker).val := map_map ..
  obtain ⟨reason, refused⟩ | panicked | ⟨-, totalStake, summed, outcome⟩ :=
    @calculateRewards_cases request overflowChecks sha256
  · rw [refused]
    exact ⟨nofun, nofun⟩
  · rw [panicked]
    exact ⟨nofun, nofun⟩
  · obtain ⟨zero, unstakedIs⟩ | ⟨-, -, totalWeighted, weighed, distributes⟩ := outcome
    · have none : weighted request = 0 := by
        have exact := val_of_sum_eq summed fun unchecked => by
          rw [values]
          exact (unwrapped unchecked).shares
        rw [zero, values] at exact
        exact weighted_eq_zero exact.symm
      refine ⟨by rw [unstakedIs]; exact nofun, fun response accepted => ?_⟩
      have responseIs := Except.ok.inj (unstakedIs.symm.trans accepted)
      subst responseIs
      exact ⟨val_protocolFee, gross_eq, zero_le _, fun some => absurd some (by omega),
        fun _ => rfl, fun stakers perm => permuted accepted perm⟩
    · have exact : totalWeighted.val = (request.stakerStakes.map
          fun staker => (weight request.validators staker).val).sum := by
        rw [← values]
        refine val_of_sum_eq weighed fun unchecked => ?_
        rw [values]
        exact (unwrapped unchecked).weights
      obtain ⟨same, within⟩ := @distributed_sorted_le request totalStake totalWeighted exact
      obtain ⟨short, idle⟩ := @distributed_allocated_bounds request totalStake totalWeighted exact
      obtain ⟨response, done, allocationsAre, feeIs⟩ :=
        @distribute_eq request overflowChecks sha256 _ (same.trans_le within)
      rw [← same, ← allocationsAre] at within short idle
      rw [← feeIs] at within short
      refine ⟨by rw [distributes, done]; exact nofun, fun other accepted => ?_⟩
      have responseIs := Except.ok.inj ((distributes.trans done).symm.trans accepted)
      subst responseIs
      refine ⟨?_, ?_, within, short, idle, fun stakers perm => permuted accepted perm⟩
      · rw [feeIs]
        exact val_protocolFee
      · rw [feeIs]
        exact gross_eq

def sampleValidator (address : String) (performanceScore : UInt32) : ScoredValidator where
  address := address
  stake := 100000
  performanceScore := performanceScore
  decentralizationScore := 8000
  reputationScore := 10000
  compositeScore := 9100
  teePublicKey := "key"
  commissionBps := 500

/-- Two stakers of validators with different scores, in an epoch with rewards of 100000. -/
def twoStakes : CalculateRewardsRequest where
  epoch := 1
  totalRewards := 100000
  mevRevenue := 10000
  validators := [sampleValidator "validator-1" 9500, sampleValidator "validator-2" 0]
  stakerStakes := [⟨"staker-b", 600, "validator-1"⟩, ⟨"staker-a", 400, "validator-2"⟩]

theorem twoStakes_accepted (overflowChecks : Bool) (sha256 : List UInt8 → Fixed 32) :
    ∃ response, calculateRewards overflowChecks sha256 twoStakes = .ok response ∧
      distributed response.allocations = 94999 := by
  have stakes : U128.sum overflowChecks (twoStakes.stakerStakes.map (·.shares)) = some 1000 := by
    cases overflowChecks <;> decide +kernel
  have weights : U128.sum overflowChecks
      (twoStakes.stakerStakes.map (weight twoStakes.validators)) = some 1057 := by
    cases overflowChecks <;> decide +kernel
  have delegated : undelegated twoStakes.validators twoStakes.stakerStakes = none := by
    decide +kernel
  have total : distributed ((allocated twoStakes 1000 1057).insertionSort byAddress) = 94999 := by
    decide +kernel
  have within : distributed ((allocated twoStakes 1000 1057).insertionSort byAddress) ≤
      (twoStakes.totalRewards - protocolFee twoStakes).val := by
    rw [total]
    decide +kernel
  obtain ⟨response, done, allocationsAre, -⟩ :=
    @distribute_eq twoStakes overflowChecks sha256 _ within
  refine ⟨response, ?_, by rw [allocationsAre, total]⟩
  rw [calculateRewards_eq (by decide), stakes, orPanic_bind, if_neg (by decide), delegated]
  dsimp only
  rw [weights, orPanic_bind]
  exact done

theorem twoStakes_settled :
    ∃ response, calculateRewards false (fun _ _ => 0) twoStakes = .ok response ∧
      Settled false (fun _ _ => 0) twoStakes response := by
  have unwrapped : Unwrapped twoStakes := ⟨by decide +kernel, by decide +kernel⟩
  obtain ⟨response, accepted, -⟩ := twoStakes_accepted false fun _ _ => 0
  exact ⟨response, accepted, (calculateRewards_settled fun _ => unwrapped).2 response accepted⟩

def noStakes : CalculateRewardsRequest := { twoStakes with stakerStakes := [] }

/-- Without stakers all of the distributable amount is left although nobody has a weight. With
stakers it is the reward without the fee: the tenth of the MEV revenue that they have no share in
is not taken from it. -/
theorem noStakes_shortfall :
    (noStakes.totalRewards - protocolFee noStakes).val = 95000 ∧ weighted noStakes = 0 ∧
      ∀ overflowChecks sha256,
        calculateRewards overflowChecks sha256 noStakes = .ok (unstaked noStakes) ∧
        ¬(noStakes.totalRewards - protocolFee noStakes).val <
          distributed (unstaked noStakes).allocations + weighted noStakes ∧
        ∃ response, calculateRewards overflowChecks sha256 twoStakes = .ok response ∧
          twoStakes.totalRewards.val - (protocolFee twoStakes).val -
            twoStakes.mevRevenue.val / 10 < distributed response.allocations := by
  refine ⟨by decide +kernel, rfl, fun overflowChecks sha256 => ⟨?_, by decide +kernel, ?_⟩⟩
  · have distinct : (noStakes.stakerStakes.map (·.address)).Nodup := nodup_nil
    rw [calculateRewards_eq distinct]
    rfl
  · obtain ⟨response, accepted, total⟩ := twoStakes_accepted overflowChecks sha256
    refine ⟨response, accepted, ?_⟩
    rw [total]
    decide +kernel

end Totals

end Vault.RewardCalculator
