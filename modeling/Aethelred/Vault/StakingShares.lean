import Aethelred.Vault.StakingRun

/- The shares that a stake mints and the amount that an unstake books, against the same formulas over
all natural numbers, and what that means for those who do neither. -/
namespace Vault.Store

open Go Nat

/-- The vault as a pool owned in shares. -/
def pool (store : Store) : Pool := ⟨store.totalPooledAethel.toNat, store.totalShares.toNat⟩

theorem mod_div_lt {product divisor : Nat} (positive : 0 < divisor) (small : divisor < 2 ^ 64)
    (wraps : 2 ^ 64 ≤ product) : product % 2 ^ 64 / divisor < product / divisor := by
  rw [div_lt_iff_lt_mul positive]
  have quotient := lt_div_mul_add (a := product) positive
  omega

theorem toNat_mintedShares_iff (pooled shares amount : UInt64) :
    (mintedShares pooled shares amount).toNat =
        Pool.minted ⟨pooled.toNat, shares.toNat⟩ amount.toNat ↔
      pooled = 0 ∨ amount.toNat * shares.toNat < 2 ^ 64 := by
  unfold mintedShares Pool.minted
  by_cases empty : pooled = 0
  · simp [empty]
  · have some : pooled.toNat ≠ 0 := fun zero => empty (UInt64.toNat_inj.mp zero)
    rw [if_neg empty, if_neg some, UInt64.toNat_div, UInt64.toNat_mul]
    dsimp only
    constructor
    · intro same
      refine .inr (Nat.lt_of_not_le fun wraps => ?_)
      exact absurd same (Nat.ne_of_lt
        (mod_div_lt (pos_of_ne_zero some) (UInt64.toNat_lt pooled) wraps))
    · rintro (zero | fits)
      · exact absurd zero empty
      · rw [mod_eq_of_lt fits]

theorem toNat_bookedAmount_iff (pooled total shares : UInt64) :
    (bookedAmount pooled total shares).toNat =
        Pool.worth ⟨pooled.toNat, total.toNat⟩ shares.toNat ↔
      total = 0 ∨ shares.toNat * pooled.toNat < 2 ^ 64 := by
  unfold bookedAmount Pool.worth
  by_cases empty : total = 0
  · simp [empty]
  · have some : 0 < total.toNat := pos_of_ne_zero fun zero => empty (UInt64.toNat_inj.mp zero)
    have shared : total > 0 := UInt64.lt_iff_toNat_lt.mpr some
    rw [if_pos shared, UInt64.toNat_div, UInt64.toNat_mul]
    dsimp only
    constructor
    · intro same
      refine .inr (Nat.lt_of_not_le fun wraps => ?_)
      exact absurd same (Nat.ne_of_lt (mod_div_lt some (UInt64.toNat_lt total) wraps))
    · rintro (zero | fits)
      · exact absurd zero empty
      · rw [mod_eq_of_lt fits]

section Step

variable (deployment : Deployment)

/-- The shares of all others are worth at least as much as before. -/
def OthersKeep (store after : Store) (address : String) : Prop :=
  ∀ other staker, other ≠ address → store.stakers.lookup other = some staker →
    store.pool.worth staker.shares.toNat ≤ after.pool.worth staker.shares.toNat

/-- A stake that goes through mints, and an unstake that goes through books, what the formula gives
over all numbers, rounded down; and neither takes from the others. -/
def Exact (store : Store) : Call → Prop
  | .stake address amount validatorAddr =>
    ∀ shares, (stake deployment address amount validatorAddr store).1 = .ok shares →
      shares.toNat = store.pool.minted amount.toNat ∧
        OthersKeep store (store.step deployment (.stake address amount validatorAddr)) address
  | .unstake blockTime address shares =>
    ∀ id amount, (unstake blockTime address shares store).1 = .ok (id, amount) →
      amount.toNat = store.pool.worth shares.toNat ∧
        OthersKeep store (store.step deployment (.unstake blockTime address shares)) address
  | _ => True

/-- The products and sums of a call do not wrap. -/
def Whole (store : Store) : Call → Prop
  | .stake _ amount validatorAddr => ∀ val, StakeAdmitted store amount validatorAddr val →
      (store.totalPooledAethel = 0 ∨ amount.toNat * store.totalShares.toNat < 2 ^ 64) ∧
        store.totalPooledAethel.toNat + amount.toNat < 2 ^ 64
  | .unstake _ address shares => ∀ staker, UnstakeAdmitted store address shares staker →
      shares.toNat * store.totalPooledAethel.toNat < 2 ^ 64
  | _ => True

/-- Shares are minted one for one, and nobody holds shares that are not counted. -/
structure Level (store : Store) : Prop where
  even : store.totalPooledAethel = store.totalShares
  covered : store.stakers.sum (·.shares.toNat) ≤ store.totalShares.toNat
  keyed : store.Keyed

theorem Level.empty : Level {} := ⟨rfl, le_refl 0, .empty⟩

variable {store after : Store} {address validatorAddr evmAddr : String} {amount shares : UInt64}

theorem SameAccounts.level (same : SameAccounts after store) (level : store.Level) :
    after.Level := by
  refine ⟨?_, ?_, same.keyed level.keyed⟩
  · rw [same.pooled, same.shares, level.even]
  · rw [same.shares, same.stakers]
    exact level.covered

theorem SameAccounts.pool (same : SameAccounts after store) : after.pool = store.pool := by
  unfold Store.pool
  rw [same.pooled, same.shares]

section

variable (level : store.Level)
include level

theorem Level.minted_eq
    (fits : store.totalPooledAethel = 0 ∨ amount.toNat * store.totalShares.toNat < 2 ^ 64) :
    mintedShares store.totalPooledAethel store.totalShares amount = amount := by
  refine UInt64.toNat_inj.mp ((toNat_mintedShares_iff _ _ amount).mpr fits |>.trans ?_)
  rw [level.even, Pool.minted]
  split
  · rfl
  next some => exact Nat.mul_div_cancel _ (Nat.pos_of_ne_zero some)

theorem Level.booked_eq (fits : shares.toNat * store.totalPooledAethel.toNat < 2 ^ 64)
    (owned : shares.toNat ≤ store.totalShares.toNat) :
    bookedAmount store.totalPooledAethel store.totalShares shares = shares := by
  refine UInt64.toNat_inj.mp ((toNat_bookedAmount_iff _ _ shares).mpr (.inr fits) |>.trans ?_)
  rw [level.even, Pool.worth]
  dsimp only
  obtain none | some := Nat.eq_zero_or_pos store.totalShares.toNat
  · rw [none, Nat.div_zero]
    omega
  · exact Nat.mul_div_cancel _ some

/-- Minting without a wrap is the pool's deposit. -/
theorem Level.minting
    (fits : store.totalPooledAethel = 0 ∨ amount.toNat * store.totalShares.toNat < 2 ^ 64)
    (small : store.totalPooledAethel.toNat + amount.toNat < 2 ^ 64) :
    (store.minting amount).Level ∧ (store.minting amount).pool =
      ⟨store.pool.assets + amount.toNat, store.pool.shares + store.pool.minted amount.toNat⟩ := by
  have minted := level.minted_eq fits
  have exact : amount.toNat = store.pool.minted amount.toNat := by
    conv_lhs => rw [← minted]
    exact (toNat_mintedShares_iff _ _ amount).mpr fits
  have even := congrArg UInt64.toNat level.even
  have assets : (store.totalPooledAethel + amount).toNat =
      store.totalPooledAethel.toNat + amount.toNat := by
    rw [UInt64.toNat_add, mod_eq_of_lt small]
  have total : (store.totalShares + amount).toNat = store.totalShares.toNat + amount.toNat := by
    rw [UInt64.toNat_add, mod_eq_of_lt (by omega)]
  refine ⟨⟨?_, ?_, ⟨level.keyed.staker, level.keyed.validator, level.keyed.request⟩⟩, ?_⟩
  · change store.totalPooledAethel + amount = store.totalShares +
      mintedShares store.totalPooledAethel store.totalShares amount
    rw [minted, level.even]
  · change _ ≤ (store.totalShares +
      mintedShares store.totalPooledAethel store.totalShares amount).toNat
    rw [minted, total]
    exact le_add_right_of_le level.covered
  · rw [← exact]
    unfold Store.pool Store.minting
    dsimp only
    rw [minted, assets, total]

/-- A recorded stake keeps shares and sums level. -/
theorem Level.recordStake {val : ValidatorRecord} (named : validatorAddr ≠ "")
    (fits : store.totalPooledAethel = 0 ∨ amount.toNat * store.totalShares.toNat < 2 ^ 64)
    (small : store.totalPooledAethel.toNat + amount.toNat < 2 ^ 64) :
    (recordStake address evmAddr amount
      (mintedShares store.totalPooledAethel store.totalShares amount) validatorAddr val
      (store.minting amount)).Level := by
  have minting := (level.minting fits small).1
  have minted := level.minted_eq fits
  have even := congrArg UInt64.toNat level.even
  have covered := level.covered
  have owned := held_le_sum store address (·.shares.toNat) rfl
  have written := minting.keyed.sum_shares_restaked address evmAddr amount
    (mintedShares store.totalPooledAethel store.totalShares amount) validatorAddr
  change _ + (store.held address).shares.toNat = store.stakers.sum (·.shares.toNat) +
    ((store.held address).shares + _).toNat at written
  rw [minted, UInt64.toNat_add, mod_eq_of_lt (by omega)] at written
  have total : (store.totalShares + amount).toNat = store.totalShares.toNat + amount.toNat := by
    rw [UInt64.toNat_add, mod_eq_of_lt (by omega)]
  refine ⟨?_, ?_, minting.keyed.recordStake named⟩
  · rw [recordStake_frame named]
    exact minting.even
  · rw [recordStake_frame named]
    change _ ≤ (store.totalShares +
      mintedShares store.totalPooledAethel store.totalShares amount).toNat
    rw [minted, total]
    dsimp only
    omega

/-- Booking without a wrap is the pool's redemption. -/
theorem Level.booking {staker : StakerRecord}
    (admitted : UnstakeAdmitted store address shares staker)
    (fits : shares.toNat * store.totalPooledAethel.toNat < 2 ^ 64) :
    (store.booking staker shares).Level ∧ (store.booking staker shares).pool =
      ⟨store.pool.assets - store.pool.worth shares.toNat, store.pool.shares - shares.toNat⟩ := by
  have sum := level.keyed.sum_shares_recordUnstake admitted.staked admitted.owned
  have covered := level.covered
  have le : shares ≤ store.totalShares := UInt64.le_iff_toNat_le.mpr (by omega)
  have booked := level.booked_eq fits (UInt64.le_iff_toNat_le.mp le)
  have exact : shares.toNat = store.pool.worth shares.toNat := by
    conv_lhs => rw [← booked]
    exact (toNat_bookedAmount_iff _ _ shares).mpr (.inr fits)
  have total := UInt64.toNat_sub_of_le _ _ le
  have assets := UInt64.toNat_sub_of_le _ _ (level.even ▸ le)
  refine ⟨⟨?_, ?_, ?_⟩, ?_⟩
  · change store.totalPooledAethel - bookedAmount store.totalPooledAethel store.totalShares shares =
      store.totalShares - shares
    rw [booked, level.even]
  · change (store.recordUnstake staker shares).stakers.sum (·.shares.toNat) ≤
      (store.totalShares - shares).toNat
    rw [total]
    omega
  · exact level.keyed.booking (level.keyed.staker address staker admitted.staked).2 shares
  · rw [← exact]
    unfold Store.pool Store.booking
    dsimp only
    rw [booked, total]
    exact congrArg (Pool.mk · _) assets

/-- A whole stake mints the exact shares. -/
theorem Level.exact_stake (whole : Whole store (.stake address amount validatorAddr)) :
    Exact deployment store (.stake address amount validatorAddr) := by
  intro shares done
  by_cases admission : ∃ val, StakeAdmitted store amount validatorAddr val
  · obtain ⟨val, admitted⟩ := admission
    obtain ⟨fits, small⟩ := whole val admitted
    have formula : (mintedShares store.totalPooledAethel store.totalShares amount).toNat =
        store.pool.minted amount.toNat := (toNat_mintedShares_iff _ _ amount).mpr fits
    have run := stake_of_admitted deployment address admitted
    rw [run] at done
    cases resolved : resolveEvmAddress deployment address with
    | none =>
      rw [resolved] at done
      cases done
    | some evmAddr =>
      rw [resolved] at done run
      cases done
      refine ⟨formula, fun other staker _ _ => ?_⟩
      have positive : 0 < store.pool.minted amount.toNat := by
        rw [pos_iff_ne_zero, ← formula]
        exact fun zero => admitted.minted (UInt64.toNat_inj.mp zero)
      have pools : (store.step deployment (.stake address amount validatorAddr)).pool =
          (store.minting amount).pool := by
        rw [step, run]
        dsimp only
        rw [recordStake_frame admitted.named]
        rfl
      rw [pools, (level.minting fits small).2]
      exact Pool.worth_deposit positive _
  · obtain ⟨reason, after, failed, -⟩ :=
      stake_of_not_admitted deployment address (not_exists.mp admission)
    rw [failed] at done
    cases done

/-- A whole unstaking books the exact amount. -/
theorem Level.exact_unstake {blockTime : Instant}
    (whole : Whole store (.unstake blockTime address shares)) :
    Exact deployment store (.unstake blockTime address shares) := by
  intro id amount done
  by_cases admission : ∃ staker, UnstakeAdmitted store address shares staker
  · obtain ⟨staker, admitted⟩ := admission
    have fits := whole staker admitted
    have formula : (bookedAmount store.totalPooledAethel store.totalShares shares).toNat =
        store.pool.worth shares.toNat := (toNat_bookedAmount_iff _ _ shares).mpr (.inr fits)
    by_cases inTime : blockTime.nanos + UnbondingPeriod < yearTenThousand
    · obtain ⟨after, run, booked⟩ := unstake_of_admitted admitted inTime
      rw [run] at done
      cases done
      refine ⟨formula, fun other record apart found => ?_⟩
      have owned := UInt64.le_iff_toNat_le.mp (UInt64.not_lt.mp admitted.owned)
      have both := Map.share_add_share_le_sum store.stakers apart (·.shares.toNat)
      rw [admitted.staked, found, Map.share_some, Map.share_some] at both
      have covered := level.covered
      have remains : record.shares.toNat ≤ store.pool.shares - shares.toNat := by
        change record.shares.toNat ≤ store.totalShares.toNat - shares.toNat
        omega
      have pools : (store.step deployment (.unstake blockTime address shares)).pool =
          (store.booking staker shares).pool := by
        rw [step, run]
        exact booked.accounts.pool
      rw [pools, (level.booking admitted fits).2]
      exact Pool.worth_redeem remains
    · rw [unstake_of_late admitted inTime] at done
      cases done
  · obtain ⟨reason, failed⟩ := unstake_of_not_admitted (not_exists.mp admission)
    rw [failed] at done
    cases done

end

/-- A whole call keeps shares and sums level. -/
theorem Level.step (store : Store) (call : Call) (whole : Whole store call) (level : store.Level) :
    (store.step deployment call).Level := by
  have keyed := level.keyed.step deployment call
  have changes := changes_step deployment store call
  generalize store.step deployment call = after at keyed changes ⊢
  cases changes with
  | staked admitted resolved =>
    obtain ⟨fits, small⟩ := whole _ admitted
    exact level.recordStake admitted.named fits small
  | minted admitted unresolved =>
    obtain ⟨fits, small⟩ := whole _ admitted
    exact (level.minting fits small).1
  | delegated admitted =>
    refine ⟨?_, ?_, keyed⟩
    · rw [moving_eq]
      exact level.even
    · rw [level.keyed.sum_shares_moving admitted.staked, moving_eq]
      exact level.covered
  | unstaked admitted inTime booked =>
    have booking := (level.booking admitted (whole _ admitted)).1
    exact booked.accounts.level ⟨booking.even, booking.covered, booking.keyed.setWithdrawal _⟩
  | late admitted late => exact (level.booking admitted (whole _ admitted)).1
  | withdrawn found outstanding => exact ⟨level.even, level.covered, keyed⟩
  | selected admitted registry =>
    refine ⟨?_, ?_, keyed⟩
    · rw [persistValidators_eq]
      exact level.even
    · rw [persistValidators_eq]
      exact level.covered
  | slashed found slashed =>
    exact slashed.accounts.level ⟨level.even, level.covered, level.keyed.setValidator _⟩
  | snapshotted taken =>
    obtain ⟨snapshots, rfl, -⟩ := taken
    exact ⟨level.even, level.covered, keyed⟩
  | kept refused same => exact same.accounts.level level

theorem Level.exact (store : Store) (call : Call) (level : store.Level) (whole : Whole store call) :
    Exact deployment store call := by
  cases call with
  | stake address amount validatorAddr => exact level.exact_stake deployment whole
  | unstake blockTime address shares => exact level.exact_unstake deployment whole
  | _ => exact trivial

/-- In a run in which nothing wraps every stake and every unstake is exact. -/
theorem exact_run (calls : List Call) (whole : Run.Along (step deployment) Whole {} calls) :
    Run.Along (step deployment) (Exact deployment) {} calls :=
  Run.Along.of_invariant Level (Level.step deployment) (Level.exact deployment) Level.empty whole

end Step

def firstStaker : String := "00000000000000000000000000000000000000aa"

def secondStaker : String := "00000000000000000000000000000000000000bb"

theorem exact_run_sample :
    Exact sampleDeployment (Run.exec (step sampleDeployment) {} (sampleSelection ++
      [.stake firstStaker 32_000_000 "val-1"])) (.unstake sampleTime firstStaker 1_000_000) := by
  have whole : Run.Along (step sampleDeployment) Whole {} (sampleSelection ++
      [.stake firstStaker 32_000_000 "val-1", .unstake sampleTime firstStaker 1_000_000]) := by
    rw [Run.along_append, exec_sampleSelection]
    refine ⟨⟨trivial, trivial, trivial⟩, ?_, ?_, trivial⟩
    · intro val _
      decide +kernel
    · intro staker _
      decide +kernel
  have exact := exact_run sampleDeployment _ whole
  rw [Run.along_append] at exact
  rw [Run.exec_append, Run.exec_cons, Run.exec_nil]
  exact exact.2.2.1

/-- The second of two stakes of 5000 AETHEL gets about a quarter of the shares. -/
theorem inexact_large_stake :
    ¬Exact sampleDeployment (Run.exec (step sampleDeployment) {} (sampleSelection ++
      [.stake firstStaker 5_000_000_000 "val-1"])) (.stake secondStaker 5_000_000_000 "val-1") := by
  rw [Run.exec_concat, exec_sampleSelection]
  intro exact
  have formula := (exact 1_310_651_185 (by decide +kernel)).1
  revert formula
  decide +kernel

end Vault.Store
