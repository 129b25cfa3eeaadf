import Aethelred.Vault.ActiveSet

/- The limit of withdrawal requests. A user's list gets an id with every request and loses none, so
the limit is one of the requests ever made, not of those that are open. -/
namespace Vault.Store

open Go Attempt

def unclaimedOf (store : Store) (address : String) : Nat :=
  store.withdrawals.sum fun request =>
    if request.owner = address ∧ request.claimed = false then 1 else 0

def tooMany (address : String) : String := s!"too many withdrawal requests for {address}"

/-- The user has the shares, and the vault is not paused. -/
structure Eligible (store : Store) (address : String) (shares : UInt64) : Prop where
  unpaused : store.paused = false
  owned : ∃ staker, store.stakers.lookup address = some staker ∧ ¬staker.shares < shares

/-- The text has this first character. -/
def Starts (text : String) (first : Char) : Prop := text.toList.head? = some first

instance (text : String) (first : Char) : Decidable (Starts text first) :=
  inferInstanceAs (Decidable (_ = _))

theorem Starts.append {text : String} {first : Char} (starts : Starts text first)
    (more : String) : Starts (text ++ more) first := by
  unfold Starts at *
  rw [String.toList_append, List.head?_append, starts]
  rfl

theorem starts_tooMany (address : String) : Starts (tooMany address) 't' :=
  have start : Starts (toString "too many withdrawal requests for ") 't' := by decide +kernel
  start.append _

theorem ne_tooMany {text address : String} {first : Char} (starts : Starts text first)
    (other : first ≠ 't') :
    (Except.error text : Except String (UInt64 × UInt64)) ≠ .error (tooMany address) := by
  intro same
  have text := congrArg (fun text => text.toList.head?) (Except.error.inj same)
  rw [starts, starts_tooMany] at text
  exact other (Option.some.inj text)

section Unstake

variable {store : Store} {blockTime : Instant} {address : String} {shares : UInt64}

/-- When an unstaking is refused for its many requests. -/
theorem unstake_eq_tooMany_iff :
    (unstake blockTime address shares store).1 = .error (tooMany address) ↔
      store.Eligible address shares ∧
        MaxWithdrawalRequestsPerUser ≤ (store.userWithdrawals.get address []).length := by
  simp only [unstake, requireNotPaused_bind, ensure_bind, read_bind, okOr_bind, modify_bind]
  by_cases unpaused : store.paused = false
  · rw [if_pos unpaused]
    cases staked : store.stakers.lookup address with
    | none =>
      refine iff_of_false ?_ fun both => ?_
      · have start : Starts (toString "staker not found: ") 's' := by decide +kernel
        exact ne_tooMany (start.append _) (by decide)
      · obtain ⟨staker, found, _⟩ := both.1.owned
        rw [staked] at found
        cases found
    | some staker =>
      dsimp only
      by_cases owned : ¬staker.shares < shares
      · rw [if_pos owned]
        have eligible : store.Eligible address shares := ⟨unpaused, staker, staked, owned⟩
        rw [and_iff_right eligible]
        by_cases full : MaxWithdrawalRequestsPerUser ≤
            (store.userWithdrawals.get address []).length
        · rw [if_neg (not_not.mpr full)]
          exact iff_of_true rfl full
        · rw [if_pos full]
          refine iff_of_false ?_ full
          split
          · split
            · simp
            · have start : Starts "Time.MarshalJSON: year outside of range [0,9999]" 'T' := by
                decide +kernel
              exact ne_tooMany start (by decide)
          · have start : Starts "computed aethel amount is zero" 'c' := by decide +kernel
            exact ne_tooMany start (by decide)
      · rw [if_neg owned]
        refine iff_of_false ?_ fun both => ?_
        · have start : Starts (toString "insufficient shares: have ") 'i' := by decide +kernel
          exact ne_tooMany (((start.append _).append _).append _) (by decide)
        · obtain ⟨other, found, enough⟩ := both.1.owned
          obtain rfl := Option.some.inj (staked.symm.trans found)
          exact owned enough
  · rw [if_neg unpaused]
    refine iff_of_false ?_ fun both => unpaused both.1.unpaused
    have start :
        Starts (toString "vault is paused: all mutating operations are blocked: ") 'v' := by
      decide +kernel
    exact ne_tooMany (start.append _) (by decide)

/-- An accepted unstaking appends its id. -/
theorem users_unstake :
    (unstake blockTime address shares store).2.userWithdrawals =
      if (unstake blockTime address shares store).1.toBool then
        store.userWithdrawals.insert address
          (store.userWithdrawals.get address [] ++ [store.nextWithdrawalID])
      else store.userWithdrawals := by
  simp only [unstake, requireNotPaused_bind, ensure_bind, read_bind, okOr_bind, modify_bind]
  split
  · cases store.stakers.lookup address with
    | none => rfl
    | some staker =>
      have recorded : (store.recordUnstake staker shares).userWithdrawals =
          store.userWithdrawals := by rw [recordUnstake_eq]
      dsimp only
      split
      · split
        · split
          · split
            · refine (untouched_checkCircuitBreaker _).lists.users.trans ?_
              exact congrArg (fun users : Map String (List UInt64) => users.insert address
                (store.userWithdrawals.get address [] ++ [store.nextWithdrawalID])) recorded
            · exact recorded
          · rfl
        · rfl
      · rfl
  · rfl

end Unstake

section Runs

variable (deployment : Deployment) (address : String)

def begun (store : Store) : Call → Nat
  | .unstake blockTime user shares =>
    if user = address ∧ (unstake blockTime user shares store).1.toBool then 1 else 0
  | _ => 0

variable (calls : List Call)

def started : Nat :=
  Run.total (step deployment) (begun address) {} calls

theorem Changes.users {deployment : Deployment} {store after : Store} {call : Call}
    (changes : Changes deployment store call after)
    (other : ∀ blockTime user shares, call ≠ .unstake blockTime user shares) :
    after.userWithdrawals = store.userWithdrawals := by
  cases changes with
  | staked admitted resolved =>
    rw [recordStake_frame admitted.named]
    rfl
  | delegated admitted =>
    rw [moving_eq]
    rfl
  | unstaked admitted inTime booked => exact absurd rfl (other _ _ _)
  | late admitted late => exact absurd rfl (other _ _ _)
  | selected admitted registry => rw [persistValidators_eq]
  | slashed found slashed => exact slashed.users
  | snapshotted taken =>
    obtain ⟨snapshots, rfl, -⟩ := taken
    rfl
  | kept refused same => exact same.lists.users
  | _ => rfl

theorem length_users_step (store : Store) (call : Call) (address : String) :
    ((store.step deployment call).userWithdrawals.get address []).length =
      (store.userWithdrawals.get address []).length + begun address store call := by
  have users := (changes_step deployment store call).users
  cases call with
  | unstake blockTime user shares =>
    show ((unstake blockTime user shares store).2.userWithdrawals.get address []).length = _
    rw [users_unstake, begun]
    split
    · rename_i done
      rw [Map.get_insert_eq]
      by_cases same : address = user
      · rw [if_pos same, if_pos ⟨same.symm, done⟩, same, List.length_append,
          List.length_singleton]
      · rw [if_neg same, if_neg fun both => same both.1.symm]
        rfl
    · rename_i failed
      rw [if_neg fun both => failed both.2]
      rfl
  | _ =>
    rw [users (by rintro _ _ _ ⟨⟩)]
    rfl

theorem length_users_run (start : Store) :
    ((Run.exec (step deployment) start calls).userWithdrawals.get address []).length =
      (start.userWithdrawals.get address []).length +
        Run.total (step deployment) (begun address) start calls := by
  induction calls generalizing start with
  | nil => rfl
  | cons call rest ih =>
    rw [Run.exec_cons, ih, length_users_step, Run.total, Nat.add_assoc]

/-- After every run, a user with open requests below the limit is refused for their number exactly
if he is a staker with the shares in a vault that is not paused, and has made as many requests as
the limit allows since the vault began. -/
theorem unstake_unrefused_iff (blockTime : Instant) (address : String) (shares : UInt64) :
    ((Run.exec (step deployment) {} calls).unclaimedOf address < MaxWithdrawalRequestsPerUser →
      (unstake blockTime address shares (Run.exec (step deployment) {} calls)).1 ≠
        .error (tooMany address)) ↔
    ((Run.exec (step deployment) {} calls).unclaimedOf address < MaxWithdrawalRequestsPerUser →
      (Run.exec (step deployment) {} calls).Eligible address shares →
        started deployment address calls < MaxWithdrawalRequestsPerUser) := by
  have length := length_users_run deployment address calls {}
  have none : ((({} : Store).userWithdrawals.get address [])).length = 0 := rfl
  rw [none, Nat.zero_add] at length
  apply imp_congr_right
  intro _
  rw [ne_eq, unstake_eq_tooMany_iff, length, started, not_and, Nat.not_le]

end Runs

section Payments

variable (deployment : Deployment) (store : Store)

def deposited : Call → UInt64
  | .stake address amount validatorAddr =>
    if (stake deployment address amount validatorAddr store).1.toBool then amount else 0
  | _ => 0

def paid : Call → UInt64
  | .withdraw blockTime address id => (withdraw blockTime address id store).1.toOption.getD 0
  | _ => 0

def sumOf (measure : Store → Call → UInt64) : Store → List Call → UInt64
  | _, [] => 0
  | store, call :: rest => measure store call + sumOf measure (step deployment store call) rest

def StakerResolved : Call → Prop
  | .stake address _ _ => (resolveEvmAddress deployment address).isSome
  | _ => True

instance : DecidablePred (StakerResolved deployment) := fun call => by
  cases call <;> unfold StakerResolved <;> infer_instance

/-- What is in the pool or owed to withdrawals. -/
def value : UInt64 := store.totalPooledAethel + store.totalPendingWithdrawals

theorem SameAccounts.value {store after : Store} (same : SameAccounts after store) :
    after.value = store.value := by
  rw [Store.value, same.pooled, same.pending]
  rfl

/-- Other changes keep the value. -/
theorem Changes.value {deployment : Deployment} {store after : Store} {call : Call}
    (changes : Changes deployment store call after)
    (unstaked : ∀ address amount validatorAddr, call ≠ .stake address amount validatorAddr)
    (unclaimed : ∀ blockTime address id, call ≠ .withdraw blockTime address id) :
    after.value = store.value := by
  cases changes with
  | staked => exact absurd rfl (unstaked _ _ _)
  | minted => exact absurd rfl (unstaked _ _ _)
  | withdrawn => exact absurd rfl (unclaimed _ _ _)
  | delegated admitted =>
    rw [moving_eq]
    rfl
  | unstaked admitted inTime booked =>
    rw [booked.accounts.value]
    simp only [Store.value, setWithdrawal, booking]
    grind
  | late admitted late =>
    simp only [Store.value, booking]
    grind
  | selected admitted registry =>
    rw [persistValidators_eq]
    rfl
  | slashed found slashed => exact slashed.accounts.value
  | snapshotted taken =>
    obtain ⟨snapshots, rfl, -⟩ := taken
    rfl
  | kept refused same => exact same.accounts.value

/-- Value and payments balance value and deposits in each step. -/
theorem value_step {call : Call} (resolved : StakerResolved deployment call) :
    (step deployment store call).value + paid store call =
      store.value + deposited deployment store call := by
  cases call with
  | stake address amount validatorAddr =>
    by_cases admission : ∃ val, StakeAdmitted store amount validatorAddr val
    · obtain ⟨val, admitted⟩ := admission
      obtain ⟨evmAddr, found⟩ := Option.isSome_iff_exists.mp resolved
      have done := stake_of_admitted deployment address admitted
      rw [found] at done
      simp only [step, deposited, paid, done, recordStake_frame admitted.named, value, minting,
        Except.toBool, if_true]
      grind
    · obtain ⟨reason, after, failed, same⟩ :=
        stake_of_not_admitted deployment address (not_exists.mp admission)
      simp only [step, deposited, failed]
      rw [same.accounts.value]
      rfl
  | withdraw blockTime address withdrawalID =>
    rcases withdraw_cases store blockTime address withdrawalID with
      ⟨reason, failed⟩ | ⟨req, found, outstanding, done⟩
    · simp only [step, paid, failed]
      rfl
    · simp only [step, paid, done, deposited, value, setWithdrawal, Except.toOption, Option.getD]
      grind
  | _ => exact congrArg (· + 0) ((changes_step deployment store _).value
    (by rintro _ _ _ ⟨⟩) (by rintro _ _ _ ⟨⟩))

/-- When the addresses that stake can be resolved, whatever the vault has taken in is in the pool, owed
to withdrawals or paid out. -/
theorem value_run (calls : List Call) (resolved : ∀ call ∈ calls, StakerResolved deployment call)
    (store : Store) :
    (Run.exec (step deployment) store calls).value + sumOf deployment paid store calls =
      store.value + sumOf deployment (deposited deployment) store calls := by
  induction calls generalizing store with
  | nil => rfl
  | cons call rest ih =>
    have first := value_step deployment store (resolved call List.mem_cons_self)
    have later := ih (fun other member => resolved other (List.mem_cons_of_mem _ member))
      (step deployment store call)
    rw [Run.exec_cons, sumOf, sumOf]
    grind

end Payments

def sampleUser : String := "0x00000000000000000000000000000000000000aa"

def claimTime : Instant := ⟨3000000 * 10 ^ 9, by decide, by decide⟩

def claimedCalls : List Call :=
  .stake sampleUser 32_000_000 "val-1" :: (List.range MaxWithdrawalRequestsPerUser).flatMap
    fun i => [.unstake sampleTime sampleUser 1, .withdraw claimTime sampleUser (.ofNat (i + 1))]

theorem value_run_claimed :
    (Run.exec (step sampleDeployment) {} (sampleSelection ++ claimedCalls)).value +
        sumOf sampleDeployment paid {} (sampleSelection ++ claimedCalls) =
      value {} + sumOf sampleDeployment (deposited sampleDeployment) {}
        (sampleSelection ++ claimedCalls) :=
  value_run sampleDeployment _ (by decide +kernel) {}

/-- Without any open request the user is refused for having too many. -/
theorem claimedCalls_refused :
    (Run.exec (step sampleDeployment) {} (sampleSelection ++ claimedCalls)).unclaimedOf
        sampleUser = 0 ∧
    (unstake sampleTime sampleUser 1
      (Run.exec (step sampleDeployment) {} (sampleSelection ++ claimedCalls))).1 =
        .error (tooMany sampleUser) := by
  rw [Run.exec_append, exec_sampleSelection]
  decide +kernel

end Vault.Store
