import Aethelred.Pouw.Aggregate
import Aethelred.Pouw.EvidenceSystem
import Aethelred.Lib.Run

/- Downtime tracking over the calls of the aggregation. -/
namespace Aethelred.Pouw

open Go Function List

def RawExtension.isEmpty : RawExtension → Bool
  | .empty => true
  | _ => false

def participatingValidators (votes : List ExtendedVoteInfo) : List String :=
  (((votes.filterMap fun vote => vote.voteExtension.parse).map extractValidatorAddress).filter
    (· ≠ "")).dedup

def missingValidators (votes : List ExtendedVoteInfo) : List Bytes :=
  ((votes.filter (·.voteExtension.isEmpty)).map (·.validator.address)).filter
    fun address => Hex.encodeToString address ≠ ""

/-- One call of the aggregation. The handler reads the stores as they are then, and `settled` are
the stores once the evidence of the call is dealt with. -/
structure AggregationCall where
  handler : ConsensusHandler
  ctx : ConsensusContext
  votes : List ExtendedVoteInfo
  orders : AggregationOrders
  settled : Keeper
  participantOrder : RangeOrder String
  penaltyOrder : RangeOrder String

namespace AggregationCall

variable (call : AggregationCall)

def height : Int := call.ctx.blockHeight.val

/-- Whether the call comes to its downtime part: it neither fails closed nor panics before. -/
def tracks : Bool :=
  (call.handler.voteTotals call.votes).isSome &&
    (call.handler.aggregateVoteExtensions call.ctx call.votes call.orders).isSome

def participants : List String :=
  call.participantOrder.order (participatingValidators call.votes)

def missing : List String :=
  (missingValidators call.votes).map Hex.encodeToString

variable (config : BlockMissConfig)

def recorded (t : BlockMissTracker) (call : AggregationCall) : BlockMissTracker :=
  let t := call.participants.foldl (fun t addr => t.recordParticipation config addr call.height) t
  call.missing.foldl (fun t valAddr => t.recordMiss config valAddr call.height) t

variable (crypto : Crypto) (slashingConfig : EvidenceSlashingConfig)

def track (ep : EvidenceProcessor) (call : AggregationCall) :
    List SlashResult × EvidenceProcessor :=
  if call.tracks then
    let ep := { ep with blockMissTracker := recorded config ep.blockMissTracker call }
    let (result, ep, _) := ep.processEndBlockEvidence crypto config slashingConfig call.height
      call.settled call.penaltyOrder
    (result.downtimePenalties, ep)
  else ([], ep)

variable (calls : List AggregationCall)

def processorAfter : EvidenceProcessor :=
  Run.exec (fun ep call => (track config crypto slashingConfig ep call).2) {} calls

def absent (address : Bytes) (call : AggregationCall) : Bool :=
  call.votes.any fun vote => decide (vote.validator.address = address) &&
    vote.voteExtension.isEmpty

def missedHeights (address : Bytes) (blockHeight : Int) : Finset Int :=
  ((calls.filter (absent address)).map height).toFinset.filter fun missed =>
    blockHeight - config.participationWindow < missed ∧ missed ≤ blockHeight

/-- A penalty is issued only for enough different heights missed in the window. -/
def DowntimeLaw : Prop :=
  ∀ before call rest, calls = before ++ call :: rest →
    ∀ penalty ∈ (track config crypto slashingConfig
        (processorAfter config crypto slashingConfig before) call).1,
      ∃ address, penalty.validatorAddress = Hex.encodeToString address ∧
        config.maxMissedBlocks ≤
          (missedHeights config (before ++ [call]) address call.height).card

/-- The heights of the calls do not go down. -/
def Nondecreasing : Prop :=
  (calls.map height).Pairwise (· ≤ ·)

end AggregationCall

namespace BlockMissTracker

variable (config : BlockMissConfig) (t : BlockMissTracker) (height : Int)

def misses (name : String) : List Int := t.missedBlocks.get name []

def keptMisses (missed : List Int) : List Int := missed.filter fun h => cutoff config height < h

theorem keptMisses_keptMisses (missed : List Int) :
    keptMisses config height (keptMisses config height missed) =
      keptMisses config height missed := by
  simp only [keptMisses, filter_filter, Bool.and_self]

theorem misses_pruneOldMisses (name other : String) :
    (t.pruneOldMisses config name height).misses other =
      if other = name then keptMisses config height (t.misses other) else t.misses other := by
  unfold pruneOldMisses
  dsimp only
  split
  · rename_i empty
    split
    · rename_i same
      subst same
      have none : t.misses other = [] := length_eq_zero_iff.mp empty
      rw [none]
      rfl
    · rfl
  · unfold misses
    rw [Map.get_insert_eq]
    split
    · rename_i same
      subst same
      rfl
    · rfl

theorem misses_recordMiss (name other : String) :
    (t.recordMiss config name height).misses other =
      if other = name then keptMisses config height (t.misses other ++ [height])
      else t.misses other := by
  unfold recordMiss
  dsimp only
  rw [misses_pruneOldMisses]
  unfold misses
  dsimp only
  rw [Map.get_update]
  split <;> rfl

theorem misses_foldl_recordParticipation (names : List String) (other : String) :
    (names.foldl (fun t addr => t.recordParticipation config addr height) t).misses other =
      if other ∈ names then keptMisses config height (t.misses other) else t.misses other := by
  induction names generalizing t with
  | nil => simp
  | cons name rest ih =>
    rw [foldl_cons, ih]
    have first := misses_pruneOldMisses config t height name other
    unfold recordParticipation
    rw [first]
    by_cases same : other = name
    · subst same
      simp [keptMisses_keptMisses]
    · simp [same]

theorem misses_foldl_recordMiss {names : List String} (once : names.Nodup) (other : String) :
    (names.foldl (fun t valAddr => t.recordMiss config valAddr height) t).misses other =
      if other ∈ names then keptMisses config height (t.misses other ++ [height])
      else t.misses other := by
  induction names generalizing t with
  | nil => simp
  | cons name rest ih =>
    obtain ⟨unlisted, later⟩ := nodup_cons.mp once
    rw [foldl_cons, ih _ later, misses_recordMiss]
    by_cases same : other = name
    · subst same
      simp [unlisted]
    · simp [same]

theorem mem_checkAndApplyDowntimePenalties {order : RangeOrder String} {penalty : DowntimePenalty}
    (issued : penalty ∈ t.checkAndApplyDowntimePenalties config height order) :
    config.jailThreshold ≤ (t.misses penalty.validatorAddress).length ∨
      config.maxMissedBlocks ≤ (t.misses penalty.validatorAddress).length := by
  obtain ⟨name, _, found⟩ := mem_filterMap.mp issued
  unfold penaltyFor at found
  dsimp only at found
  split at found
  · rename_i reached
    rw [← Option.some.inj found]
    exact .inl reached
  · split at found
    · rename_i reached
      rw [← Option.some.inj found]
      exact .inr reached
    · cases found

end BlockMissTracker

/-- A window that looks back and thresholds in their order. -/
structure BlockMissConfig.Valid (config : BlockMissConfig) : Prop where
  window : 0 ≤ config.participationWindow
  positive : 0 < config.maxMissedBlocks
  ordered : config.maxMissedBlocks ≤ config.jailThreshold

theorem BlockMissConfig.default_valid : BlockMissConfig.default.Valid :=
  ⟨by decide, by decide, by decide⟩

theorem BlockMissTracker.window_le_cutoff {config : BlockMissConfig} (valid : config.Valid)
    (height : I64) : height.val - config.participationWindow ≤ cutoff config height.val := by
  have window := valid.window
  have fits := height.fits
  unfold Int64.Fits at fits
  unfold cutoff Int64.wrap
  omega

namespace AggregationCall

variable (config : BlockMissConfig) (crypto : Crypto) (slashingConfig : EvidenceSlashingConfig)

/-- No validator is missing twice at one height, and whoever has a miss from before the window is
missing again or takes part under the name of its misses. -/
structure Clean (t : BlockMissTracker) (call : AggregationCall) : Prop where
  once : call.missing.Nodup
  unseen : ∀ name ∈ call.missing, call.height ∉ t.misses name
  current : ∀ name, ∀ miss ∈ t.misses name, miss ≤ BlockMissTracker.cutoff config call.height →
    name ∈ call.participants ∨ name ∈ call.missing

/-- Every call of the run that tracks misses is clean. -/
def CleanRun (calls : List AggregationCall) : Prop :=
  Run.Along (fun ep call => (track config crypto slashingConfig ep call).2)
    (fun ep call => call.tracks = true → Clean config ep.blockMissTracker call) {} calls

/-- Each miss on record stands for one call that found the validator absent. -/
structure Faithful (calls : List AggregationCall) (t : BlockMissTracker) : Prop where
  nodup : ∀ name, (t.misses name).Nodup
  seen : ∀ name, ∀ miss ∈ t.misses name, ∃ address, name = Hex.encodeToString address ∧
    ∃ call ∈ calls, call.height = miss ∧ call.absent address = true

variable {config crypto slashingConfig}

theorem blockMissTracker_track (ep : EvidenceProcessor) (call : AggregationCall) :
    (track config crypto slashingConfig ep call).2.blockMissTracker =
      if call.tracks then recorded config ep.blockMissTracker call else ep.blockMissTracker := by
  unfold track
  split <;> rfl

variable {call : AggregationCall}

variable {name : String}

theorem absent_of_mem_missing (missed : name ∈ call.missing) :
    ∃ address, name = Hex.encodeToString address ∧ call.absent address = true := by
  obtain ⟨address, listed, rfl⟩ := mem_map.mp missed
  obtain ⟨vote, given, rfl⟩ := mem_map.mp (mem_filter.mp listed).1
  obtain ⟨member, empty⟩ := mem_filter.mp given
  refine ⟨_, rfl, any_eq_true.mpr ⟨vote, member, ?_⟩⟩
  simp [empty]

variable {t : BlockMissTracker}

/-- A clean call leaves the misses of the window, old and new. -/
theorem misses_recorded (clean : Clean config t call) (name : String) :
    ∀ miss, miss ∈ (recorded config t call).misses name →
      BlockMissTracker.cutoff config call.height < miss ∧
        (miss ∈ t.misses name ∨ (miss = call.height ∧ name ∈ call.missing)) := by
  intro miss kept
  unfold recorded at kept
  dsimp only at kept
  rw [BlockMissTracker.misses_foldl_recordMiss config _ call.height clean.once,
    BlockMissTracker.misses_foldl_recordParticipation] at kept
  by_cases missed : name ∈ call.missing
  · rw [if_pos missed] at kept
    obtain ⟨listed, inside⟩ := mem_filter.mp kept
    refine ⟨of_decide_eq_true inside, ?_⟩
    rcases mem_append.mp listed with old | new
    · left
      split at old
      · exact (mem_filter.mp old).1
      · exact old
    · exact .inr ⟨mem_singleton.mp new, missed⟩
  · rw [if_neg missed] at kept
    split at kept
    · obtain ⟨old, inside⟩ := mem_filter.mp kept
      exact ⟨of_decide_eq_true inside, .inl old⟩
    · rename_i unnamed
      refine ⟨?_, .inl kept⟩
      by_contra outside
      rcases clean.current name miss kept (Int.not_lt.mp outside) with named | again
      · exact unnamed named
      · exact missed again

theorem nodup_recorded (clean : Clean config t call)
    (nodup : (t.misses name).Nodup) : ((recorded config t call).misses name).Nodup := by
  unfold recorded
  dsimp only
  rw [BlockMissTracker.misses_foldl_recordMiss config _ call.height clean.once,
    BlockMissTracker.misses_foldl_recordParticipation]
  have earlier : (if name ∈ call.participants then
      BlockMissTracker.keptMisses config call.height (t.misses name) else t.misses name).Sublist
        (t.misses name) := by
    split
    · exact filter_sublist
    · exact Sublist.refl _
  by_cases missed : name ∈ call.missing
  · rw [if_pos missed]
    apply Nodup.sublist filter_sublist
    rw [nodup_append]
    refine ⟨nodup.sublist earlier, nodup_singleton _, ?_⟩
    intro old listed new added same
    rw [same, mem_singleton.mp added] at listed
    exact clean.unseen name missed (earlier.mem listed)
  · rw [if_neg missed]
    exact nodup.sublist earlier

variable {calls : List AggregationCall}

theorem Faithful.later
    (faithful : Faithful calls t) (call : AggregationCall) : Faithful (calls ++ [call]) t := by
  refine ⟨faithful.nodup, fun name miss listed => ?_⟩
  obtain ⟨address, named, earlier, member, found⟩ := faithful.seen name miss listed
  exact ⟨address, named, earlier, mem_append_left _ member, found⟩

theorem Faithful.recorded (faithful : Faithful calls t) (clean : Clean config t call) :
    Faithful (calls ++ [call]) (recorded config t call) := by
  refine ⟨fun name => nodup_recorded clean (faithful.nodup name), fun name miss listed => ?_⟩
  rcases (misses_recorded clean name miss listed).2 with old | ⟨rfl, missed⟩
  · exact (faithful.later call).seen name miss old
  · obtain ⟨address, named, absent⟩ := absent_of_mem_missing missed
    exact ⟨address, named, call, mem_append_right _ (mem_singleton_self call), rfl,
      absent⟩

theorem faithful_processorAfter (clean : CleanRun config crypto slashingConfig calls) :
    Faithful calls (processorAfter config crypto slashingConfig calls).blockMissTracker := by
  induction calls using reverseRecOn with
  | nil => exact ⟨fun _ => nodup_nil, fun name miss listed => nomatch listed⟩
  | append_singleton before call ih =>
    obtain ⟨earlier, last⟩ := (Run.along_append _ _ _).mp clean
    have after : processorAfter config crypto slashingConfig (before ++ [call]) =
        (AggregationCall.track config crypto slashingConfig
          (processorAfter config crypto slashingConfig before) call).2 :=
      Run.exec_concat _ _ _
    rw [after, blockMissTracker_track]
    split
    · rename_i tracked
      exact (ih earlier).recorded (last.1 tracked)
    · exact (ih earlier).later call

theorem exists_penalty_of_mem_track {ep : EvidenceProcessor}
    {result : SlashResult} (issued : result ∈ (track config crypto slashingConfig ep call).1) :
    call.tracks = true ∧ ∃ penalty ∈ (recorded config ep.blockMissTracker
      call).checkAndApplyDowntimePenalties config call.height call.penaltyOrder,
        penalty.validatorAddress = result.validatorAddress := by
  unfold track at issued
  split at issued
  · rename_i tracked
    refine ⟨tracked, ?_⟩
    have named := mem_map_of_mem (f := SlashResult.validatorAddress) issued
    dsimp only [EvidenceProcessor.processEndBlockEvidence] at named
    rw [EvidenceProcessor.foldl_slashDowntime, map_nil, nil_append] at named
    exact mem_map.mp named
  · cases issued

theorem Nondecreasing.height_le {before rest : List AggregationCall}
    (ordered : Nondecreasing (before ++ call :: rest)) {source : AggregationCall}
    (member : source ∈ before ++ [call]) : source.height ≤ call.height := by
  unfold Nondecreasing at ordered
  rw [map_append, map_cons, pairwise_append] at ordered
  rcases mem_append.mp member with earlier | last
  · exact ordered.2.2 _ (mem_map_of_mem earlier) _ mem_cons_self
  · rw [mem_singleton.mp last]

/-- In every run of clean calls a penalty is issued only for enough different heights that the
validator missed in the window. -/
theorem downtime_law (valid : config.Valid) {calls : List AggregationCall}
    (ordered : Nondecreasing calls) (clean : CleanRun config crypto slashingConfig calls) :
    DowntimeLaw config crypto slashingConfig calls := by
  rintro before call rest rfl result issued
  obtain ⟨tracked, penalty, checked, named⟩ := exists_penalty_of_mem_track issued
  obtain ⟨earlier, later⟩ := (Run.along_append _ _ _).mp clean
  have cleanCall : Clean config
      (processorAfter config crypto slashingConfig before).blockMissTracker
    call := later.1 tracked
  have faithful := (faithful_processorAfter earlier).recorded cleanCall
  have reached : config.maxMissedBlocks ≤ ((recorded config (processorAfter config crypto
      slashingConfig before).blockMissTracker call).misses result.validatorAddress).length := by
    rw [← named]
    rcases BlockMissTracker.mem_checkAndApplyDowntimePenalties config _ _ checked with
      jailed | slashed
    · exact valid.ordered.trans jailed
    · exact slashed
  have inside := misses_recorded cleanCall result.validatorAddress
  generalize recorded config _ call = t at *
  have positive := valid.positive
  obtain ⟨first, listed⟩ : ∃ miss, miss ∈ t.misses result.validatorAddress :=
    exists_mem_of_length_pos (by omega)
  obtain ⟨address, spelled, _⟩ := faithful.seen _ first listed
  refine ⟨address, spelled, reached.trans ?_⟩
  rw [← toFinset_card_of_nodup (faithful.nodup result.validatorAddress)]
  norm_cast
  apply Finset.card_le_card
  intro miss kept
  rw [mem_toFinset] at kept
  obtain ⟨other, spelledToo, source, member, height, absent⟩ := faithful.seen _ miss kept
  have same : other = address :=
    Hex.encodeToString_injective (spelledToo.symm.trans spelled)
  subst same
  have window := BlockMissTracker.window_le_cutoff valid call.ctx.blockHeight
  have recent : miss ≤ call.height := by
    rw [← height]
    exact ordered.height_le member
  refine Finset.mem_filter.mpr ⟨mem_toFinset.mpr (mem_map.mpr ⟨source,
    mem_filter.mpr ⟨member, absent⟩, height⟩), ?_, recent⟩
  exact Int.lt_of_le_of_lt window (inside miss kept).1

/-- A validator that reaches the limit is penalised. -/
theorem exists_mem_track {ep : EvidenceProcessor} (tracked : call.tracks = true)
    (positive : 0 < config.maxMissedBlocks) (reached : config.maxMissedBlocks ≤
      ((recorded config ep.blockMissTracker call).misses name).length) :
    ∃ result ∈ (track config crypto slashingConfig ep call).1, result.validatorAddress = name := by
  have named : name ∈ (track config crypto slashingConfig ep call).1.map
      SlashResult.validatorAddress := by
    unfold track
    rw [if_pos tracked]
    dsimp only [EvidenceProcessor.processEndBlockEvidence]
    rw [EvidenceProcessor.foldl_slashDowntime, map_nil, nil_append]
    obtain ⟨penalty, found, same⟩ : ∃ penalty, BlockMissTracker.penaltyFor config call.height name
        ((recorded config ep.blockMissTracker call).misses name) = some penalty ∧
          penalty.validatorAddress = name := by
      unfold BlockMissTracker.penaltyFor
      dsimp only
      rw [if_pos reached]
      split
      · exact ⟨_, rfl, rfl⟩
      · exact ⟨_, rfl, rfl⟩
    refine mem_map.mpr ⟨penalty, mem_filterMap.mpr ⟨name, ?_, found⟩, same⟩
    rw [RangeOrder.mem_order, Map.mem_keys_iff]
    cases stored : (recorded config ep.blockMissTracker call).missedBlocks.lookup name with
    | some misses => exact ⟨misses, rfl⟩
    | none =>
      unfold BlockMissTracker.misses Map.get at reached
      rw [stored] at reached
      simp only [Option.getD_none, length_nil] at reached
      omega
  obtain ⟨result, issued, same⟩ := mem_map.mp named
  exact ⟨result, issued, same⟩

end AggregationCall

namespace DowntimeSample

open AggregationCall

def crypto : Crypto where
  sha256 data := (data ++ replicate 32 0).take 32
  sha256_length := length_padded
  ed25519Public seed := seed
  ed25519Sign _ message := message
  ed25519Verify _ _ _ := true

def callAt (height : I64) (extension : RawExtension) : AggregationCall where
  handler := { keeper := {} }
  ctx := ⟨height, Time.zero⟩
  votes := [⟨⟨[1], 10⟩, extension⟩]
  orders := .asGiven
  settled := {}
  participantOrder := .asGiven
  penaltyOrder := .asGiven

def absentAt (height : I64) : AggregationCall := callAt height .empty

/-- A call with an extension of the validator, which carries its address in base64. -/
def presentAt (height : I64) : AggregationCall :=
  callAt height (.wire { height := height.val, validatorAddress := some (.str "AQ=="),
                         verifications := [], timestamp := Time.zero,
                         signature := some (.str "AQ=="), extensionHash := some (.str "AQ==") })

section

variable (height : I64)
include height

@[simp] theorem absentAt_height : (absentAt height).height = height.val := rfl

theorem absentAt_tracks : (absentAt height).tracks = true := rfl

theorem presentAt_tracks : (presentAt height).tracks = true := by
  rfl

theorem absentAt_missing : (absentAt height).missing = ["01"] := by
  rfl

theorem presentAt_missing : (presentAt height).missing = [] := by
  rfl

theorem presentAt_participants : (presentAt height).participants = ["AQ=="] := by
  rfl

theorem absentAt_participants : (absentAt height).participants = [] := by
  rfl

end

theorem misses_recorded_absentAt (t : BlockMissTracker) (height : I64)
    (inside : ∀ miss ∈ t.misses "01", BlockMissTracker.cutoff .default height.val < miss)
    (low : BlockMissTracker.cutoff .default height.val < height.val) :
    (recorded .default t (absentAt height)).misses "01" = t.misses "01" ++ [height.val] := by
  unfold recorded
  rw [absentAt_missing, absentAt_participants, BlockMissTracker.misses_foldl_recordMiss .default _ _
    (nodup_singleton "01"), if_pos (mem_singleton_self "01")]
  apply filter_eq_self.mpr
  intro miss listed
  rcases mem_append.mp listed with old | new
  · exact decide_eq_true (inside miss old)
  · rw [mem_singleton.mp new]
    exact decide_eq_true low

/-- One absence after the other is on record. -/
theorem misses_processorAfter {heights : List I64}
    (early : ∀ height ∈ heights, 0 < height.val ∧ height.val ≤ 10000) :
    (processorAfter .default crypto .default (heights.map absentAt)).blockMissTracker.misses "01" =
      heights.map (·.val) := by
  induction heights using reverseRecOn with
  | nil => rfl
  | append_singleton before height ih =>
    have kept := ih fun other member => early other (mem_append_left _ member)
    obtain ⟨positive, small⟩ := early height
      (mem_append_right _ (mem_singleton_self height))
    have cut : BlockMissTracker.cutoff .default height.val ≤ 0 := by
      unfold BlockMissTracker.cutoff Int64.wrap BlockMissConfig.default
      dsimp only
      omega
    have after : processorAfter .default crypto .default ((before ++ [height]).map absentAt) =
        (track .default crypto .default
          (processorAfter .default crypto .default (before.map absentAt)) (absentAt height)).2 := by
      rw [map_append]
      exact Run.exec_concat _ _ _
    rw [after, blockMissTracker_track, if_pos (absentAt_tracks height), misses_recorded_absentAt,
      kept, map_append]
    · rfl
    · intro miss listed
      rw [kept] at listed
      obtain ⟨other, member, rfl⟩ := mem_map.mp listed
      have := (early other (mem_append_left _ member)).1
      omega
    · omega

variable {call : AggregationCall}

theorem not_downtimeLaw {before : List AggregationCall} (tracked : call.tracks = true)
    (reached : 500 ≤ ((recorded .default (processorAfter .default crypto .default
      before).blockMissTracker call).misses "01").length) (few : ∀ address,
      (missedHeights .default (before ++ [call]) address call.height).card < 500) :
    ¬DowntimeLaw .default crypto .default (before ++ [call]) := by
  intro law
  obtain ⟨penalty, issued, _⟩ := exists_mem_track tracked BlockMissConfig.default_valid.positive
    (Int.ofNat_le.mpr reached)
  obtain ⟨address, _, enough⟩ := law before call [] rfl penalty issued
  have most := few address
  have needed : (500 : Int) ≤
      (missedHeights .default (before ++ [call]) address call.height).card := enough
  omega

def firstBlock : I64 := ⟨1, .one⟩

def repeated (count : Nat) : List AggregationCall :=
  (replicate count firstBlock).map absentAt

def earlyMisses (count : Nat) : List AggregationCall :=
  ((range count).map fun i : Nat => I64.ofInt (i + 1)).map absentAt

def lateBlock : I64 := ⟨20000, by decide⟩

theorem repeated_reached (count : Nat) : ((recorded .default (processorAfter .default crypto .default
    (repeated count)).blockMissTracker (absentAt firstBlock)).misses "01").length = count + 1 := by
  have kept := misses_processorAfter
    (fun height member => by rw [eq_of_mem_replicate member]; decide :
      ∀ height ∈ replicate count firstBlock, 0 < height.val ∧ height.val ≤ 10000)
  unfold repeated
  rw [misses_recorded_absentAt]
  · rw [kept, length_append, length_map, length_replicate, length_singleton]
  · rw [kept, map_replicate]
    intro miss listed
    rw [eq_of_mem_replicate listed]
    decide
  · decide

variable {count : Nat}

theorem earlyMisses_reached (small : count ≤ 10000) :
    ((recorded .default (processorAfter .default crypto .default
      (earlyMisses count)).blockMissTracker (presentAt lateBlock)).misses "01").length = count := by
  have kept : (processorAfter .default crypto .default (earlyMisses count)).blockMissTracker.misses
      "01" = ((range count).map fun i : Nat => I64.ofInt (i + 1)).map (·.val) := by
    apply misses_processorAfter
    intro height member
    obtain ⟨i, inside, rfl⟩ := mem_map.mp member
    have bound := mem_range.mp inside
    rw [I64.val_ofInt (by unfold Int64.Fits; omega)]
    omega
  unfold recorded
  rw [presentAt_missing, presentAt_participants, foldl_nil,
    BlockMissTracker.misses_foldl_recordParticipation, if_neg (by decide), kept, length_map,
    length_map, length_range]

theorem repeated_height
    (member : call ∈ repeated count ++ [absentAt firstBlock]) : call.height = 1 := by
  rcases mem_append.mp member with earlier | last
  · obtain ⟨height, given, rfl⟩ := mem_map.mp earlier
    rw [eq_of_mem_replicate given]
    rfl
  · rw [mem_singleton.mp last]
    rfl

theorem nondecreasing_repeated (count : Nat) :
    Nondecreasing (repeated count ++ [absentAt firstBlock]) := by
  apply pairwise_map.mpr
  apply pairwise_of_forall_mem_list
  intro first given second too
  rw [repeated_height given, repeated_height too]

theorem missedHeights_repeated (count : Nat) (address : Bytes) :
    (missedHeights .default (repeated count ++ [absentAt firstBlock]) address
      (absentAt firstBlock).height).card ≤ 1 := by
  have only : missedHeights .default (repeated count ++ [absentAt firstBlock]) address
      (absentAt firstBlock).height ⊆ {1} := by
    intro missed counted
    obtain ⟨call, member, rfl⟩ := mem_map.mp
      (mem_toFinset.mp (Finset.mem_filter.mp counted).1)
    rw [repeated_height (mem_filter.mp member).1]
    exact Finset.mem_singleton_self 1
  exact Finset.card_le_card only

section

variable (small : count ≤ 10000)
include small

theorem earlyMisses_height
    (member : call ∈ earlyMisses count) : call.height ≤ 10000 := by
  obtain ⟨height, given, rfl⟩ := mem_map.mp member
  obtain ⟨i, inside, rfl⟩ := mem_map.mp given
  have bound := mem_range.mp inside
  rw [absentAt_height, I64.val_ofInt (by unfold Int64.Fits; omega)]
  omega

theorem nondecreasing_earlyMisses :
    Nondecreasing (earlyMisses count ++ [presentAt lateBlock]) := by
  unfold Nondecreasing
  rw [map_append, pairwise_append]
  refine ⟨?_, pairwise_singleton _ _, ?_⟩
  · unfold earlyMisses
    rw [map_map, map_map, pairwise_map]
    apply pairwise_lt_range.imp_of_mem
    intro i j first second less
    have secondBound := mem_range.mp second
    rw [comp_apply, comp_apply, comp_apply, comp_apply,
      absentAt_height, absentAt_height, I64.val_ofInt (by unfold Int64.Fits; omega),
      I64.val_ofInt (by unfold Int64.Fits; omega)]
    omega
  · intro earlier given last listed
    obtain ⟨call, member, rfl⟩ := mem_map.mp given
    have bound := earlyMisses_height small member
    have late : last = 20000 := mem_singleton.mp listed
    omega

theorem missedHeights_earlyMisses (address : Bytes) :
    missedHeights .default (earlyMisses count ++ [presentAt lateBlock]) address
      (presentAt lateBlock).height = ∅ := by
  apply Finset.eq_empty_of_forall_notMem
  intro missed counted
  obtain ⟨listed, inside, _⟩ := Finset.mem_filter.mp counted
  obtain ⟨call, member, rfl⟩ := mem_map.mp (mem_toFinset.mp listed)
  obtain ⟨given, absent⟩ := mem_filter.mp member
  rcases mem_append.mp given with earlier | last
  · have bound := earlyMisses_height small earlier
    have late : (20000 : Int) - 10000 < call.height := inside
    omega
  · rw [mem_singleton.mp last] at absent
    simp [AggregationCall.absent, presentAt, callAt, RawExtension.isEmpty] at absent

end

end DowntimeSample

open AggregationCall DowntimeSample in
/-- Five hundred evaluations of one height are penalised, and so are five hundred misses long
before the window of a validator that takes part. -/
theorem downtime_law_fails :
    (Nondecreasing (repeated 499 ++ [absentAt firstBlock]) ∧
        ¬DowntimeLaw .default crypto .default (repeated 499 ++ [absentAt firstBlock])) ∧
      Nondecreasing (earlyMisses 500 ++ [presentAt lateBlock]) ∧
        ¬DowntimeLaw .default crypto .default (earlyMisses 500 ++ [presentAt lateBlock]) := by
  have small : 500 ≤ 10000 := by decide
  refine ⟨⟨nondecreasing_repeated 499, ?_⟩, nondecreasing_earlyMisses small, ?_⟩
  · refine not_downtimeLaw (absentAt_tracks _) (repeated_reached 499).ge fun address => ?_
    exact Nat.lt_of_le_of_lt (missedHeights_repeated 499 address) (by decide)
  · refine not_downtimeLaw (presentAt_tracks _) (earlyMisses_reached small).ge fun address => ?_
    rw [missedHeights_earlyMisses small, Finset.card_empty]
    exact Nat.zero_lt_succ 499

open AggregationCall DowntimeSample in
/-- A run with a penalty that keeps the law. -/
theorem downtime_law_of_one_miss :
    (track ⟨10, 1, 2⟩ crypto .default {} (absentAt ⟨1, .one⟩)).1 ≠ [] ∧
      DowntimeLaw ⟨10, 1, 2⟩ crypto .default [absentAt ⟨1, .one⟩] := by
  have clean : Clean ⟨10, 1, 2⟩ {} (absentAt ⟨1, .one⟩) := by
    refine ⟨?_, fun name _ listed => (nomatch listed), fun name miss listed => (nomatch listed)⟩
    rw [absentAt_missing]
    exact nodup_singleton "01"
  refine ⟨by decide +kernel, ?_⟩
  exact downtime_law ⟨by decide, by decide, by decide⟩ (pairwise_singleton _ _)
    ⟨fun _ => clean, trivial⟩

end Aethelred.Pouw
