import Aethelred.Relayer.Watch

/- Whether the listeners lose a deposit or a burn. -/
namespace Relayer

open Go List Except EthereumListener

def AethelredChain.burns (chain : AethelredChain) : List AethelredBurn :=
  chain.txs.flatMap (·.events)

def AethelredChain.page (chain : AethelredChain) (listed : Bool) (fromBlock toBlock : UInt64) :
    List AethelredBurn :=
  ((chain.answer listed).filter (AethelredClient.inRange fromBlock toBlock)).filterMap
    fun tx => tx.events.head?

/-- Of what is not stored yet in the blocks it reads, a poll that succeeds gets everything in the
node's answer and finds it final already; a poll that fails after that answer finds nothing final. -/
def Timely (host : Host) (eth : EthChain) (aethelred : AethelredChain) (watch : Watch) :
    WatchAction → Prop
  | .pollEthereum poll => ∀ head, poll.getBlockNumber = .ok head → watch.ethLast < head →
      poll.getLogs = .ok () → ∀ deposit ∈ eth.deposits,
        within (watch.ethLast + 1) (scanEnd host.config.ethereum head
          (watch.ethLast + 1)) deposit.blockNumber = true →
        watch.storage.hasDeposit deposit.depositId = false →
          ((eth.topic = depositTopic ∧
            host.config.ethereum.confirmations ≤ saturatingSub head deposit.blockNumber) ↔
            ∃ hash, poll.getBlockHash = .ok hash)
  | .pollAethelred poll => ∀ head listed, poll.getBlockHeight = .ok head →
      watch.aethelredLast < head → poll.burnTxs = .ok listed → ∀ burn ∈ aethelred.burns,
        within (watch.aethelredLast + 1) head burn.blockHeight = true →
        watch.storage.hasBurn burn.burnId = false →
          ((burn ∈ aethelred.page listed (watch.aethelredLast + 1) head ∧
            host.config.aethelred.confirmations ≤ saturatingSub head burn.blockHeight) ↔
            (∃ mints, poll.mintTxs = .ok mints) ∧ ∃ hash, poll.getBlockHash = .ok hash)
  | .call _ | .restart => True

/-- Both listeners have announced what they have stored, and have stored what they have scanned. -/
structure Watchful (eth : EthChain) (aethelred : AethelredChain) (watch : Watch) : Prop where
  deposits : depositIntake.Intact eth.deposits watch.storage watch.ethEmitted
    fun deposit => Watch.Scanned watch.ethScans deposit.blockNumber
  burns : burnIntake.Intact aethelred.burns watch.storage watch.aethelredEmitted
    fun burn => Watch.Scanned watch.aethelredScans burn.blockHeight

section Steps

variable {host : Host} {eth : EthChain} {aethelred : AethelredChain} {watch : Watch}

theorem Watchful.of_holdings (watchful : Watchful eth aethelred watch) {storage : BridgeStorage}
    (same : storage.holdings = watch.storage.holdings) :
    Watchful eth aethelred { watch with storage } where
  deposits := watchful.deposits.congr fun id => congrFun (congrArg Prod.fst same) id
  burns := watchful.burns.congr fun id => congrFun (congrArg Prod.snd same) id

theorem Watchful.call (watchful : Watchful eth aethelred watch) (call : Call) :
    Watchful eth aethelred (watch.step host eth aethelred (.call call)) := by
  simp only [Watch.step]
  split
  next delivered =>
    refine watchful.of_holdings ?_
    cases call with
    | ethereumEvent now event =>
      refine holdings_ethereumEvent fun deposit same => ?_
      subst same
      exact watchful.deposits.announced deposit (of_decide_eq_true delivered)
    | aethelredEvent now event =>
      refine holdings_aethelredEvent fun burn same => ?_
      subst same
      exact watchful.burns.announced burn (of_decide_eq_true delivered)
    | listenerDeposit | listenerBurn => contradiction
    | checkTimeouts now mintOrder burnOrder => exact holdings_checkTimeouts ..
    | updateRelayerSet | voteMint | voteWithdrawal | processPending | restart => rfl
  next => exact watchful

theorem EthChain.logs_sublist (chain : EthChain) (topic : Hash) (fromBlock toBlock : UInt64) :
    (chain.logs topic fromBlock toBlock).Sublist chain.deposits := by
  unfold EthChain.logs
  split
  · exact filter_sublist
  · exact nil_sublist _

variable {fromBlock toBlock : UInt64}

theorem EthChain.mem_logs {chain : EthChain} {topic : Hash} {deposit : EthereumDeposit} :
    deposit ∈ chain.logs topic fromBlock toBlock ↔ chain.topic = topic ∧
      deposit ∈ chain.deposits ∧ within fromBlock toBlock deposit.blockNumber = true := by
  unfold EthChain.logs
  split
  next same => simp [same]
  next differ => simp [differ]

theorem head?_sublist_flatMap {α : Type} (txs : List (TxResponse α)) :
    (txs.filterMap fun tx => tx.events.head?).Sublist (txs.flatMap (·.events)) := by
  induction txs with
  | nil => exact Sublist.refl _
  | cons tx rest ih =>
    rw [flatMap_cons]
    cases held : tx.events with
    | nil => simpa [filterMap_cons, held] using ih
    | cons first others =>
      rw [filterMap_cons, held]
      exact (ih.trans (sublist_append_right others _)).cons_cons first

theorem AethelredChain.answer_sublist (chain : AethelredChain) (listed : Bool) :
    (chain.answer listed).Sublist chain.txs := by
  unfold AethelredChain.answer
  split
  · exact take_sublist ..
  · exact nil_sublist _

variable {listed : Bool}

theorem AethelredChain.page_sublist (chain : AethelredChain) (listed : Bool)
    (fromBlock toBlock : UInt64) : (chain.page listed fromBlock toBlock).Sublist chain.burns := by
  refine (head?_sublist_flatMap _).trans ?_
  exact (filter_sublist.trans (chain.answer_sublist listed)).flatMap _

theorem AethelredChain.within_of_mem_page (chain : AethelredChain)
    {burn : AethelredBurn} (member : burn ∈ chain.page listed fromBlock toBlock) :
    within fromBlock toBlock burn.blockHeight = true := by
  obtain ⟨tx, found, first⟩ := mem_filterMap.mp member
  obtain ⟨found, inside⟩ := mem_filter.mp found
  rw [chain.dated tx ((chain.answer_sublist listed).subset found) burn (mem_of_head? first)]
  simpa [AethelredClient.inRange, within] using inside

theorem scanned_append (range : Option (UInt64 × UInt64)) (scans : List (UInt64 × UInt64))
    (block : UInt64) :
    Watch.Scanned (range.toList ++ scans) block ↔ Watch.Scanned scans block ∨
      ∃ scan ∈ range, within scan.1 scan.2 block = true := by
  unfold Watch.Scanned
  simp only [mem_append, Option.mem_toList, or_and_right, exists_or]
  exact or_comm

variable {poll : AethelredPoll}

theorem ethRange_eq {config : EthereumConfig} {poll : EthPoll} {head : UInt64} {hash : Hash}
    (numbered : poll.getBlockNumber = .ok head) (ahead : watch.ethLast < head)
    (read : poll.getLogs = .ok ()) (hashed : poll.getBlockHash = .ok hash) :
    watch.ethRange config poll =
      some (watch.ethLast + 1, scanEnd config head (watch.ethLast + 1)) := by
  simp only [Watch.ethRange, numbered, read, hashed, UInt64.not_le.mpr ahead, ↓reduceIte]

theorem aethelredRange_eq {head : UInt64} {mints : List (TxResponse MintEvent)} {hash : Hash}
    (numbered : poll.getBlockHeight = .ok head) (ahead : watch.aethelredLast < head)
    (read : poll.burnTxs = .ok listed) (minted : poll.mintTxs = .ok mints)
    (hashed : poll.getBlockHash = .ok hash) :
    watch.aethelredRange poll = some (watch.aethelredLast + 1, head) := by
  simp only [Watch.aethelredRange, numbered, read, minted, hashed, UInt64.not_le.mpr ahead,
    ↓reduceIte]

theorem ethRange_none {config : EthereumConfig} {poll : EthPoll}
    (failed : ∀ head hash, poll.getBlockNumber = .ok head → watch.ethLast < head →
      poll.getLogs = .ok () → poll.getBlockHash ≠ .ok hash) :
    watch.ethRange config poll = none := by
  unfold Watch.ethRange
  split
  next head hash numbered read hashed =>
    split
    · rfl
    next behind => exact absurd hashed (failed head hash numbered (UInt64.not_le.mp behind) read)
  next => rfl

theorem aethelredRange_none
    (failed : ∀ head listed mints hash, poll.getBlockHeight = .ok head →
      watch.aethelredLast < head → poll.burnTxs = .ok listed → poll.mintTxs = .ok mints →
      poll.getBlockHash ≠ .ok hash) :
    watch.aethelredRange poll = none := by
  unfold Watch.aethelredRange
  split
  next head listed mints hash numbered read minted hashed =>
    split
    · rfl
    next behind =>
      exact absurd hashed
        (failed head listed mints hash numbered (UInt64.not_le.mp behind) read minted)
  next => rfl

theorem AethelredChain.getBurnEvents_eq_ok {chain : AethelredChain} {burns : List AethelredBurn}
    (fetched : (chain.client poll).getBurnEvents fromBlock toBlock = .ok burns) :
    ∃ listed, poll.burnTxs = .ok listed ∧ chain.page listed fromBlock toBlock = burns := by
  obtain ⟨txs, answered, rfl⟩ := map_eq_ok.mp fetched
  obtain ⟨listed, read, rfl⟩ := map_eq_ok.mp answered
  exact ⟨listed, read, rfl⟩

section

variable (watchful : Watchful eth aethelred watch)
include watchful

/-- A timely poll keeps the watch. -/
theorem Watchful.pollEthereum (poll : EthPoll)
    (timely : Timely host eth aethelred watch (.pollEthereum poll)) :
    Watchful eth aethelred (watch.step host eth aethelred (.pollEthereum poll)) := by
  have polled := pollEvents_polled host.config.ethereum (eth.provider poll)
    ⟨watch.storage, watch.ethLast⟩
  simp only [Watch.step]
  generalize pollEvents host.config.ethereum (eth.provider poll)
    ⟨watch.storage, watch.ethLast⟩ = result at polled ⊢
  -- a poll that scans no blocks emits nothing
  have unchanged : watch.ethRange host.config.ethereum poll = none →
      depositIntake.Intact eth.deposits watch.storage (watch.ethEmitted ++ []) fun deposit =>
        Watch.Scanned ((watch.ethRange host.config.ethereum poll).toList ++ watch.ethScans)
          deposit.blockNumber := by
    intro none
    rw [none, append_nil]
    exact watchful.deposits
  cases polled with
  | unreached failed =>
    refine ⟨unchanged (ethRange_none fun head hash numbered => ?_), watchful.burns⟩
    exact nomatch numbered.symm.trans failed
  | @idle head numbered behind =>
    refine ⟨unchanged (ethRange_none fun other hash numbered' ahead => ?_), watchful.burns⟩
    obtain rfl := ok.inj (numbered.symm.trans numbered')
    exact absurd behind (UInt64.not_le.mpr ahead)
  | unread numbered ahead failed =>
    refine ⟨unchanged (ethRange_none fun other hash _ _ read => ?_), watchful.burns⟩
    simp only [EthChain.provider, read] at failed
    contradiction
  | @unfinished head deposits reason numbered ahead fetched failed =>
    obtain ⟨⟨⟩, read, rfl⟩ := map_eq_ok.mp fetched
    have same : (depositIntake.scan (isFinal host.config.ethereum head)
        watch.storage (eth.logs depositTopic (watch.ethLast + 1)
          (scanEnd host.config.ethereum head (watch.ethLast + 1)))).1 =
        watch.storage := by
      refine Intake.scan_fst_eq fun deposit listed => ?_
      obtain ⟨topic, member, inside⟩ := EthChain.mem_logs.mp listed
      cases stored : watch.storage.hasDeposit deposit.depositId with
      | true => exact .inl stored
      | false =>
        refine .inr (decide_eq_false fun deep => ?_)
        obtain ⟨hash, hashed⟩ := (timely head numbered ahead read deposit member inside
          stored).mp ⟨topic, deep⟩
        exact nomatch hashed.symm.trans failed
    simp only [same]
    refine ⟨unchanged (ethRange_none fun _ hash _ _ _ hashed => ?_), watchful.burns⟩
    exact nomatch hashed.symm.trans failed
  | @scanned head deposits hash numbered ahead fetched hashed =>
    obtain ⟨⟨⟩, read, rfl⟩ := map_eq_ok.mp fetched
    refine ⟨?_, watchful.burns.congr fun id => congrFun (hasBurn_depositScan ..) id⟩
    simp only [Except.toOption, Option.getD_some, scanned_append,
      ethRange_eq numbered ahead read hashed]
    refine Intake.Intact.congr (watchful.deposits.scan depositIntake_lawful eth.distinct
      (eth.logs_sublist ..) ?_ ?_ ?_ ?_) fun _ => rfl
    · intro deposit listed unstored
      obtain ⟨-, member, inside⟩ := EthChain.mem_logs.mp listed
      exact decide_eq_true ((timely head numbered ahead read deposit member inside unstored).mpr
        ⟨hash, hashed⟩).2
    · rintro deposit member ⟨_, ⟨⟩, inside⟩
      cases stored : watch.storage.hasDeposit deposit.depositId with
      | true => exact .inr stored
      | false =>
        obtain ⟨topic, -⟩ := (timely head numbered ahead read deposit member inside
          stored).mpr ⟨hash, hashed⟩
        exact .inl (EthChain.mem_logs.mpr ⟨topic, member, inside⟩)
    · exact fun deposit => count_eq_zero.mpr (by simp [depositIntake])
    · exact fun deposit => by simp [depositIntake]

/-- A timely poll keeps the watch. -/
theorem Watchful.pollAethelred (poll : AethelredPoll)
    (timely : Timely host eth aethelred watch (.pollAethelred poll)) :
    Watchful eth aethelred (watch.step host eth aethelred (.pollAethelred poll)) := by
  have polled := AethelredListener.pollEvents_polled host.config.aethelred (aethelred.client poll)
    ⟨watch.storage, watch.aethelredLast⟩
  simp only [Watch.step]
  generalize AethelredListener.pollEvents host.config.aethelred (aethelred.client poll)
    ⟨watch.storage, watch.aethelredLast⟩ = result at polled ⊢
  have unchanged : watch.aethelredRange poll = none →
      burnIntake.Intact aethelred.burns watch.storage (watch.aethelredEmitted ++ []) fun burn =>
        Watch.Scanned ((watch.aethelredRange poll).toList ++ watch.aethelredScans)
          burn.blockHeight := by
    intro none
    rw [none, append_nil]
    exact watchful.burns
  cases polled with
  | unreached failed =>
    refine ⟨watchful.deposits, unchanged (aethelredRange_none fun _ _ _ _ numbered => ?_)⟩
    exact nomatch numbered.symm.trans failed
  | @idle head numbered behind =>
    refine ⟨watchful.deposits, unchanged (aethelredRange_none fun _ _ _ _ numbered' ahead => ?_)⟩
    obtain rfl := ok.inj (numbered.symm.trans numbered')
    exact absurd behind (UInt64.not_le.mpr ahead)
  | unread numbered ahead failed =>
    refine ⟨watchful.deposits, unchanged (aethelredRange_none fun _ _ _ _ _ _ read => ?_)⟩
    simp only [AethelredClient.getBurnEvents, AethelredChain.client, read] at failed
    contradiction
  | @unfinished head burns reason numbered ahead fetched failed =>
    obtain ⟨listed, read, rfl⟩ := AethelredChain.getBurnEvents_eq_ok fetched
    have incomplete : ∀ mints hash, poll.mintTxs = .ok mints → poll.getBlockHash ≠ .ok hash := by
      intro mints hash minted hashed
      rcases failed with failed | failed
      · simp only [AethelredClient.getMintEvents, AethelredChain.client, minted] at failed
        contradiction
      · exact nomatch hashed.symm.trans failed
    have same : (burnIntake.scan (AethelredListener.isFinal host.config.aethelred head)
        watch.storage (aethelred.page listed (watch.aethelredLast + 1) head)).1 = watch.storage := by
      refine Intake.scan_fst_eq fun burn member => ?_
      cases stored : watch.storage.hasBurn burn.burnId with
      | true => exact .inl stored
      | false =>
        refine .inr (decide_eq_false fun deep => ?_)
        obtain ⟨⟨mints, minted⟩, hash, hashed⟩ := (timely head listed numbered ahead read
          burn ((aethelred.page_sublist ..).subset member) (aethelred.within_of_mem_page member)
          stored).mp ⟨member, deep⟩
        exact incomplete mints hash minted hashed
    simp only [same]
    refine ⟨watchful.deposits, unchanged (aethelredRange_none fun _ _ mints hash _ _ _ => ?_)⟩
    exact incomplete mints hash
  | @scanned head burns mints hash numbered ahead fetched minted hashed =>
    obtain ⟨listed, read, rfl⟩ := AethelredChain.getBurnEvents_eq_ok fetched
    obtain ⟨txs, answered, -⟩ := map_eq_ok.mp minted
    have complete : (∃ mints, poll.mintTxs = .ok mints) ∧ ∃ hash, poll.getBlockHash = .ok hash :=
      ⟨⟨txs, answered⟩, hash, hashed⟩
    refine ⟨watchful.deposits.congr fun id => congrFun (hasDeposit_burnScan ..) id, ?_⟩
    simp only [Except.toOption, Option.getD_some, scanned_append, List.append_assoc,
      aethelredRange_eq numbered ahead read answered hashed]
    refine Intake.Intact.congr (watchful.burns.scan burnIntake_lawful aethelred.distinct
      (aethelred.page_sublist ..) ?_ ?_ ?_ ?_) fun _ => rfl
    · intro burn member unstored
      exact decide_eq_true ((timely head listed numbered ahead read burn
        ((aethelred.page_sublist ..).subset member) (aethelred.within_of_mem_page member)
        unstored).mpr complete).2
    · rintro burn member ⟨_, ⟨⟩, inside⟩
      cases stored : watch.storage.hasBurn burn.burnId with
      | true => exact .inr stored
      | false =>
        exact .inl
          ((timely head listed numbered ahead read burn member inside stored).mpr complete).1
    · exact fun burn => count_eq_zero.mpr (by simp [burnIntake])
    · exact fun burn => by simp [burnIntake]

theorem Watchful.step (action : WatchAction) (timely : Timely host eth aethelred watch action) :
    Watchful eth aethelred (watch.step host eth aethelred action) := by
  cases action with
  | pollEthereum poll => exact watchful.pollEthereum poll timely
  | pollAethelred poll => exact watchful.pollAethelred poll timely
  | call call => exact watchful.call call
  | restart => exact ⟨watchful.deposits, watchful.burns⟩

end

end Steps

/-- A burn at height 100, with an id. -/
def burned (id : Hash) : AethelredBurn where
  burnId := id
  burner := 0xbb
  ethRecipient := 0xaa
  tokenType := .WrappedETH
  amount := 1000000000000000000
  nonce := 0
  blockHeight := 100
  blockHash := 0xee
  txHash := 0xef
  timestamp := 1700000000

end Relayer
