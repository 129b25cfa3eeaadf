import Aethelred.Contracts.BridgeState

/- The functions of AethelredBridge.sol. A function that fails leaves nothing behind, so each one
returns the chain after it or the reason it reverted for. -/
namespace AethelredBridge

open Evm AccessControl Function Chain

/-- What code outside the bridge does while a function of the bridge has called it. -/
structure Callee where
  succeeds : Bool
  /-- Tokens that arrive when the bridge pulls a deposit. -/
  delivers : Nat
  /-- What the callee, holding control, makes happen on the chain. -/
  reenters : Chain → Chain

section Modifiers

variable (chain : Chain)

def onlyRole (role : Bytes32) (sender : Address) : Except Error Unit :=
  revertIf (chain.bridge.access.hasRole role sender = false)
    (.AccessControlUnauthorizedAccount sender role)

def whenNotPaused : Except Error Unit :=
  revertIf (chain.bridge.paused = true) .EnforcedPause

def notBlocked (addr : Address) : Except Error Unit :=
  revertIf (chain.bridge.blockedAddresses addr = true) .AddressBlocked

def nonReentrant (body : Chain → Except Error Chain) : Except Error Chain := do
  revertIf (chain.bridge.entered = true) .ReentrancyGuardReentrantCall
  let done ← body { chain with bridge.entered := true }
  return { done with bridge.entered := false }

def withinRateLimit (amount : Nat) (isDeposit : Bool) : Except Error Chain :=
  if chain.bridge.rateLimitConfig.enabled then do
    let currentPeriod := chain.block.timestamp / RATE_LIMIT_PERIOD
    let state := chain.bridge.rateLimitState currentPeriod
    if isDeposit then do
      let deposited ← checkedAdd .arithmetic state.totalDeposited amount
      revertIf (chain.bridge.rateLimitConfig.maxDepositPerPeriod < deposited) .RateLimitExceeded
      return { chain with
        bridge.rateLimitState := update chain.bridge.rateLimitState currentPeriod
          { state with totalDeposited := deposited } }
    else do
      let withdrawn ← checkedAdd .arithmetic state.totalWithdrawn amount
      revertIf (chain.bridge.rateLimitConfig.maxWithdrawalPerPeriod < withdrawn) .RateLimitExceeded
      return { chain with
        bridge.rateLimitState := update chain.bridge.rateLimitState currentPeriod
          { state with totalWithdrawn := withdrawn } }
  else .ok chain

end Modifiers

def calculateMinVotesRequired (relayerCount consensusThresholdBps : Nat) : Except Error Nat :=
  if relayerCount = 0 then .ok 0
  else do
    let product ← checkedMul .arithmetic relayerCount consensusThresholdBps
    let raised ← checkedAdd .arithmetic product 9999
    let minVotes := raised / 10000
    let minVotes := if minVotes = 0 then 1 else minVotes
    return if relayerCount < minVotes then relayerCount else minVotes

def changedCount (count : Nat) (increment : Bool) : Except Error Nat :=
  if increment then checkedAdd .arithmetic count 1
  else if 0 < count then checkedSub .arithmetic count 1
  else .ok count

variable (chain : Chain)

def syncRelayerVoteThreshold (increment : Bool) : Except Error Chain := do
  let config := chain.bridge.relayerConfig
  let count ← changedCount config.relayerCount increment
  let minVotes ← calculateMinVotesRequired count config.consensusThresholdBps
  return emit
    { chain with
      bridge.relayerConfig := ⟨count, config.consensusThresholdBps, minVotes⟩ }
    (.RelayerConfigUpdated count config.consensusThresholdBps minVotes)

def accessGrant (role : Bytes32) (account sender : Address) : Chain :=
  if chain.bridge.access.hasRole role account then chain
  else emit { chain with bridge.access := chain.bridge.access.grant role account }
    (.RoleGranted role account sender)

def accessRevoke (role : Bytes32) (account sender : Address) : Chain :=
  if chain.bridge.access.hasRole role account then
    emit { chain with bridge.access := chain.bridge.access.revoke role account }
      (.RoleRevoked role account sender)
  else chain

variable (sender : Address) (role : Bytes32)

def grantRole (account : Address) (chain : Chain) : Except Error Chain := do
  onlyRole chain (chain.bridge.access.getRoleAdmin role) sender
  let alreadyHad := chain.bridge.access.hasRole role account
  let granted := accessGrant chain role account sender
  if role = RELAYER_ROLE ∧ alreadyHad = false then syncRelayerVoteThreshold granted true
  else .ok granted

def revokeRole (account : Address) (chain : Chain) : Except Error Chain := do
  onlyRole chain (chain.bridge.access.getRoleAdmin role) sender
  let hadRole := chain.bridge.access.hasRole role account
  let revoked := accessRevoke chain role account sender
  if role = RELAYER_ROLE ∧ hadRole = true then syncRelayerVoteThreshold revoked false
  else .ok revoked

def renounceRole (callerConfirmation : Address) (chain : Chain) : Except Error Chain := do
  let hadRole := chain.bridge.access.hasRole role callerConfirmation
  revertIf (callerConfirmation ≠ sender) .AccessControlBadConfirmation
  let revoked := accessRevoke chain role callerConfirmation sender
  if role = RELAYER_ROLE ∧ hadRole = true then syncRelayerVoteThreshold revoked false
  else .ok revoked

def updateRelayerConfig (relayerCount consensusThresholdBps : Nat)
    (chain : Chain) : Except Error Chain := do
  onlyRole chain DEFAULT_ADMIN_ROLE sender
  revertIf (relayerCount ≠ chain.bridge.relayerConfig.relayerCount) .RelayerCountMismatch
  let minVotes ← calculateMinVotesRequired relayerCount consensusThresholdBps
  return emit
    { chain with bridge.relayerConfig := ⟨relayerCount, consensusThresholdBps, minVotes⟩ }
    (.RelayerConfigUpdated relayerCount consensusThresholdBps minVotes)

section Initialization

variable (env : Environment)

def requireContractAdmin (admin : Address) : Except Error Unit := do
  revertIf (admin = 0) .InvalidRecipient
  if env.chainid = 31337 ∨ env.chainid = 1337 then .ok ()
  else revertIf (env.codeLength admin = 0) .AdminMustBeContract

def requireUpgraderTimelockDelay (upgraderTimelock : Address) : Except Error Unit :=
  match env.getMinDelay upgraderTimelock with
  | none => .error .externalCall
  | some delay => revertIf (delay < MIN_UPGRADER_TIMELOCK_DELAY) .UpgraderTimelockDelayTooShort

variable (sender : Address) (block : Block) (balance : Address → Nat)

/-- Sets up a proxy's blank storage; `balance` is what was sent to its address before. -/
def initializeBridge (admin upgraderTimelock : Address) (initialRelayers : List Address)
    (consensusThresholdBps : Nat) : Except Error Chain := do
  requireContractAdmin env admin
  requireContractAdmin env upgraderTimelock
  let start : Chain := ⟨block, Storage.blank, balance, [], [], []⟩
  let chain := accessGrant start DEFAULT_ADMIN_ROLE admin sender
  let chain := accessGrant chain GUARDIAN_ROLE admin sender
  let chain : Chain := { chain with
    bridge.access := chain.bridge.access.setRoleAdmin UPGRADER_ROLE UPGRADER_ROLE }
  let chain := accessGrant chain UPGRADER_ROLE upgraderTimelock sender
  let chain := initialRelayers.foldl
    (fun c relayer => accessGrant c RELAYER_ROLE relayer sender) chain
  let minVotes ← calculateMinVotesRequired initialRelayers.length consensusThresholdBps
  return { chain with
    bridge.relayerConfig := ⟨initialRelayers.length, consensusThresholdBps, minVotes⟩
    bridge.rateLimitConfig := ⟨1000 * 10 ^ 18, 1000 * 10 ^ 18, true⟩
    bridge.emergencyWithdrawalDelay := DEFAULT_EMERGENCY_TIMELOCK
    bridge.mintCeilingPerBlock := DEFAULT_MINT_CEILING_PER_BLOCK }

/-- `initialize`, which only local chains take. -/
def legacyInitialize
    (admin : Address) (initialRelayers : List Address) (consensusThresholdBps : Nat) :
    Except Error Chain := do
  revertIf (env.chainid ≠ 31337 ∧ env.chainid ≠ 1337) .ProductionInitializationRequiresTimelock
  initializeBridge env sender block balance admin admin initialRelayers consensusThresholdBps

def initializeWithTimelock (admin upgraderTimelock : Address) (initialRelayers : List Address)
    (consensusThresholdBps : Nat) : Except Error Chain := do
  requireUpgraderTimelockDelay env upgraderTimelock
  initializeBridge env sender block balance admin upgraderTimelock initialRelayers
    consensusThresholdBps

def validateDeposit (aethelredRecipient : Bytes32) (amount : Nat) : Except Error Unit := do
  revertIf (aethelredRecipient = 0) .InvalidRecipient
  revertIf (amount < MIN_DEPOSIT) .InvalidAmount
  revertIf (MAX_SINGLE_DEPOSIT < amount) .InvalidAmount

/-- The words `_generateDepositId` hashes. -/
def depositWords (depositor : Address) (aethelredRecipient : Bytes32) (token : Address)
    (amount nonce : Nat) : List Nat :=
  [depositor.val, aethelredRecipient.val, token.val, amount, nonce, env.chainid]

def lock (chain : Chain) (token : Address) (amount : Nat) : Except Error Chain :=
  if token = 0 then do
    let locked ← checkedAdd .arithmetic chain.bridge.totalLockedETH amount
    return { chain with bridge.totalLockedETH := locked }
  else do
    let locked ← checkedAdd .arithmetic (chain.bridge.totalLockedERC20 token) amount
    return { chain with
      bridge.totalLockedERC20 := update chain.bridge.totalLockedERC20 token locked }

/-- The shared end of the two deposit functions: store the deposit, lock and count it. -/
def recordDeposit (depositor : Address) (aethelredRecipient : Bytes32) (token : Address)
    (amount : Nat) (chain : Chain) : Except Error Chain := do
  let nonce := chain.bridge.depositNonce
  let words := depositWords env depositor aethelredRecipient token amount nonce
  let depositId := env.keccak256 words
  let stored : Chain := { chain with
    hashed := words :: chain.hashed
    bridge.deposits := update chain.bridge.deposits depositId
      ⟨depositor, aethelredRecipient, token, amount, chain.block.number, chain.block.timestamp,
        false, false⟩ }
  let locked ← lock stored token amount
  let next ← checkedAdd .arithmetic nonce 1
  return emit { locked with bridge.depositNonce := next }
    (.DepositInitiated depositId depositor aethelredRecipient token amount nonce
      chain.block.timestamp)

def depositETH (value : Nat) (aethelredRecipient : Bytes32) (chain : Chain) : Except Error Chain :=
  nonReentrant (chain.receiveFunds 0 value) fun chain => do
    whenNotPaused chain
    notBlocked chain sender
    let chain ← withinRateLimit chain value true
    validateDeposit aethelredRecipient value
    recordDeposit env sender aethelredRecipient 0 value chain

/-- A token at address 0 has no code: the first call to it reverts. -/
def depositERC20 (callee : Callee) (sender token : Address) (amount : Nat)
    (aethelredRecipient : Bytes32) (chain : Chain) : Except Error Chain :=
  nonReentrant chain fun chain => do
    whenNotPaused chain
    notBlocked chain sender
    let chain ← withinRateLimit chain amount true
    revertIf (chain.bridge.supportedTokens token = false) .TokenNotSupported
    validateDeposit aethelredRecipient amount
    revertIf (token = 0) .externalCall
    let balanceBefore := chain.balance token
    revertIf (callee.succeeds = false) (.SafeERC20FailedOperation token)
    let chain := (callee.reenters chain).receiveFunds token callee.delivers
    let actualReceived ← checkedSub .arithmetic (chain.balance token) balanceBefore
    recordDeposit env sender aethelredRecipient token actualReceived chain

end Initialization

section Payouts

variable (env : Environment) (callee : Callee)

/-- Unlocks an amount and pays it: the shared end of cancelDeposit, processWithdrawal and
executeEmergencyWithdrawal. The bridge's own `receive` reverts. -/
def payOut (purpose : Purpose) (token recipient : Address) (amount : Nat) (chain : Chain) :
    Except Error Chain :=
  if token = 0 then do
    let locked ← checkedSub .arithmetic chain.bridge.totalLockedETH amount
    revertIf (callee.succeeds = false ∨ recipient = env.self ∨ chain.balance 0 < amount)
      .TransferFailed
    return callee.reenters { chain with
      bridge.totalLockedETH := locked
      balance := update chain.balance 0 (chain.balance 0 - amount)
      payments := ⟨chain.block, purpose, 0, recipient, amount⟩ :: chain.payments }
  else do
    let locked ← checkedSub .arithmetic (chain.bridge.totalLockedERC20 token) amount
    revertIf (callee.succeeds = false ∨ chain.balance token < amount)
      (.SafeERC20FailedOperation token)
    return callee.reenters { chain with
      bridge.totalLockedERC20 := update chain.bridge.totalLockedERC20 token locked
      balance := if recipient = env.self then chain.balance
        else update chain.balance token (chain.balance token - amount)
      payments := ⟨chain.block, purpose, token, recipient, amount⟩ :: chain.payments }

def cancelDeposit (sender : Address) (depositId : Bytes32) (chain : Chain) : Except Error Chain :=
  nonReentrant chain fun chain => do
    let deposit := chain.bridge.deposits depositId
    revertIf (deposit.depositor = 0) .DepositNotFound
    revertIf (deposit.depositor ≠ sender) .InvalidRecipient
    revertIf (deposit.finalized = true) .DepositAlreadyFinalized
    revertIf (deposit.cancelled = true) .DepositAlreadyCancelled
    let windowEnd ← checkedAdd .arithmetic deposit.timestamp DEPOSIT_CANCELLATION_WINDOW
    revertIf (windowEnd < chain.block.timestamp) .DepositCancellationWindowClosed
    let confirmed ← checkedAdd .arithmetic deposit.blockNumber MIN_ETH_CONFIRMATIONS
    revertIf (confirmed ≤ chain.block.number) .DepositCancellationWindowClosed
    let chain : Chain := { chain with
      bridge.deposits := update chain.bridge.deposits depositId
        { deposit with cancelled := true } }
    let paid ←
      payOut env callee (.refund depositId) deposit.token sender deposit.amount chain
    return paid.emit (.DepositCancelled depositId sender deposit.amount)

def enforceMintCeiling (amount : Nat) (chain : Chain) : Except Error Chain :=
  if chain.bridge.mintCeilingPerBlock = 0 then .ok chain
  else do
    let mintedThisBlock :=
      if chain.block.number ≠ chain.bridge.lastMintBlock then 0 else chain.bridge.mintedThisBlock
    let minted ← checkedAdd .arithmetic mintedThisBlock amount
    revertIf (chain.bridge.mintCeilingPerBlock < minted) .MintCeilingExceeded
    return { chain with
      bridge.lastMintBlock := chain.block.number
      bridge.mintedThisBlock := minted }

def processWithdrawal (proposalId : Bytes32) (chain : Chain) : Except Error Chain :=
  nonReentrant chain fun chain => do
    whenNotPaused chain
    let chain ← withinRateLimit chain (chain.bridge.withdrawalProposals proposalId).amount false
    let proposal := chain.bridge.withdrawalProposals proposalId
    revertIf (proposal.createdAt = 0) .WithdrawalNotFound
    revertIf (proposal.processed = true) .WithdrawalAlreadyProcessed
    revertIf (proposal.challenged = true) .WithdrawalAlreadyChallenged
    let effectiveThreshold :=
      if proposal.requiredVotesSnapshot < chain.bridge.relayerConfig.minVotesRequired
      then chain.bridge.relayerConfig.minVotesRequired else proposal.requiredVotesSnapshot
    revertIf (proposal.voteCount < effectiveThreshold) .InsufficientVotes
    revertIf (chain.block.timestamp < proposal.challengeEndTime) .ChallengePeriodNotEnded
    revertIf (chain.bridge.blockedAddresses proposal.recipient = true) .AddressBlocked
    let chain ← enforceMintCeiling proposal.amount chain
    let chain : Chain := { chain with
      bridge.withdrawalProposals := update chain.bridge.withdrawalProposals proposalId
        { proposal with processed := true }
      bridge.processedWithdrawals :=
        update chain.bridge.processedWithdrawals proposal.burnTxHash true }
    let paid ← payOut env callee (.withdrawal proposalId) proposal.token proposal.recipient
      proposal.amount chain
    return paid.emit (.WithdrawalProcessed proposalId proposal.recipient proposal.token
      proposal.amount proposal.burnTxHash)

/-- The reasons `canProcessWithdrawal` gives. -/
def canProcessWithdrawal (chain : Chain) (proposalId : Bytes32) : Bool × String :=
  let proposal := chain.bridge.withdrawalProposals proposalId
  let effectiveThreshold :=
    if proposal.requiredVotesSnapshot < chain.bridge.relayerConfig.minVotesRequired
    then chain.bridge.relayerConfig.minVotesRequired else proposal.requiredVotesSnapshot
  if proposal.createdAt = 0 then (false, "Proposal not found")
  else if proposal.processed then (false, "Already processed")
  else if proposal.challenged then (false, "Challenged")
  else if proposal.voteCount < effectiveThreshold then (false, "Insufficient votes")
  else if chain.block.timestamp < proposal.challengeEndTime then
    (false, "Challenge period not ended")
  else if chain.bridge.blockedAddresses proposal.recipient then (false, "Recipient blocked")
  else (true, "")

def executeEmergencyWithdrawal (sender : Address) (operationId : Bytes32) (chain : Chain) :
    Except Error Chain :=
  nonReentrant chain fun chain => do
    onlyRole chain DEFAULT_ADMIN_ROLE sender
    whenNotPaused chain
    let req := chain.bridge.emergencyWithdrawalRequests operationId
    revertIf (req.queuedAt = 0) .EmergencyWithdrawalNotFound
    revertIf (req.executed = true ∨ req.cancelled = true) .EmergencyWithdrawalAlreadyHandled
    revertIf (chain.block.timestamp < req.executeAfter) .EmergencyWithdrawalNotReady
    revertIf (chain.bridge.guardianApprovalCount operationId < REQUIRED_GUARDIAN_APPROVALS)
      .InsufficientGuardianApprovals
    revertIf (chain.bridge.blockedAddresses req.recipient = true) .AddressBlocked
    let chain : Chain := { chain with
      bridge.emergencyWithdrawalRequests :=
        update chain.bridge.emergencyWithdrawalRequests operationId
          { req with executed := true } }
    let paid ←
      payOut env callee (.emergency operationId) req.token req.recipient req.amount chain
    return paid.emit (.EmergencyWithdrawalExecuted operationId req.token req.recipient req.amount)

end Payouts

variable (sender : Address)

def finalizeDeposit (depositId : Bytes32) (chain : Chain) : Except Error Chain := do
  onlyRole chain RELAYER_ROLE sender
  whenNotPaused chain
  let deposit := chain.bridge.deposits depositId
  revertIf (deposit.depositor = 0) .DepositNotFound
  revertIf (deposit.cancelled = true) .DepositAlreadyCancelled
  revertIf (deposit.finalized = true) .DepositAlreadyFinalized
  let confirmed ← checkedAdd .arithmetic deposit.blockNumber MIN_ETH_CONFIRMATIONS
  revertIf (chain.block.number < confirmed) .InsufficientConfirmations
  return emit
    { chain with
      bridge.deposits := update chain.bridge.deposits depositId
        { deposit with finalized := true } }
    (.DepositFinalized depositId deposit.depositor deposit.amount)

variable (proposalId : Bytes32)

def proposeWithdrawal (recipient token : Address)
    (amount : Nat) (burnTxHash : Bytes32) (aethelredBlockHeight : Nat) (chain : Chain) :
    Except Error Chain := do
  onlyRole chain RELAYER_ROLE sender
  whenNotPaused chain
  notBlocked chain recipient
  revertIf ((chain.bridge.withdrawalProposals proposalId).createdAt ≠ 0) .ProposalExists
  revertIf (chain.bridge.processedWithdrawals burnTxHash = true) .WithdrawalAlreadyProcessed
  revertIf (recipient = 0) .InvalidRecipient
  revertIf (amount = 0) .InvalidAmount
  revertIf (token ≠ 0 ∧ chain.bridge.supportedTokens token = false) .TokenNotSupported
  let requiredVotes := chain.bridge.relayerConfig.minVotesRequired
  let challengeEndTime ← checkedAdd .arithmetic chain.block.timestamp CHALLENGE_PERIOD
  let chain : Chain := { chain with
    bridge.withdrawalProposals := update chain.bridge.withdrawalProposals proposalId
      { recipient := recipient, token := token, amount := amount, burnTxHash := burnTxHash
        aethelredBlockHeight := aethelredBlockHeight, voteCount := 1
        createdAt := chain.block.timestamp, challengeEndTime := challengeEndTime
        processed := false, challenged := false, requiredVotesSnapshot := requiredVotes }
    bridge.withdrawalVotes := update chain.bridge.withdrawalVotes proposalId
      (update (chain.bridge.withdrawalVotes proposalId) sender true) }
  let chain := chain.emit
    (.WithdrawalProposed proposalId recipient token amount burnTxHash sender)
  return chain.emit
    (.WithdrawalVoted proposalId sender 1 chain.bridge.relayerConfig.minVotesRequired)

def voteWithdrawal (chain : Chain) : Except Error Chain := do
  onlyRole chain RELAYER_ROLE sender
  whenNotPaused chain
  let proposal := chain.bridge.withdrawalProposals proposalId
  revertIf (proposal.createdAt = 0) .WithdrawalNotFound
  revertIf (proposal.processed = true) .WithdrawalAlreadyProcessed
  revertIf (proposal.challenged = true) .WithdrawalAlreadyChallenged
  revertIf (chain.bridge.withdrawalVotes proposalId sender = true) .AlreadyVoted
  let voteCount ← checkedAdd .arithmetic proposal.voteCount 1
  return emit
    { chain with
      bridge.withdrawalVotes := update chain.bridge.withdrawalVotes proposalId
        (update (chain.bridge.withdrawalVotes proposalId) sender true)
      bridge.withdrawalProposals := update chain.bridge.withdrawalProposals proposalId
        { proposal with voteCount := voteCount } }
    (.WithdrawalVoted proposalId sender voteCount proposal.requiredVotesSnapshot)

def challengeWithdrawal (reason : String) (chain : Chain) : Except Error Chain := do
  onlyRole chain GUARDIAN_ROLE sender
  let proposal := chain.bridge.withdrawalProposals proposalId
  revertIf (proposal.createdAt = 0) .WithdrawalNotFound
  revertIf (proposal.processed = true) .WithdrawalAlreadyProcessed
  return emit
    { chain with
      bridge.withdrawalProposals := update chain.bridge.withdrawalProposals proposalId
        { proposal with challenged := true } }
    (.WithdrawalChallenged proposalId sender reason)

section Emergency

variable (env : Environment)

/-- The words `queueEmergencyWithdrawal` hashes. -/
def operationWords (token : Address) (amount : Nat) (recipient : Address) (nonce : Nat) :
    List Nat :=
  [token.val, amount, recipient.val, nonce, env.chainid, env.self.val]

def queueEmergencyWithdrawal (sender token : Address) (amount : Nat) (recipient : Address)
    (chain : Chain) : Except Error Chain := do
  onlyRole chain DEFAULT_ADMIN_ROLE sender
  whenNotPaused chain
  revertIf (recipient = 0) .InvalidRecipient
  revertIf (amount = 0) .InvalidAmount
  revertIf (MAX_EMERGENCY_WITHDRAWAL < amount) .EmergencyAmountExceedsMax
  revertIf (chain.bridge.blockedAddresses recipient = true) .AddressBlocked
  let words := operationWords env token amount recipient chain.bridge.emergencyWithdrawalNonce
  let operationId := env.keccak256 words
  let executeAfter ←
    checkedAdd .arithmetic chain.block.timestamp chain.bridge.emergencyWithdrawalDelay
  let nonce ← checkedAdd .arithmetic chain.bridge.emergencyWithdrawalNonce 1
  return emit
    { chain with
      hashed := words :: chain.hashed
      bridge.emergencyWithdrawalRequests :=
        update chain.bridge.emergencyWithdrawalRequests operationId
          ⟨token, amount, recipient, chain.block.timestamp, executeAfter, false, false⟩
      bridge.emergencyWithdrawalNonce := nonce }
    (.EmergencyWithdrawalQueued operationId token recipient amount executeAfter)

def emergencyWithdraw (sender token : Address) (amount : Nat) (recipient : Address)
    (chain : Chain) : Except Error Chain := do
  onlyRole chain DEFAULT_ADMIN_ROLE sender
  queueEmergencyWithdrawal env sender token amount recipient chain

def approveEmergencyWithdrawal (sender : Address) (operationId : Bytes32) (chain : Chain) :
    Except Error Chain := do
  onlyRole chain GUARDIAN_ROLE sender
  let req := chain.bridge.emergencyWithdrawalRequests operationId
  revertIf (req.queuedAt = 0) .EmergencyWithdrawalNotFound
  revertIf (req.executed = true ∨ req.cancelled = true) .EmergencyWithdrawalAlreadyHandled
  revertIf (chain.bridge.guardianApprovals operationId sender = true) .GuardianAlreadyApproved
  let count ← checkedAdd .arithmetic (chain.bridge.guardianApprovalCount operationId) 1
  return emit
    { chain with
      bridge.guardianApprovals := update chain.bridge.guardianApprovals operationId
        (update (chain.bridge.guardianApprovals operationId) sender true)
      bridge.guardianApprovalCount :=
        update chain.bridge.guardianApprovalCount operationId count }
    (.GuardianApprovalSubmitted operationId sender count REQUIRED_GUARDIAN_APPROVALS)

def cancelEmergencyWithdrawal (sender : Address) (operationId : Bytes32) (chain : Chain) :
    Except Error Chain := do
  onlyRole chain DEFAULT_ADMIN_ROLE sender
  let req := chain.bridge.emergencyWithdrawalRequests operationId
  revertIf (req.queuedAt = 0) .EmergencyWithdrawalNotFound
  revertIf (req.executed = true ∨ req.cancelled = true) .EmergencyWithdrawalAlreadyHandled
  return emit
    { chain with
      bridge.emergencyWithdrawalRequests :=
        update chain.bridge.emergencyWithdrawalRequests operationId
          { req with cancelled := true } }
    (.EmergencyWithdrawalCancelled operationId sender)

end Emergency

section Administration

variable (sender : Address)

def setTokenSupport (supported : Bool) (token : Address) (chain : Chain) : Except Error Chain := do
  onlyRole chain DEFAULT_ADMIN_ROLE sender
  return emit
    { chain with
      bridge.supportedTokens := update chain.bridge.supportedTokens token supported }
    (.TokenSupportUpdated token supported)

def addSupportedToken := setTokenSupport sender true

def removeSupportedToken := setTokenSupport sender false

def updateRateLimitConfig (maxDeposit maxWithdrawal : Nat) (enabled : Bool) (chain : Chain) :
    Except Error Chain := do
  onlyRole chain DEFAULT_ADMIN_ROLE sender
  return emit
    { chain with bridge.rateLimitConfig := ⟨maxDeposit, maxWithdrawal, enabled⟩ }
    (.RateLimitConfigUpdated maxDeposit maxWithdrawal enabled)

def clearExpiredRateLimitState (periodKeys : List Nat) (chain : Chain) : Except Error Chain := do
  onlyRole chain DEFAULT_ADMIN_ROLE sender
  revertIf (200 < periodKeys.length) .BatchTooLarge
  revertIf (∃ key ∈ periodKeys, chain.block.timestamp / RATE_LIMIT_PERIOD ≤ key)
    .CannotClearCurrentPeriod
  return { chain with
    bridge.rateLimitState :=
      periodKeys.foldl (fun table key => update table key {}) chain.bridge.rateLimitState }

def setAddressBlocked (addr : Address) (blocked : Bool) (chain : Chain) : Except Error Chain := do
  onlyRole chain GUARDIAN_ROLE sender
  return emit
    { chain with
      bridge.blockedAddresses := update chain.bridge.blockedAddresses addr blocked }
    (.AddressBlockStatusChanged addr blocked)

def setEmergencyWithdrawalDelay (newDelay : Nat) (chain : Chain) : Except Error Chain := do
  onlyRole chain DEFAULT_ADMIN_ROLE sender
  revertIf (newDelay < MIN_EMERGENCY_TIMELOCK ∨ MAX_EMERGENCY_TIMELOCK < newDelay)
    .InvalidEmergencyDelay
  return emit { chain with bridge.emergencyWithdrawalDelay := newDelay }
    (.EmergencyWithdrawalDelayUpdated chain.bridge.emergencyWithdrawalDelay newDelay)

def setMintCeilingPerBlock (newCeiling : Nat) (chain : Chain) : Except Error Chain := do
  onlyRole chain DEFAULT_ADMIN_ROLE sender
  revertIf (newCeiling = 0) .InvalidAmount
  return emit { chain with bridge.mintCeilingPerBlock := newCeiling }
    (.MintCeilingUpdated chain.bridge.mintCeilingPerBlock newCeiling)

def pause (chain : Chain) : Except Error Chain := do
  onlyRole chain GUARDIAN_ROLE sender
  revertIf (chain.bridge.paused = true) .EnforcedPause
  return emit { chain with bridge.paused := true } (.Paused sender)

def unpause (chain : Chain) : Except Error Chain := do
  onlyRole chain GUARDIAN_ROLE sender
  revertIf (chain.bridge.paused = false) .ExpectedPause
  return emit { chain with bridge.paused := false } (.Unpaused sender)

end Administration

end AethelredBridge
