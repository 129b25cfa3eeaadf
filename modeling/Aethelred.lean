import Aethelred.Pouw.Withdrawal
import Aethelred.Pouw.Framing
import Aethelred.App.CacheIndependence
import Aethelred.Contracts.RelayerQuorum
import Aethelred.Relayer.Lifecycle
import Aethelred.Relayer.Refund
import Aethelred.Relayer.Scan
import Aethelred.Pouw.CurveSolvency
import Aethelred.Contracts.CruzibleSolvency
import Aethelred.Vault.StakingShares
import Aethelred.Vault.SnapshotRun
import Aethelred.Vault.RelayRun
import Aethelred.Contracts.CruziblePrice
import Aethelred.Contracts.PledgeVerdicts
import Aethelred.Vm.ComplianceRun
import Aethelred.Vm.TokenomicsRun
import Aethelred.Dag.Transactions
import Aethelred.Insurance.Appeals
import Aethelred.Seal.RevocationRun
import Aethelred.Validator.ActiveSet
import Aethelred.Consensus.Agreement
import Aethelred.Consensus.WorkCredit
import Aethelred.Consensus.Registries
import Aethelred.Consensus.Reputation
import Aethelred.Core.Admission
import Aethelred.Core.WireFormats
import Aethelred.Pouw.FeeExactness
import Aethelred.App.VerificationsRoot
import Aethelred.App.EnhancedExtension
import Aethelred.Pouw.EmissionSpec
import Aethelred.Pouw.JobCompletion
import Aethelred.Pouw.Downtime
import Aethelred.Pouw.DoubleVoting
import Aethelred.Pouw.NextJobs
import Aethelred.Contracts.ChallengerRun
import Aethelred.Contracts.VestingRun
import Aethelred.Vm.SpentAttestations
import Aethelred.Vm.OraclePricing
import Aethelred.Vm.JobExpiry
import Aethelred.Vm.JobCounts
import Aethelred.Vm.StakeFloor
import Aethelred.Vm.JailRun
import Aethelred.Vm.VestingLaws
import Aethelred.Vm.Emissions
import Aethelred.Vm.ProcessFee
import Aethelred.Vm.Bans
import Aethelred.Vm.RewardWindow
import Aethelred.Vm.BatchProofs
import Aethelred.Vault.WithdrawalLimit
import Aethelred.Vault.StakerAddresses
import Aethelred.Vault.CommitReveal
import Aethelred.Vault.RewardProofs
import Aethelred.Vault.RewardShares
