import Aethelred.Contracts.Accounting
import Aethelred.Relayer.Dockets
import Aethelred.Relayer.Listener

/- Both sides of a deposit: the relayer that mints it and the contract that refunds it. -/
namespace Relayer

open Evm Except EventProcessor EthereumListener

variable (host : Host)

section Poll

variable {config : EthereumConfig} {provider : EthProvider} {listener : EthereumListener}

end Poll

section Shallow

open AethelredBridge (Action depositOne)

variable {host : Host}

section

variable {proposer : AethelredAddress}
  (configured : host.config.identity.aethelredAddressBytes = .ok proposer)
  (scans : host.config.ethereum.maxBlocksPerScan ≠ 0)
include configured scans

end

end Shallow

end Relayer
