import TunnelConfig.Bytes.Value
import TunnelConfig.Configuration.Json
import TunnelConfig.Driver.Adapter
import TunnelConfig.Driver.Memory
import TunnelConfig.Driver.Script
import TunnelConfig.Files.Folder
import TunnelConfig.Main
import TunnelConfig.Proofs.Bytes
import TunnelConfig.Proofs.Flags
import TunnelConfig.Proofs.Layout
import TunnelConfig.Proofs.Decoding
import TunnelConfig.Proofs.Encoding
import TunnelConfig.Proofs.Canonical
import TunnelConfig.Proofs.Fetching
import TunnelConfig.Proofs.Prefixes
import TunnelConfig.Proofs.Clients
import TunnelConfig.Proofs.Snapshots
import TunnelConfig.Proofs.Tunnels
import TunnelConfig.Proofs.Digits
import TunnelConfig.Proofs.Addresses
import TunnelConfig.Proofs.Endpoints
import TunnelConfig.Proofs.Keys
import TunnelConfig.Proofs.Documents
import TunnelConfig.Proofs.Texts
import TunnelConfig.Proofs.Patches
import TunnelConfig.Proofs.Loading
import TunnelConfig.Proofs.Sessions
import TunnelConfig.Proofs.Building
import TunnelConfig.Proofs.Commands
import TunnelConfig.Proofs.Replacements
import TunnelConfig.Proofs.Isolation
import TunnelConfig.Proofs.Visits
import TunnelConfig.Proofs.Faults
import TunnelConfig.Proofs.Secrets
import TunnelConfig.Proofs.Spellings
import TunnelConfig.Proofs.Requests
import TunnelConfig.Proofs.Networks
import TunnelConfig.Proofs.Origins
import TunnelConfig.Proofs.Arrangements
import TunnelConfig.Proofs.Walks
import TunnelConfig.Proofs.Precedence
import TunnelConfig.Proofs.Fields
import TunnelConfig.Proofs.Offsets
