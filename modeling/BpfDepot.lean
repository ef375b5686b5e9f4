import BpfDepot.Exchange
import BpfDepot.Instant.Text
import BpfDepot.Report
import BpfDepot.Table
import BpfDepot.CommandLine
import BpfDepot.Commands
import BpfDepot.FileTree
import BpfDepot.Main
import BpfDepot.World
import BpfDepot.Proofs.Naming
import BpfDepot.Proofs.Reference.Client
import BpfDepot.Proofs.Package
import BpfDepot.Proofs.PackageStore.Confinement
import BpfDepot.Proofs.PackageStore.Putting
import BpfDepot.Proofs.PackageStore.Reading
import BpfDepot.Proofs.PackageStore.Recovery
import BpfDepot.Proofs.PackageStore.Refinement
import BpfDepot.Proofs.PackageStore.Reopening
import BpfDepot.Proofs.PackageStore.Sharing
import BpfDepot.Proofs.PackageStore.Spelling
import BpfDepot.Proofs.PackageStore.Tidy
import BpfDepot.Proofs.MemoryStore.Onward
import BpfDepot.Proofs.Exchange.Guarded
import BpfDepot.Proofs.Exchange.Interleaving
import BpfDepot.Proofs.Exchange.Pulling
import BpfDepot.Proofs.Command.Encryption
import BpfDepot.Proofs.Command.Remaining
import BpfDepot.Proofs.Report
import BpfDepot.Proofs.Listing
import BpfDepot.Proofs.PackageStore.Listed
import BpfDepot.Proofs.Command.Extracting
import BpfDepot.Proofs.Configuration
