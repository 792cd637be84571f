import WorkflowNav.Json.Parser
import WorkflowNav.Json.Printer
import WorkflowNav.Main
import WorkflowNav.Sample
import WorkflowNav.Server.Parameters
import WorkflowNav.Server.Wire
import WorkflowNav.Proofs.Disk
import WorkflowNav.Proofs.Crawl
import WorkflowNav.Proofs.Uncached
import WorkflowNav.Proofs.Cache
import WorkflowNav.Proofs.Scan
import WorkflowNav.Proofs.Batching
import WorkflowNav.Proofs.Volume
import WorkflowNav.Proofs.Coherence
import WorkflowNav.Proofs.Delivery
import WorkflowNav.Proofs.Reconfiguration
import WorkflowNav.Proofs.Race
import WorkflowNav.Proofs.Freshness
import WorkflowNav.Proofs.Generation
import WorkflowNav.Proofs.Undisturbed
import WorkflowNav.Proofs.Staleness
import WorkflowNav.Proofs.Straggler
import WorkflowNav.Proofs.Sync
import WorkflowNav.Proofs.Landing
import WorkflowNav.Proofs.Table
import WorkflowNav.Proofs.Documents
import WorkflowNav.Proofs.Entry
import WorkflowNav.Proofs.Multiplicity
import WorkflowNav.Proofs.References
import WorkflowNav.Proofs.Value
import WorkflowNav.Proofs.Quoting
import WorkflowNav.Proofs.Literal
import WorkflowNav.Proofs.Cursor
import WorkflowNav.Proofs.Horizon
import WorkflowNav.Proofs.Naming
import WorkflowNav.Proofs.Splice
import WorkflowNav.Proofs.Column
import WorkflowNav.Proofs.Token
import WorkflowNav.Proofs.Roots
import WorkflowNav.Proofs.Spelling
import WorkflowNav.Proofs.Sweep
import WorkflowNav.Proofs.Confluence
import WorkflowNav.Proofs.Sample.Navigation
import WorkflowNav.Proofs.Faultless
import WorkflowNav.Proofs.Indexed
import WorkflowNav.Proofs.LineEnds
import WorkflowNav.Proofs.Settings
