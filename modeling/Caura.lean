import Caura.Memory.Isolation
import Caura.Contradiction.Records
import Caura.Contradiction.Contested
import Caura.Contradiction.Demotion
import Caura.Contradiction.Supersession
import Caura.Contradiction.Mirror
import Caura.Contradiction.Statuses
import Caura.Audit.Tamper
import Caura.Audit.Walk
import Caura.Hold.Quarantine
import Caura.Hold.Interleaving
import Caura.Idempotency.Replay
import Caura.Idempotency.Release
import Caura.Crystallizer.Selection
import Caura.Crystallizer.Recall
import Caura.Crystallizer.Trust
import Caura.EntityGraph.Coalescence
import Caura.EntityGraph.Residue
import Caura.Search.SuccessorOrder
import Caura.Bulk.Reports
import Caura.Skills.SupportPaths
import Caura.Skills.Ownership
import Caura.Skills.Activation
import Caura.Skills.Folders
import Caura.Skills.Acknowledged
import Caura.Correction.Forward
import Caura.Settings.Cache
import Caura.Settings.Laws
import Caura.Lifecycle.Delivery
import Caura.Metadata.Supplied
import Caura.Agents.Trust
import Caura.Fleet.Commands
import Caura.Ingest.Chunks
import Caura.Audit.Queue
import Caura.Usage.Conservation
import Caura.Tenant.Suppression
import Caura.Interview.Windows
import Caura.Forge.Budgets
