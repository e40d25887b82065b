import Coordination.Config.Capabilities
import Coordination.Config.Parse
import Coordination.Config.Render
import Coordination.Cli.Program
import Coordination.Host.Disk
import Coordination.Main
import Coordination.Proofs.Roster
import Coordination.Proofs.Workspace
import Coordination.Proofs.Move
import Coordination.Proofs.Batch
import Coordination.Proofs.JobTable
import Coordination.Proofs.Consistency
import Coordination.Proofs.JobInputs
import Coordination.Proofs.JobLife
import Coordination.Proofs.Observers
import Coordination.Proofs.Stream
import Coordination.Proofs.JobViews
import Coordination.Proofs.Concurrency
import Coordination.Proofs.InPlace
import Coordination.Proofs.Rejections
import Coordination.Proofs.Delivery
import Coordination.Proofs.Cancellation
import Coordination.Proofs.Announcements
import Coordination.Proofs.Transcript
import Coordination.Proofs.Cascade
import Coordination.Proofs.Teardown
import Coordination.Proofs.Identifiers
import Coordination.Proofs.CommandCodec
import Coordination.Proofs.Paths
import Coordination.Proofs.IniValues
import Coordination.Proofs.IniRows
import Coordination.Proofs.SettingsText
import Coordination.Proofs.Reload
import Coordination.Proofs.Preparation
import Coordination.Proofs.Rounding
import Coordination.Proofs.Scripts
import Coordination.Proofs.Texts
import Coordination.Proofs.Regions
import Coordination.Proofs.Addresses
import Coordination.Proofs.RejectionCodes
import Coordination.Proofs.Execution
import Coordination.Proofs.Upserts
import Coordination.Proofs.Retries
import Coordination.Proofs.MessageCodec
import Coordination.Proofs.Echoes
import Coordination.Proofs.Keeping
import Coordination.Proofs.Retractions
import Coordination.Proofs.JobHistory
import Coordination.Proofs.IndexScan
import Coordination.Proofs.RecordCodec
import Coordination.Proofs.SettingsValues
import Coordination.Proofs.Listings
import Coordination.Proofs.StampedTable
