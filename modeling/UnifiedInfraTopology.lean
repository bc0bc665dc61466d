import UnifiedInfraTopology.Lib.Table
import UnifiedInfraTopology.Lib.Program
import UnifiedInfraTopology.Lib.GoTime
import UnifiedInfraTopology.Lib.Json
import UnifiedInfraTopology.Lib.GoString
import UnifiedInfraTopology.Lib.Sha256
import UnifiedInfraTopology.Repository.Cursor
import UnifiedInfraTopology.Repository.Runs
import UnifiedInfraTopology.Repository.Checkpoints
import UnifiedInfraTopology.Repository.Control
import UnifiedInfraTopology.Repository.RunInvariants
import UnifiedInfraTopology.Repository.CheckpointStatements
import UnifiedInfraTopology.Repository.CheckpointInvariants
import UnifiedInfraTopology.Lib.Interleave
import UnifiedInfraTopology.Model.Identity
import UnifiedInfraTopology.Model.Normalization
import UnifiedInfraTopology.Model.Plane
import UnifiedInfraTopology.Model.Relation
import UnifiedInfraTopology.Graph.Store
import UnifiedInfraTopology.Graph.Upsert
import UnifiedInfraTopology.Graph.VertexRace
import UnifiedInfraTopology.Graph.EdgeRace
import UnifiedInfraTopology.Graph.OrphanCleanup
import UnifiedInfraTopology.Graph.CleanupRace
import UnifiedInfraTopology.Lib.Total
import UnifiedInfraTopology.Graph.Built
import UnifiedInfraTopology.Graph.Effects
import UnifiedInfraTopology.Graph.Convergence
import UnifiedInfraTopology.Lib.Contract
import UnifiedInfraTopology.Worker.Environment
import UnifiedInfraTopology.Worker.RunStatus
import UnifiedInfraTopology.Worker.Pages
import UnifiedInfraTopology.Worker.Execute
import UnifiedInfraTopology.Worker.Digest
import UnifiedInfraTopology.Worker.Progress
import UnifiedInfraTopology.Worker.Terminal
import UnifiedInfraTopology.Repository.Idempotency
import UnifiedInfraTopology.Lib.Search
import UnifiedInfraTopology.Adapter.Collector
import UnifiedInfraTopology.Adapter.Device
import UnifiedInfraTopology.Adapter.DevicePages
import UnifiedInfraTopology.Adapter.Entity
import UnifiedInfraTopology.Adapter.Writable
import UnifiedInfraTopology.Adapter.InterfacePass
import UnifiedInfraTopology.Adapter.PortSequence
import UnifiedInfraTopology.Lib.RowLocks
import UnifiedInfraTopology.Repository.Statements
import UnifiedInfraTopology.Repository.ClaimRace
import UnifiedInfraTopology.Uplink.Execute
import UnifiedInfraTopology.Uplink.Terminal
import UnifiedInfraTopology.Lib.History
import UnifiedInfraTopology.Worker.Calls
import UnifiedInfraTopology.Worker.Fencing
import UnifiedInfraTopology.Worker.Landmarks
import UnifiedInfraTopology.Worker.PagePool
import UnifiedInfraTopology.Worker.Writers
import UnifiedInfraTopology.Worker.Owners
import UnifiedInfraTopology.Worker.Collection
import UnifiedInfraTopology.Worker.Publication
import UnifiedInfraTopology.Worker.Success
import UnifiedInfraTopology.Lib.Stepping
import UnifiedInfraTopology.Worker.Unchanging
import UnifiedInfraTopology.Worker.Resume
import UnifiedInfraTopology.Repository.Answers
import UnifiedInfraTopology.Worker.Iterations
import UnifiedInfraTopology.Graph.Preimages
import UnifiedInfraTopology.Migration.Apply
import UnifiedInfraTopology.Migration.Safety
import UnifiedInfraTopology.Migration.Sqlite
import UnifiedInfraTopology.Migration.Atomicity
import UnifiedInfraTopology.Worker.Finishing
import UnifiedInfraTopology.Lib.Fallible
import UnifiedInfraTopology.Lib.Paging
import UnifiedInfraTopology.Lib.Parties
import UnifiedInfraTopology.Lib.Transaction
import UnifiedInfraTopology.Lib.Netip
import UnifiedInfraTopology.Adapter.Uplink
import UnifiedInfraTopology.Adapter.UplinkPorts
import UnifiedInfraTopology.Adapter.UplinkDiagnostics
import UnifiedInfraTopology.Lib.Tracking
import UnifiedInfraTopology.Adapter.UplinkReferences
import UnifiedInfraTopology.Adapter.UplinkDiagnosis
import UnifiedInfraTopology.Uplink.Run
import UnifiedInfraTopology.Uplink.Parity
import UnifiedInfraTopology.Lib.Firsts
import UnifiedInfraTopology.Uplink.Passes
import UnifiedInfraTopology.Uplink.Writes
import UnifiedInfraTopology.Lib.PrefixCode
import UnifiedInfraTopology.Uplink.Digest
import UnifiedInfraTopology.Uplink.Traversal
import UnifiedInfraTopology.Lib.Base64
import UnifiedInfraTopology.Lib.Keyset
import UnifiedInfraTopology.Repository.List
import UnifiedInfraTopology.Service.Inventory
import UnifiedInfraTopology.Service.Listing
import UnifiedInfraTopology.Verify.Values
import UnifiedInfraTopology.Verify.ServerUplink
import UnifiedInfraTopology.Verify.Ownership
import UnifiedInfraTopology.Worker.Leaving
import UnifiedInfraTopology.Worker.Lease
import UnifiedInfraTopology.Lib.Upserting
import UnifiedInfraTopology.Graph.Rows
import UnifiedInfraTopology.Graph.InFlight
import UnifiedInfraTopology.Graph.History
import UnifiedInfraTopology.Lib.Projection
import UnifiedInfraTopology.Worker.Joining
import UnifiedInfraTopology.Worker.System
import UnifiedInfraTopology.Worker.Isolation
import UnifiedInfraTopology.Worker.Convergence
import UnifiedInfraTopology.Worker.Completed
import UnifiedInfraTopology.Verify.Persistence
import UnifiedInfraTopology.Worker.Verified
import UnifiedInfraTopology.Graph.Endpoints
import UnifiedInfraTopology.Uplink.System
import UnifiedInfraTopology.Uplink.Graph
