import NetboxOpenbao.Effect.Prog
import NetboxOpenbao.Effect.Runs
import NetboxOpenbao.Effect.Versioned
import NetboxOpenbao.Models
import NetboxOpenbao.Errors
import NetboxOpenbao.Registry
import NetboxOpenbao.Backends
import NetboxOpenbao.World
import NetboxOpenbao.Transactions
import NetboxOpenbao.Services.Access
import NetboxOpenbao.Synchronization
import NetboxOpenbao.Services.Material
import NetboxOpenbao.Automation
import NetboxOpenbao.Proof.Quiet
import NetboxOpenbao.Proof.Reads
import NetboxOpenbao.Proof.Store
import NetboxOpenbao.Blocks
import NetboxOpenbao.Proof.Calls
import NetboxOpenbao.Proof.Books
import NetboxOpenbao.Proof.Owner
import NetboxOpenbao.Proof.Recovery
import NetboxOpenbao.Proof.Compensation
import NetboxOpenbao.Proof.Rows
import NetboxOpenbao.Proof.Transitions
import NetboxOpenbao.Proof.Bodies
import NetboxOpenbao.Proof.Steps
import NetboxOpenbao.Proof.Versions
import NetboxOpenbao.Proof.KeyIdentity
import NetboxOpenbao.Proof.Lifecycle
import NetboxOpenbao.Proof.Columns
import NetboxOpenbao.Proof.Counters
import NetboxOpenbao.Proof.Reveal
import NetboxOpenbao.Jobs
import NetboxOpenbao.Proof.Jobs
import NetboxOpenbao.Proof.Updates
import NetboxOpenbao.Proof.Tiers
import NetboxOpenbao.Effect.Locks
import NetboxOpenbao.Projection
import NetboxOpenbao.Proof.Projection
import NetboxOpenbao.Deletion
import NetboxOpenbao.Proof.Deletion
import NetboxOpenbao.Effect.Dialogue
import NetboxOpenbao.Resolution
import NetboxOpenbao.Resolutions
import NetboxOpenbao.Proof.Resolution
import NetboxOpenbao.Proof.Resolutions
import NetboxOpenbao.Requests
import NetboxOpenbao.Proof.Gate
import NetboxOpenbao.Proof.Requests
import NetboxOpenbao.Proof.ReadPaths
import NetboxOpenbao.Proof.Alone
import NetboxOpenbao.Proof.Served
import NetboxOpenbao.Proof.Unversioned
import NetboxOpenbao.ApiTransactions
import NetboxOpenbao.Proof.ApiTransactions
import NetboxOpenbao.Administration.Cluster
import NetboxOpenbao.Administration.Access
import NetboxOpenbao.Administration.Transport
import NetboxOpenbao.Administration.Backends
import NetboxOpenbao.Proof.Administration.Transport
import NetboxOpenbao.Proof.Administration.Mutations
import NetboxOpenbao.Administration.Capabilities
import NetboxOpenbao.Administration.JourneyRegistry
import NetboxOpenbao.Administration.EngineViews
import NetboxOpenbao.Proof.Administration.Explorer
import NetboxOpenbao.AuthMaterial
import NetboxOpenbao.Proof.AuthMaterial
import NetboxOpenbao.Administration.ClusterViews
import NetboxOpenbao.Effect.Ahead
import NetboxOpenbao.Administration.RaftSystem
import NetboxOpenbao.Proof.Administration.Raft
import NetboxOpenbao.Administration.Dumps
import NetboxOpenbao.Administration.Fields
import NetboxOpenbao.Proof.Administration.Dumps
import NetboxOpenbao.Administration.AccessResources
import NetboxOpenbao.Reencryption
import NetboxOpenbao.Proof.Reencryption
import NetboxOpenbao.Configuration
import NetboxOpenbao.Proof.Configuration
import NetboxOpenbao.ApplicationServices
import NetboxOpenbao.Effect.Fallible
import NetboxOpenbao.Proof.ApplicationServices
import NetboxOpenbao.Importers.Import
import NetboxOpenbao.Proof.Importers.Copies
import NetboxOpenbao.Proof.Importers.Engines
import NetboxOpenbao.Proof.Importers.Isolation
import NetboxOpenbao.Effect.Claims
import NetboxOpenbao.Importers.Runs
import NetboxOpenbao.Proof.Importers.Runs
import NetboxOpenbao.Proof.Importers.Sequential
import NetboxOpenbao.Importers.Bindings
import NetboxOpenbao.Proof.Importers.Bindings
import NetboxOpenbao.AuthSessions
import NetboxOpenbao.Proof.AuthSessions
import NetboxOpenbao.Administration.Schema
import NetboxOpenbao.Coding.Holes
import NetboxOpenbao.Proof.Administration.Compilation
import NetboxOpenbao.Proof.Administration.Schema
import NetboxOpenbao.Proof.Administration.Journeys
import NetboxOpenbao.Proof.Administration.FixedQueries
import NetboxOpenbao.Proof.Administration.Risks
import NetboxOpenbao.Administration.Snapshots
import NetboxOpenbao.Proof.Administration.Snapshots
import NetboxOpenbao.Administration.Leases
import NetboxOpenbao.Effect.Search
import NetboxOpenbao.Proof.Administration.Leases
import NetboxOpenbao.Administration.AuthenticationResults
import NetboxOpenbao.Proof.Administration.Material
import NetboxOpenbao.Administration.BoundedJson
import NetboxOpenbao.Effect.Worklist
import NetboxOpenbao.Proof.Administration.Values
import NetboxOpenbao.Proof.Administration.BoundedJson
import NetboxOpenbao.Proof.Administration.Discovery
import NetboxOpenbao.Proof.Administration.Prefixes
import NetboxOpenbao.Proof.Administration.OperationKeys
import NetboxOpenbao.Effect.Gather
import NetboxOpenbao.Proof.Administration.Reordering
import NetboxOpenbao.Proof.Administration.Ties
import NetboxOpenbao.Administration.Downloads
import NetboxOpenbao.Proof.Administration.Downloads
import NetboxOpenbao.Effect.Fresh
import NetboxOpenbao.ImportSources
import NetboxOpenbao.Proof.ImportSources
import NetboxOpenbao.Proof.Importers.Inference
import NetboxOpenbao.CustomMetadata
import NetboxOpenbao.Proof.Bundles
import NetboxOpenbao.Proof.CustomMetadata
import NetboxOpenbao.Proof.EndpointOrders
import NetboxOpenbao.Proof.QuickAdd
import NetboxOpenbao.Administration.AuthenticationViews
import NetboxOpenbao.Administration.Finalization
import NetboxOpenbao.Administration.ReviewedViews
import NetboxOpenbao.Effect.Interleaving
import NetboxOpenbao.Effect.Work
import NetboxOpenbao.Proof.Administration.AccessViews
import NetboxOpenbao.Proof.Administration.AuthenticationViews
import NetboxOpenbao.Proof.Administration.OidcProtocol
import NetboxOpenbao.Proof.SettingsPrefix
import NetboxOpenbao.Effect.Refinement
import NetboxOpenbao.Proof.Administration.EngineViews
import NetboxOpenbao.Proof.Refinement
import NetboxOpenbao.Administration.LifecycleViews
import NetboxOpenbao.Proof.Administration.LifecycleViews
import NetboxOpenbao.Proof.Administration.SnapshotBodies
