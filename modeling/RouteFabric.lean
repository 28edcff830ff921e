import RouteFabric.Std.ByteReader
import RouteFabric.Std.OrderedMap
import RouteFabric.Std.Run
import RouteFabric.Std.Resumption
import RouteFabric.Std.Upsert
import RouteFabric.Std.CyclicCode
import RouteFabric.Std.Sorting
import RouteFabric.Std.Numerals
import RouteFabric.Core.Status
import RouteFabric.Core.Hash
import RouteFabric.Core.Checksum
import RouteFabric.Core.Ids
import RouteFabric.Core.RouteKey
import RouteFabric.Core.Decimal
import RouteFabric.Core.Ipv6
import RouteFabric.Core.AddressBits
import RouteFabric.Core.RenderedGroups
import RouteFabric.Core.DestinationText
import RouteFabric.Core.Lifecycle
import RouteFabric.Record.Types
import RouteFabric.Record.Validate
import RouteFabric.Record.Codec
import RouteFabric.Store.State
import RouteFabric.Store.Codec
import RouteFabric.Store.Canonical
import RouteFabric.Store.Files
import RouteFabric.Store.Reload
import RouteFabric.Store.Absorption
import RouteFabric.Store.Tails
import RouteFabric.Store.Damage
import RouteFabric.Store.Digests
import RouteFabric.Wire.Frame
import RouteFabric.Server.SessionLoop
import RouteFabric.Runtime.State
import RouteFabric.Runtime.Coverage
import RouteFabric.Runtime.Snapshots
import RouteFabric.Runtime.SnapshotSets
import RouteFabric.Runtime.Records
import RouteFabric.Runtime.Operations
import RouteFabric.Runtime.Edits
import RouteFabric.Runtime.Machine
import RouteFabric.Runtime.Legal
import RouteFabric.Runtime.Moves
import RouteFabric.Runtime.Updates
import RouteFabric.Runtime.Recovery
import RouteFabric.Runtime.Runs
import RouteFabric.Runtime.Calls
import RouteFabric.Safety.Validity
import RouteFabric.Safety.Diagnostics
import RouteFabric.Safety.Storage
import RouteFabric.Safety.KeyIndex
import RouteFabric.Safety.Isolation
import RouteFabric.Safety.Attempts
import RouteFabric.Safety.Transitions
import RouteFabric.Safety.Generations
import RouteFabric.Safety.Expectations
import RouteFabric.Safety.Completions
import RouteFabric.Safety.Written
import RouteFabric.Safety.Currentness
import RouteFabric.Safety.Readable
import RouteFabric.Safety.Durability
import RouteFabric.Safety.Warrants
import RouteFabric.Safety.Committed
import RouteFabric.Safety.Revocation
import RouteFabric.Safety.InFlight
import RouteFabric.Runtime.Threads
import RouteFabric.Safety.Dispatches
import RouteFabric.Safety.Deliveries
import RouteFabric.Safety.Observations
import RouteFabric.Safety.Fencing
import RouteFabric.Safety.Failures
import RouteFabric.Safety.Indexes
import RouteFabric.Safety.Capacity
import RouteFabric.Safety.Reopening
import RouteFabric.Safety.Retries
import RouteFabric.Safety.Publications
import RouteFabric.Safety.Invalidations
import RouteFabric.Wire.Counters
import RouteFabric.Wire.Messages
import RouteFabric.Runtime.Explanations
import RouteFabric.Server.Handle
import RouteFabric.Server.Sessions
import RouteFabric.Runtime.Refusals
import RouteFabric.Safety.Grants
import RouteFabric.Wire.Acceptance
import RouteFabric.Server.Simulation
import RouteFabric.Server.Tasks
import RouteFabric.Server.Coordinator
import RouteFabric.Server.Registrations
import RouteFabric.Server.Decisions
import RouteFabric.Server.Replies
import RouteFabric.Client.Calls
import RouteFabric.Client.Link
import RouteFabric.Client.Changes
import RouteFabric.Client.Queries
import RouteFabric.Client.Explanations
import RouteFabric.Client.Lifetime
