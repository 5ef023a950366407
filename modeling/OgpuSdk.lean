import OgpuSdk.Lib.Prog
import OgpuSdk.Lib.Loop
import OgpuSdk.Lib.Invariant
import OgpuSdk.Lib.Machine
import OgpuSdk.Lib.Text
import OgpuSdk.Lib.Slice
import OgpuSdk.Lib.Words
import OgpuSdk.Lib.Template
import OgpuSdk.Lib.Flags
import OgpuSdk.Lib.Timeline
import OgpuSdk.Lib.Loggers
import OgpuSdk.Lib.Throws
import OgpuSdk.Types.Base
import OgpuSdk.Types.Spelling
import OgpuSdk.Types.Errors
import OgpuSdk.Types.Receipt
import OgpuSdk.Chain.Config
import OgpuSdk.Chain.Nonce
import OgpuSdk.Chain.Reservations
import OgpuSdk.Chain.Exclusive
import OgpuSdk.Events.Types
import OgpuSdk.Events.Watchers
import OgpuSdk.Events.Filters
import OgpuSdk.World
import OgpuSdk.Types.Environments
import OgpuSdk.Types.Metadata
import OgpuSdk.Chain.Isolation
import OgpuSdk.Chain.LockOrder
import OgpuSdk.Chain.ClearAll
import OgpuSdk.Trace
import OgpuSdk.Protocol.Revert
import OgpuSdk.Protocol.RevertReasons
import OgpuSdk.Protocol.Executor
import OgpuSdk.Protocol.Attempt
import OgpuSdk.Protocol.Hashes
import OgpuSdk.Protocol.Runs
import OgpuSdk.Protocol.NonceOrder
import OgpuSdk.Protocol.Threads
import OgpuSdk.Protocol.Pace
import OgpuSdk.Protocol.TypedErrors
import OgpuSdk.Protocol.PostBroadcast
import OgpuSdk.Protocol.OnePublish
import OgpuSdk.Protocol.Conservation
import OgpuSdk.Protocol.Verdict
import OgpuSdk.Ipfs.Publish
import OgpuSdk.Ipfs.Runs
import OgpuSdk.Ipfs.Retry
import OgpuSdk.Ipfs.Pace
import OgpuSdk.Ipfs.Fetch
import OgpuSdk.Ipfs.Replies
import OgpuSdk.Protocol.Contract
import OgpuSdk.Chain.FixNonce
import OgpuSdk.Chain.NonceTools
import OgpuSdk.Chain.Repair
import OgpuSdk.Protocol.Coherence
import OgpuSdk.Protocol.Pagination
import OgpuSdk.Protocol.Alignment
import OgpuSdk.Client.PublishTask
import OgpuSdk.Client.Runs
import OgpuSdk.Client.Deadline
import OgpuSdk.Client.Expiry
import OgpuSdk.Client.Budget
import OgpuSdk.Client.Replies
import OgpuSdk.Protocol.Load
import OgpuSdk.Protocol.Writes
import OgpuSdk.Protocol.WriteRuns
import OgpuSdk.Protocol.WriteErrors
import OgpuSdk.Protocol.Abi
import OgpuSdk.Client.PublishSource
import OgpuSdk.Protocol.Reads
import OgpuSdk.Protocol.Snapshots
import OgpuSdk.Protocol.ReadAbi
import OgpuSdk.Protocol.Served
import OgpuSdk.Protocol.Confirmation
import OgpuSdk.Client.ReadBack
import OgpuSdk.Client.Session
import OgpuSdk.Client.SessionNonces
import OgpuSdk.Client.SessionRepairs
import OgpuSdk.Client.Fallback
import OgpuSdk.Logging.SetVerbose
import OgpuSdk.Logging.Records
import OgpuSdk.Logging.Episode
import OgpuSdk.Events.Startup
import OgpuSdk.Service.Handlers
import OgpuSdk.Service.Routes
import OgpuSdk.Service.Endpoint
import OgpuSdk.Service.Outcomes
