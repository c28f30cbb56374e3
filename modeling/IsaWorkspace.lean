import IsaWorkspace.Foundations.Chunks
import IsaWorkspace.Foundations.Exec
import IsaWorkspace.Foundations.HashChain
import IsaWorkspace.Foundations.HashMap
import IsaWorkspace.Foundations.Hex
import IsaWorkspace.Foundations.InflowBound
import IsaWorkspace.Foundations.Interleaving
import IsaWorkspace.Foundations.InvertedIndex
import IsaWorkspace.Foundations.KeyedList
import IsaWorkspace.Foundations.Loops
import IsaWorkspace.Foundations.MaxBy
import IsaWorkspace.Foundations.PrefixCode
import IsaWorkspace.Foundations.Reachability
import IsaWorkspace.Foundations.LinkForest
import IsaWorkspace.Foundations.Paging
import IsaWorkspace.Foundations.Runs
import IsaWorkspace.Foundations.SecondaryIndex
import IsaWorkspace.Foundations.SinglePrecision
import IsaWorkspace.Externals
import IsaWorkspace.Model
import IsaWorkspace.Memory.Page
import IsaWorkspace.Memory.Snapshot
import IsaWorkspace.Memory.Equations
import IsaWorkspace.Foundations.RunLength
import IsaWorkspace.Memory.Temperature
import IsaWorkspace.Memory.Fidelity
import IsaWorkspace.Memory.Reached
import IsaWorkspace.Memory.Manifest
import IsaWorkspace.Memory.LostPages
import IsaWorkspace.Memory.Prefetch
import IsaWorkspace.Memory.Deduplication
import IsaWorkspace.StateStore.Backend
import IsaWorkspace.StateStore.Operations
import IsaWorkspace.StateStore.Equations
import IsaWorkspace.StateStore.Steps
import IsaWorkspace.StateStore.ReadYourWrites
import IsaWorkspace.StateStore.ContentAddressing
import IsaWorkspace.StateStore.CacheBudget
import IsaWorkspace.StateStore.IndexEffects
import IsaWorkspace.StateStore.RefCounts
import IsaWorkspace.StateStore.GarbageCollection
import IsaWorkspace.StateStore.DeleteAtomicity
import IsaWorkspace.StateStore.Interleaving
import IsaWorkspace.StateStore.Coherence
import IsaWorkspace.StateStore.Orphans
import IsaWorkspace.StateDiff.Delta
import IsaWorkspace.StateDiff.RoundTrip
import IsaWorkspace.StateDiff.Merge
import IsaWorkspace.StateDiff.Patching
import IsaWorkspace.StateDiff.CoarseDiff
import IsaWorkspace.PageFault.Handler
import IsaWorkspace.PageFault.FaultRanges
import IsaWorkspace.Monitoring.Histograms
import IsaWorkspace.Streaming.CaptureLoop
import IsaWorkspace.Memory.PageOffsets
import IsaWorkspace.Audit.Logger
import IsaWorkspace.Audit.Equations
import IsaWorkspace.Audit.Integrity
import IsaWorkspace.Audit.Tampering
import IsaWorkspace.Audit.Concurrency
import IsaWorkspace.Audit.Conservation
import IsaWorkspace.Audit.Sessions
import IsaWorkspace.Auth.Manager
import IsaWorkspace.Auth.Operations
import IsaWorkspace.Auth.Revocation
import IsaWorkspace.Auth.TokenRights
import IsaWorkspace.Auth.Concurrency
import IsaWorkspace.Auth.TokenCap
import IsaWorkspace.Auth.TokenLimit
import IsaWorkspace.Sharing.Sharer
import IsaWorkspace.Sharing.Operations
import IsaWorkspace.Sharing.Permissions
import IsaWorkspace.Sharing.GrantCleanup
import IsaWorkspace.Sharing.Membership
import IsaWorkspace.Sharing.Sessions
import IsaWorkspace.Versioning.Control
import IsaWorkspace.Versioning.Operations
import IsaWorkspace.Versioning.Lineage
import IsaWorkspace.Versioning.Branches
import IsaWorkspace.Versioning.Termination
import IsaWorkspace.Versioning.Descendants
import IsaWorkspace.Versioning.CommonAncestors
import IsaWorkspace.Search.Index
import IsaWorkspace.Search.Views
import IsaWorkspace.Search.Exactness
import IsaWorkspace.Search.Concurrency
import IsaWorkspace.Search.Pagination
import IsaWorkspace.Search.Pages
import IsaWorkspace.Batch.Manager
import IsaWorkspace.Batch.Cancellation
import IsaWorkspace.Batch.Counting
import IsaWorkspace.Batch.Accounting
import IsaWorkspace.Batch.Deletion
import IsaWorkspace.Cloning.Cloner
import IsaWorkspace.Cloning.Limit
import IsaWorkspace.Cloning.Pages
import IsaWorkspace.Cloning.CopyOnWrite
import IsaWorkspace.Cloning.PageKeys
import IsaWorkspace.Cloning.FailedClones
import IsaWorkspace.Deterministic.Logger
import IsaWorkspace.Deterministic.Ordering
import IsaWorkspace.Deterministic.Numbering
import IsaWorkspace.Deterministic.Replay
import IsaWorkspace.Deterministic.Fidelity
import IsaWorkspace.Deterministic.Lockstep
import IsaWorkspace.Qssp.Messages
import IsaWorkspace.Qssp.HeaderCodec
import IsaWorkspace.Qssp.LengthField
import IsaWorkspace.Qssp.Transfer
import IsaWorkspace.Qssp.Delivery
import IsaWorkspace.Qssp.Framing
import IsaWorkspace.Qssp.PageIntegrity
import IsaWorkspace.Qssp.Addressing
import IsaWorkspace.Qssp.Sessions
import IsaWorkspace.Qssp.Migration
import IsaWorkspace.RateLimit.Limiter
import IsaWorkspace.RateLimit.SlidingWindow
import IsaWorkspace.RateLimit.Endpoints
import IsaWorkspace.RateLimit.ExactBucket
import IsaWorkspace.RateLimit.RetryTime
import IsaWorkspace.RateLimit.ExactLimiter
import IsaWorkspace.RateLimit.BucketCleanup
import IsaWorkspace.RateLimit.Addresses
import IsaWorkspace.Orchestration.Nodes
import IsaWorkspace.Orchestration.Regions
import IsaWorkspace.Orchestration.Health
import IsaWorkspace.Foundations.RwLock
import IsaWorkspace.Orchestration.Sweep
import IsaWorkspace.Orchestration.Selection
import IsaWorkspace.Orchestration.Placement
import IsaWorkspace.Orchestration.Draining
import IsaWorkspace.Firecracker.Api
import IsaWorkspace.Firecracker.Handle
import IsaWorkspace.Firecracker.Snapshots
import IsaWorkspace.Firecracker.Lifecycle
import IsaWorkspace.StateStore.Frames
import IsaWorkspace.StateStore.Sweeping
import IsaWorkspace.StateStore.S3Backend
import IsaWorkspace.StateStore.S3Failures
import IsaWorkspace.Api.Handlers
import IsaWorkspace.Api.Ttl
import IsaWorkspace.Api.Fork
import IsaWorkspace.Archive.StateArchive
import IsaWorkspace.Archive.Checksum
import IsaWorkspace.Foundations.Numerals
import IsaWorkspace.Foundations.Text
import IsaWorkspace.Foundations.SocketAddr
import IsaWorkspace.Foundations.AddrReading
import IsaWorkspace.Foundations.Alignment
import IsaWorkspace.Foundations.SocketAddrText
import IsaWorkspace.Proxy.Connections
import IsaWorkspace.Proxy.SocketIds
import IsaWorkspace.Proxy.AddressMaps
import IsaWorkspace.Proxy.Resume
import IsaWorkspace.Proxy.Forwarding
import IsaWorkspace.Proxy.Targets
import IsaWorkspace.Proxy.Transparency
import IsaWorkspace.Proxy.Interception
import IsaWorkspace.Webhook.Manager
import IsaWorkspace.Webhook.Delivery
import IsaWorkspace.Tracing.Ptrace
import IsaWorkspace.Tracing.SyscallTracer
import IsaWorkspace.Tracing.SyscallInterceptor
import IsaWorkspace.Tracing.Agreement
import IsaWorkspace.Foundations.Newest
import IsaWorkspace.Tracing.NewestEvents
import IsaWorkspace.Kvm.SegmentRegisters
import IsaWorkspace.Kvm.RoundTrip
import IsaWorkspace.Rtp.Packet
import IsaWorkspace.Rtp.Codec
import IsaWorkspace.Rtp.Parsing
import IsaWorkspace.Rtp.Packetizer
import IsaWorkspace.Rtp.Packetization
import IsaWorkspace.Rtp.Session
import IsaWorkspace.Rtp.Continuity
import IsaWorkspace.Rtp.MediaClock
import IsaWorkspace.Rtp.FrameGroups
import IsaWorkspace.Rtp.Reassembly
import IsaWorkspace.Webrtc.IceCandidate
import IsaWorkspace.Webrtc.SdpRoundTrip
import IsaWorkspace.Validation.Validators
import IsaWorkspace.Validation.Ttl
import IsaWorkspace.Validation.TtlProducts
import IsaWorkspace.Validation.FilePath
import IsaWorkspace.Foundations.PathWalk
import IsaWorkspace.Encryption.KeyManager
import IsaWorkspace.Encryption.Rotation
import IsaWorkspace.Encryption.KeyStorage
import IsaWorkspace.StateStore.KeyPaths
import IsaWorkspace.Sharing.Links
import IsaWorkspace.Sharing.LinkAccess
import IsaWorkspace.Monitoring.Registry
import IsaWorkspace.Firecracker.VmProcesses
import IsaWorkspace.Firecracker.Orphans
import IsaWorkspace.Api.Service
import IsaWorkspace.Api.Catalogue
import IsaWorkspace.Api.Requests
import IsaWorkspace.Api.Accounts
import IsaWorkspace.Api.Machines
