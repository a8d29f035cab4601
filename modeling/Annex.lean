import Annex.Channels.ChannelMap
import Annex.Channels.ContentRuns
import Annex.Channels.DeletedContent
import Annex.Channels.Deletion
import Annex.Channels.EditHistory
import Annex.Channels.Integrity
import Annex.Channels.MessageWrites
import Annex.Channels.Store
import Annex.Channels.StoreCorrectness
import Annex.Channels.Tombstone
import Annex.Channels.Types
import Annex.Channels.UpdateStatement
import Annex.Client.AnnexWebSocket
import Annex.Client.ChannelsStore
import Annex.Client.DeviceLink
import Annex.Client.HonestProof
import Annex.Client.InertSockets
import Annex.Client.Invite
import Annex.Client.KeyRecovery
import Annex.Client.LiveSockets
import Annex.Client.MessageList
import Annex.Client.ProofJobs
import Annex.Client.Registration
import Annex.Client.Resumption
import Annex.Client.ServerSwitching
import Annex.Client.ServersStore
import Annex.Client.Shamir
import Annex.Db.Migrations
import Annex.Db.Schema
import Annex.Desktop.Startup
import Annex.Environment
import Annex.Federation.Handshake
import Annex.Federation.Types
import Annex.Foundation.AtMostOnce
import Annex.Foundation.Base64
import Annex.Foundation.BreadthFirst
import Annex.Foundation.BroadcastChannel
import Annex.Foundation.CachingProxy
import Annex.Foundation.Collect
import Annex.Foundation.CompleteTree
import Annex.Foundation.Cosine
import Annex.Foundation.Delimited
import Annex.Foundation.Execution
import Annex.Foundation.FileSystem
import Annex.Foundation.GaloisByte
import Annex.Foundation.Hex
import Annex.Foundation.Interleaving
import Annex.Foundation.Json
import Annex.Foundation.JsonText
import Annex.Foundation.OffsetPaging
import Annex.Foundation.Paging
import Annex.Foundation.PercentEncoding
import Annex.Foundation.RelyGuarantee
import Annex.Foundation.Routine
import Annex.Foundation.Scalar
import Annex.Foundation.SecretSharing
import Annex.Foundation.Segments
import Annex.Foundation.SelfDelimiting
import Annex.Foundation.SetMap
import Annex.Foundation.SingleWriter
import Annex.Foundation.Slice
import Annex.Foundation.Sql
import Annex.Foundation.SqlAnswer
import Annex.Foundation.SqlCount
import Annex.Foundation.SqlCoupled
import Annex.Foundation.SqlFrame
import Annex.Foundation.SqlJournal
import Annex.Foundation.SqlRollback
import Annex.Foundation.Table
import Annex.Foundation.Task
import Annex.Foundation.Throwing
import Annex.Foundation.TimePaging
import Annex.Foundation.TimedWindow
import Annex.Foundation.Utf8
import Annex.Foundation.WebUrl
import Annex.Graph.Node
import Annex.Graph.PathSearch
import Annex.Graph.Visibility
import Annex.Identity.Merkle
import Annex.Identity.NewCommitment
import Annex.Identity.PathLookup
import Annex.Identity.Platform
import Annex.Identity.Proof
import Annex.Identity.Pseudonym
import Annex.Identity.Registry
import Annex.Identity.RegistryCorrectness
import Annex.Identity.Types
import Annex.Network
import Annex.Observe.Event
import Annex.Observe.EventLog
import Annex.Observe.EventQuery
import Annex.Rtx.Delivery
import Annex.Rtx.Store
import Annex.Rtx.TransferLog
import Annex.Rtx.Validation
import Annex.Server.ActiveAgreements
import Annex.Server.AgentEdges
import Annex.Server.AgentHandshake
import Annex.Server.AgentProfiles
import Annex.Server.AgentReevaluation
import Annex.Server.AgentRegistrations
import Annex.Server.AgentStanding
import Annex.Server.AgentVoice
import Annex.Server.AgentVoiceRooms
import Annex.Server.AntiSybil
import Annex.Server.Broadcast
import Annex.Server.ChannelMembership
import Annex.Server.Channels
import Annex.Server.CleanUps
import Annex.Server.Coexistence
import Annex.Server.CommitmentLookup
import Annex.Server.Config
import Annex.Server.ConnectionSteps
import Annex.Server.Connections
import Annex.Server.CutOff
import Annex.Server.EventHandlers
import Annex.Server.EventPages
import Annex.Server.EventRecords
import Annex.Server.EventStream
import Annex.Server.EventTransactions
import Annex.Server.FederatedJoin
import Annex.Server.Federation
import Annex.Server.FederationCorrectness
import Annex.Server.FederationGate
import Annex.Server.FederationLifecycle
import Annex.Server.Governance
import Annex.Server.GraphProfile
import Annex.Server.HistoryPaging
import Annex.Server.IdentityFetch
import Annex.Server.IpAddr
import Annex.Server.Join
import Annex.Server.JpegStripping
import Annex.Server.LinkPreview
import Annex.Server.LinkPreviewSafety
import Annex.Server.MessageReceipt
import Annex.Server.MessageRelay
import Annex.Server.MessageReplay
import Annex.Server.MetadataStripping
import Annex.Server.Middleware
import Annex.Server.ModeratorRights
import Annex.Server.NewIdentity
import Annex.Server.PngStripping
import Annex.Server.Policy
import Annex.Server.PolicyConvergence
import Annex.Server.PolicyCorrectness
import Annex.Server.PolicyUpdate
import Annex.Server.PresenceAudit
import Annex.Server.PresenceLog
import Annex.Server.PreviewCache
import Annex.Server.ProofBinding
import Annex.Server.RateBursts
import Annex.Server.RateEviction
import Annex.Server.RateLimiter
import Annex.Server.ReadConfidentiality
import Annex.Server.RelayAgreement
import Annex.Server.ReplacedSockets
import Annex.Server.Restarts
import Annex.Server.Retention
import Annex.Server.Rtx
import Annex.Server.RtxAtMostOnce
import Annex.Server.RtxBinding
import Annex.Server.RtxExchange
import Annex.Server.RtxFidelity
import Annex.Server.RtxPublication
import Annex.Server.RtxRequests
import Annex.Server.RtxRetry
import Annex.Server.RtxScope
import Annex.Server.SessionRouter
import Annex.Server.SessionRouting
import Annex.Server.SigningPayloads
import Annex.Server.SocketTasks
import Annex.Server.SseStreams
import Annex.Server.Staleness
import Annex.Server.Startup
import Annex.Server.State
import Annex.Server.StreamAgreement
import Annex.Server.StrippingStability
import Annex.Server.SubscriptionInverse
import Annex.Server.Tenants
import Annex.Server.TransferLog
import Annex.Server.Uploads
import Annex.Server.UsernameGrants
import Annex.Server.Usernames
import Annex.Server.VerificationTrace
import Annex.Server.VerifyMembership
import Annex.Server.WebSocket
import Annex.Server.WriteAuthorization
import Annex.Server.WsTokenUse
import Annex.Server.WsTokens
import Annex.Types
import Annex.Vrp.Alignment
import Annex.Vrp.AnchorEquality
import Annex.Vrp.Reputation
import Annex.Vrp.ReputationTies
import Annex.Vrp.SemanticScore
import Annex.Vrp.Symmetry
import Annex.Vrp.Types
import Annex.Zk.Membership
