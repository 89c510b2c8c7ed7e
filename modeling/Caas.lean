import Caas.Datastore.RecordInvariant
import Caas.Datastore.TenantIsolation
import Caas.Datastore.AdapterEquivalence
import Caas.Datastore.AuditTrail
import Caas.Datastore.ControlPlaneIsolation
import Caas.Datastore.ControlPlaneRouting
import Caas.Datastore.ShadowReads
import Caas.Datastore.ConnectionPool
import Caas.Datastore.ConnectionPoolManager
import Caas.Datastore.CredentialManager
import Caas.Mongo.BaseRepository
import Caas.Auth.SingleUse
import Caas.Auth.FamilyRevocation
import Caas.Auth.DeadKeys
import Caas.Auth.RevocationHistory
import Caas.Auth.RefreshFaults
import Caas.Sdk.EventDelivery
import Caas.Sdk.ExplicitDisconnect
import Caas.Audit.TamperEvidence
import Caas.Compliance.LogIntegrity
import Caas.Mfa.BackupCodes
import Caas.Auth.ProjectHistory
import Caas.Auth.SessionTermination
import Caas.Gateway.WhitelistCaching
import Caas.Mfa.AttemptBound
import Caas.Mfa.ChallengeSoundness
import Caas.Compliance.LogDelivery
import Caas.Crypto.RetiredKeys
import Caas.Media.ChunkCounting
import Caas.Media.StorageQuota
import Caas.Media.UploadOwners
import Caas.E2e.MemberRemoval
import Caas.E2e.MessageKeyReuse
import Caas.E2e.PreKeyUse
import Caas.E2e.ReceivingChain
import Caas.E2e.RestartTransparency
import Caas.Gateway.ConversationIsolation
import Caas.Kafka.CrashDurability
import Caas.Kafka.EventValidation
import Caas.Kafka.MessageVerdicts
import Caas.Kafka.RetryBounds
import Caas.Kafka.ConversationRecency
import Caas.Messaging.PersistedFinality
import Caas.Presence.DevicePresence
import Caas.Presence.PresenceConvergence
import Caas.Presence.SubscriptionSymmetry
import Caas.Receipts.DeliveryTracker
import Caas.Rooms.BanEnforcement
import Caas.Rooms.RoomMembership
import Caas.Webrtc.BusyUsers
import Caas.Webrtc.CallControl
import Caas.Conversations.CachedReads
import Caas.Conversations.MembershipAgreement
import Caas.Conversations.RoomMembershipChecks
import Caas.Media.QuotaService
import Caas.Messages.EditsAndReactions
import Caas.Mongo.BulkConservation
import Caas.Mongo.ResumeTokens
import Caas.Permissions.PermissionResolver
import Caas.Policies.CombinedDecisions
import Caas.Policies.ConditionSemantics
import Caas.Policies.PolicyUpdates
import Caas.Auth.DecisionKeys
import Caas.Auth.SessionService
import Caas.Auth.WhitelistMatching
import Caas.Datastore.QueryMeaning
import Caas.Mfa.Base32
import Caas.Resilience.BreakerLaw
import Caas.Resilience.FallbackController
import Caas.Sdk.QueuePersistence
import Caas.Sdk.SequenceGaps
import Caas.Contracts.EventSchemas
import Caas.Gateway.CircuitBreaker
import Caas.Gateway.WebhookSignature
import Caas.Kafka.ConcurrentConsumer
import Caas.Kafka.RetryConsumer
import Caas.Messages.MessageHistory
import Caas.Mongo.QueryConjunction
import Caas.Sdk.RequestAccounting
import Caas.Sdk.SessionFailures
import Caas.RateLimit.SlidingWindowRateLimiter
