import MessagingSystem.Channels.Ownership
import MessagingSystem.Audit.Tampering
import MessagingSystem.Messages.Reactions
import MessagingSystem.Messages.MigrationOutcome
import MessagingSystem.Messages.SyncBackfill
import MessagingSystem.Realtime.Consumers
import MessagingSystem.Broker.Subscriptions
import MessagingSystem.Auth.Revocation
import MessagingSystem.Auth.EmailProof
import MessagingSystem.Realtime.Closing
import MessagingSystem.Delivery.Convergence
import MessagingSystem.Invites.Redemption
import MessagingSystem.Uploads.Confidentiality
import MessagingSystem.Uploads.PlaintextMigration
import MessagingSystem.Uploads.StorageAtomicity
import MessagingSystem.Uploads.Downloads
import MessagingSystem.Realtime.PresenceRuns
import MessagingSystem.Realtime.History
import MessagingSystem.Realtime.RegistryRuns
