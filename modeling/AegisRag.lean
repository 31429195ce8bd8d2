import AegisRag.Agent.Durable.Accounting
import AegisRag.Agent.Durable.Service.Lifecycle
import AegisRag.Agent.Durable.Service.Starts
import AegisRag.Data.UploadAcl
import AegisRag.Rag.PromptLimits
import AegisRag.Rag.StageAgreement
import AegisRag.Rag.SourceResolver
import AegisRag.Billing.Budget
import AegisRag.Review.History
import AegisRag.Agent.RateLimiter
import AegisRag.Agent.FinalAnswer
import AegisRag.Agent.Registry.Gate
import AegisRag.Agent.ServiceTokenBridge
import AegisRag.Agent.RunService.Persistence
import AegisRag.Agent.RunService.StreamOrder
import AegisRag.Data.QueueScan
import AegisRag.Ingestion.FolderSyncCycles
import AegisRag.Ingestion.FolderTraversal
import AegisRag.Ingestion.FolderImport
import AegisRag.Data.QueueDedup
import AegisRag.Data.DocumentDeletion
import AegisRag.Data.Upload
import AegisRag.Data.DocumentStatus
import AegisRag.Data.ReviewList
import AegisRag.Ingestion.Cleaner
import AegisRag.Common.SourceMetadata
import AegisRag.Common.RateLimit
import AegisRag.Common.CircuitBreaker
import AegisRag.Memory.ChatHistory
import AegisRag.Rag.ResponseMetadata
import AegisRag.Web.ChatStream
