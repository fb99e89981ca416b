import TaskBot.Lib.RelyGuarantee
import TaskBot.Domain.Base
import TaskBot.Domain.Task
import TaskBot.Lib.Table
import TaskBot.Domain.Records
import TaskBot.Domain.User
import TaskBot.Store.Db
import TaskBot.Store.TaskRepository
import TaskBot.Store.SlaRepository
import TaskBot.Store.OptimisticLock
import TaskBot.Policies.RoleAuthorization
import TaskBot.Store.RecordRepositories
import TaskBot.Store.UserRepository
import TaskBot.UseCases.AssigneeResolution
import TaskBot.Domain.TaskText
import TaskBot.UseCases.TaskMutations
import TaskBot.Domain.Message
import TaskBot.UseCases.TaskCreation
import TaskBot.UseCases.Delivery
import TaskBot.UseCases.Registration
import TaskBot.UseCases.ReviewGate
import TaskBot.UseCases.MutationWrites
import TaskBot.UseCases.CreationRetry
import TaskBot.Store.RecurrenceRepository
import TaskBot.UseCases.RecurrenceRules
import TaskBot.Lib.Cursor
import TaskBot.UseCases.RecurrenceOnce
import TaskBot.UseCases.SlaStates
import TaskBot.UseCases.SlaEscalations
import TaskBot.Presentation.Callbacks
import TaskBot.Presentation.Keyboards
import TaskBot.Presentation.CallbackData
import TaskBot.Domain.PersonName
import TaskBot.UseCases.Onboarding
import TaskBot.Presentation.OnboardingGate
import TaskBot.Domain.VoiceTranscript
import TaskBot.Presentation.Screens
import TaskBot.Presentation.VoiceCreate
import TaskBot.UseCases.RegistrationRecovery
import TaskBot.UseCases.DeliveryBudget
import TaskBot.UseCases.DeliveredAssignee
import TaskBot.UseCases.Admin
import TaskBot.UseCases.TaskComments
import TaskBot.UseCases.DeactivatedActor
import TaskBot.Store.Identity
import TaskBot.UseCases.IdentityRuns
import TaskBot.UseCases.FlagToggles
import TaskBot.UseCases.FlagRestarts
import TaskBot.Config.AppConfig
import TaskBot.UseCases.BootstrapAdmins
import TaskBot.Lib.Effects
import TaskBot.UseCases.TaskRights
import TaskBot.Lib.Traces
import TaskBot.Presentation.AdminNonceStore
import TaskBot.Presentation.RuntimeCalls
import TaskBot.Presentation.Acceptance
import TaskBot.Presentation.Commands
import TaskBot.Presentation.Navigation
import TaskBot.Presentation.CreationDialogs
import TaskBot.Presentation.AdminPanel
import TaskBot.Presentation.TaskDialogs
import TaskBot.Presentation.Dispatcher
import TaskBot.Presentation.Capabilities
import TaskBot.Presentation.StaleButtons
import TaskBot.Presentation.CancelConfirmation
import TaskBot.Presentation.VoiceConfirmed
import TaskBot.Presentation.AdminConfirmation
import TaskBot.Presentation.CallbackParsing
import TaskBot.Domain.TaskTimestamps
import TaskBot.UseCases.MutationAnswers
import TaskBot.UseCases.BlockedReason
import TaskBot.UseCases.RepeatedRequests
import TaskBot.UseCases.ListTasks
import TaskBot.Lib.Scripts
import TaskBot.Presentation.Deeds
import TaskBot.Presentation.Scenes
import TaskBot.Presentation.UpdateScripts
import TaskBot.Presentation.OneMessage
import TaskBot.Presentation.ChatRuns
import TaskBot.Presentation.OwnButtons
import TaskBot.UseCases.TaskTexts
import TaskBot.Presentation.TranscriptCopies
import TaskBot.Presentation.TypedText
import TaskBot.UseCases.KnownUsers
import TaskBot.Presentation.NotificationButtons
import TaskBot.UseCases.OnboardingLinks
import TaskBot.UseCases.EnteredNames
import TaskBot.UseCases.OnboardingRuns
import TaskBot.Domain.VoiceProcessing
import TaskBot.Store.VoiceProcessingRepository
import TaskBot.UseCases.SearchTasks
import TaskBot.UseCases.SlaTouches
import TaskBot.UseCases.NameMatching
import TaskBot.UseCases.AssigneeCriteria
import TaskBot.UseCases.ExplicitAssignee
import TaskBot.UseCases.LinkedRecipients
import TaskBot.Lib.Regex
import TaskBot.Domain.Parsing
import TaskBot.Domain.WorkingCalendar
import TaskBot.Domain.Deadline
import TaskBot.Domain.NormalizedText
import TaskBot.Presentation.OfferedActions
import TaskBot.Domain.WorkingDuration
import TaskBot.Domain.RoundedStarts
import TaskBot.Domain.ClockChanges
import TaskBot.Domain.DeadlinePhrases
import TaskBot.Domain.CivilDates
import TaskBot.Domain.YearlessDeadlines
import TaskBot.Lib.SimilarTexts
import TaskBot.Domain.LetterCase
import TaskBot.Domain.QuietHours
import TaskBot.Domain.ResolvedDeadlines
import TaskBot.Domain.CalendarCrashes
import TaskBot.Lib.RecentWindow
import TaskBot.Presentation.UpdateWindow
import TaskBot.Store.PersonTrigramRepository
import TaskBot.UseCases.ClosedTasks
import TaskBot.UseCases.LocalTaskGenerator
import TaskBot.Store.DirectorySync
import TaskBot.UseCases.TaskReminders
import TaskBot.UseCases.DailySummaries
import TaskBot.Lib.TopRows
import TaskBot.UseCases.FoundTasks
import TaskBot.UseCases.PreviewAgreement
import TaskBot.Lib.Words
import TaskBot.Domain.TranscriptWords
import TaskBot.Domain.ClippedTranscripts
import TaskBot.Domain.ParsedNames
import TaskBot.Infrastructure.CircuitBreaker
import TaskBot.Infrastructure.Gateways
import TaskBot.Infrastructure.DailyJobs
import TaskBot.Domain.DeadlineSpans
import TaskBot.Domain.DescriptionText
import TaskBot.Lib.KeyedLocks
import TaskBot.Presentation.ChatSerializer
import TaskBot.Presentation.SerialChats
import TaskBot.Lib.DataRefinement
import TaskBot.Lib.EncodedTable
import TaskBot.Lib.JsonStrings
import TaskBot.Store.Rows
import TaskBot.Store.TextStore
import TaskBot.Lib.Ledgers
import TaskBot.UseCases.AuditTrail
import TaskBot.Domain.TaskReferences
import TaskBot.UseCases.TaskCard
import TaskBot.Lib.Noninterference
import TaskBot.UseCases.Confidentiality
import TaskBot.Lib.TtlCache
import TaskBot.UseCases.CollectStats
import TaskBot.Presentation.RepositoryQueries
import TaskBot.UseCases.OverdueAlerts
import TaskBot.UseCases.NoticeKeys
import TaskBot.UseCases.NoticeQueue
import TaskBot.UseCases.Announcements
import TaskBot.Infrastructure.DirectoryDigest
