import BacklinkPublisher.AnchorScheduler
import BacklinkPublisher.AnchorTags
import BacklinkPublisher.ArticleScope
import BacklinkPublisher.ArticleWriters
import BacklinkPublisher.BackfillRows
import BacklinkPublisher.BannerDispatch
import BacklinkPublisher.CampaignWorker
import BacklinkPublisher.CanaryCooldown
import BacklinkPublisher.CanaryStore
import BacklinkPublisher.CanonicalUrl
import BacklinkPublisher.CellAssignments
import BacklinkPublisher.ChannelStatus
import BacklinkPublisher.CheckpointLog
import BacklinkPublisher.CheckpointOutcomes
import BacklinkPublisher.CheckpointProjection
import BacklinkPublisher.Checkpoints
import BacklinkPublisher.CircuitAccessors
import BacklinkPublisher.CircuitBreaker
import BacklinkPublisher.CircuitCorruption
import BacklinkPublisher.CitationEvents
import BacklinkPublisher.CitationShare
import BacklinkPublisher.ConfigHeadings
import BacklinkPublisher.ConfigSections
import BacklinkPublisher.CooperativeWrites
import BacklinkPublisher.DebouncedLatches
import BacklinkPublisher.DedupAtMostOnce
import BacklinkPublisher.DedupBackfill
import BacklinkPublisher.DedupGate
import BacklinkPublisher.DedupOwnAttempt
import BacklinkPublisher.DedupRuns
import BacklinkPublisher.DedupSettledKnowledge
import BacklinkPublisher.DedupStore
import BacklinkPublisher.DeficitScheduling
import BacklinkPublisher.DiscountMap
import BacklinkPublisher.DraftsProjection
import BacklinkPublisher.DraftsStore
import BacklinkPublisher.ErrorReports
import BacklinkPublisher.EventPayloads
import BacklinkPublisher.EventStore
import BacklinkPublisher.FailedSaves
import BacklinkPublisher.FallbackChain
import BacklinkPublisher.FirstPerKey
import BacklinkPublisher.FormEncoding
import BacklinkPublisher.GapPlan
import BacklinkPublisher.Generators
import BacklinkPublisher.Groups
import BacklinkPublisher.HistoryItems
import BacklinkPublisher.HistoryLooks
import BacklinkPublisher.HistoryPages
import BacklinkPublisher.HistoryProjection
import BacklinkPublisher.HistoryPurge
import BacklinkPublisher.HistorySplits
import BacklinkPublisher.HtmlTokens
import BacklinkPublisher.InputSchema
import BacklinkPublisher.IpNetworks
import BacklinkPublisher.JsonMigration
import BacklinkPublisher.JsonValues
import BacklinkPublisher.Keepalive
import BacklinkPublisher.KeepaliveRuns
import BacklinkPublisher.KeyedMaxima
import BacklinkPublisher.LatestVerdicts
import BacklinkPublisher.Ledger
import BacklinkPublisher.LedgerFiling
import BacklinkPublisher.LedgerJoin
import BacklinkPublisher.LedgerOverlay
import BacklinkPublisher.LedgerRows
import BacklinkPublisher.Linearizability
import BacklinkPublisher.LinkDrawer
import BacklinkPublisher.LinkPlatforms
import BacklinkPublisher.LinkReaders
import BacklinkPublisher.MainDomainGate
import BacklinkPublisher.MergedPages
import BacklinkPublisher.NetSafety
import BacklinkPublisher.ObjectHeaps
import BacklinkPublisher.Operations
import BacklinkPublisher.OptimizationDrift
import BacklinkPublisher.OptimizationFile
import BacklinkPublisher.OptimizationRules
import BacklinkPublisher.OptimizationState
import BacklinkPublisher.OptionFolds
import BacklinkPublisher.OrderedDicts
import BacklinkPublisher.OutputSchema
import BacklinkPublisher.OutputValidity
import BacklinkPublisher.OwnEvents
import BacklinkPublisher.PatternScans
import BacklinkPublisher.PayloadGates
import BacklinkPublisher.PenaltyRules
import BacklinkPublisher.PlanRows
import BacklinkPublisher.PlatformRouting
import BacklinkPublisher.ProbeBatches
import BacklinkPublisher.ProbeSelection
import BacklinkPublisher.ProfileTrim
import BacklinkPublisher.ProjectionEmit
import BacklinkPublisher.ProjectionHelpers
import BacklinkPublisher.PublishErrors
import BacklinkPublisher.PublishLeases
import BacklinkPublisher.PublishLoop
import BacklinkPublisher.PublishPolicy
import BacklinkPublisher.PublishSeamAgreement
import BacklinkPublisher.PublishSeams
import BacklinkPublisher.PublishTimes
import BacklinkPublisher.PublishWriter
import BacklinkPublisher.QuarantineLog
import BacklinkPublisher.QueueTicks
import BacklinkPublisher.Reachability
import BacklinkPublisher.RecentPerKey
import BacklinkPublisher.RecheckSelection
import BacklinkPublisher.RecheckUniverse
import BacklinkPublisher.Reconciler
import BacklinkPublisher.ReconcilerAging
import BacklinkPublisher.ReconcilerPasses
import BacklinkPublisher.RepeatedFlushes
import BacklinkPublisher.Replacements
import BacklinkPublisher.ReportMerges
import BacklinkPublisher.ReportSecrets
import BacklinkPublisher.RepublishJobs
import BacklinkPublisher.RevisitWindows
import BacklinkPublisher.RuleCycles
import BacklinkPublisher.Scorecard
import BacklinkPublisher.SelectOnly
import BacklinkPublisher.SettlePaths
import BacklinkPublisher.ShortArticles
import BacklinkPublisher.SoftDeletes
import BacklinkPublisher.SortedLists
import BacklinkPublisher.SqlStatements
import BacklinkPublisher.StripAgreement
import BacklinkPublisher.StripCounters
import BacklinkPublisher.SurvivalCohort
import BacklinkPublisher.TableRows
import BacklinkPublisher.TaskQueue
import BacklinkPublisher.TaskQueueRuns
import BacklinkPublisher.TelegraphNodes
import BacklinkPublisher.TextLines
import BacklinkPublisher.TomlLayout
import BacklinkPublisher.TransitionSystems
import BacklinkPublisher.UndoPromises
import BacklinkPublisher.UndoWindow
import BacklinkPublisher.UrlSplit
import BacklinkPublisher.ValidateRows
import BacklinkPublisher.VerdictClassifier
import BacklinkPublisher.VerifyHosts
import BacklinkPublisher.VerifyThrottle
import BacklinkPublisher.VerifyWindows
import BacklinkPublisher.WebLinks
import BacklinkPublisher.Words
import BacklinkPublisher.WrittenArticles
