import SysadminAssistant.Python.Float
import SysadminAssistant.Python.Dict
import SysadminAssistant.Library.AnchorGroups
import SysadminAssistant.Monitor.LogEntry
import SysadminAssistant.Library.LocalSteps
import SysadminAssistant.Monitor.LogFaults
import SysadminAssistant.Monitor.IncidentFold
import SysadminAssistant.Library.OpenRows
import SysadminAssistant.Core.Alerts
import SysadminAssistant.Monitor.AgentLadder
import SysadminAssistant.Monitor.AgentHealth
import SysadminAssistant.Monitor.AgentHealthRuns
import SysadminAssistant.Monitor.FailureRecovery
import SysadminAssistant.Core.Agent
import SysadminAssistant.Monitor.StatusEvents
import SysadminAssistant.Monitor.JudgedAlerts
import SysadminAssistant.Monitor.ServiceChecks
import SysadminAssistant.Monitor.Thresholds
import SysadminAssistant.Monitor.HealthRun
import SysadminAssistant.Monitor.SweepAgreement
import SysadminAssistant.Monitor.UnmeasuredResources
import SysadminAssistant.Python.Bytes
import SysadminAssistant.Python.JsonDecode
import SysadminAssistant.Monitor.Journal
import SysadminAssistant.Monitor.PoisonedReads
import SysadminAssistant.Monitor.IngestSurvival
import SysadminAssistant.Monitor.LogAggregator
import SysadminAssistant.Library.ResumedLog
import SysadminAssistant.Monitor.JournalResume
import SysadminAssistant.Monitor.JournalExactness
import SysadminAssistant.Monitor.IngestedOnce
import SysadminAssistant.Monitor.PollTurns
import SysadminAssistant.Monitor.RolledBackPolls
import SysadminAssistant.Monitor.LogAlerts
import SysadminAssistant.Monitor.QuietResolution
import SysadminAssistant.Monitor.LogTrends
import SysadminAssistant.Monitor.TrendTitles
import SysadminAssistant.Tray.Notifications
import SysadminAssistant.Tray.PolicyRuns
import SysadminAssistant.Tray.CalmNotifications
import SysadminAssistant.Tray.DigestEpisodes
import SysadminAssistant.Units.UnitFiles
import SysadminAssistant.Units.SweepBuckets
import SysadminAssistant.Estate.Judgements
import SysadminAssistant.Estate.AuditFindings
import SysadminAssistant.Estate.EstateJudge
import SysadminAssistant.Estate.JudgedTitles
import SysadminAssistant.Estate.EstateRuns
import SysadminAssistant.Estate.JudgedRows
import SysadminAssistant.Estate.RepeatedRuns
import SysadminAssistant.Library.LikePatterns
import SysadminAssistant.Core.PatternResolve
import SysadminAssistant.Python.DecimalText
import SysadminAssistant.Units.UnitAlerts
import SysadminAssistant.Units.UnitAlertLoops
import SysadminAssistant.Library.StepHistory
import SysadminAssistant.Monitor.DesktopNotifier
import SysadminAssistant.Monitor.NotifierTurns
import SysadminAssistant.Units.UnitAlertRuns
import SysadminAssistant.Monitor.SpokenFaults
import SysadminAssistant.Monitor.OutageEndings
import SysadminAssistant.Monitor.SoundEndings
import SysadminAssistant.Monitor.OutageEnds
import SysadminAssistant.Monitor.FaultClocks
import SysadminAssistant.Monitor.Understudy
import SysadminAssistant.Files.FileTree
import SysadminAssistant.Files.SystemCalls
import SysadminAssistant.Files.Actions
import SysadminAssistant.Files.CallEffects
import SysadminAssistant.Files.MoveOutcomes
import SysadminAssistant.Files.TrashOutcomes
import SysadminAssistant.Files.Conservation
import SysadminAssistant.Files.DuplicatePlan
import SysadminAssistant.Files.RemovalFrames
import SysadminAssistant.Files.LastCopies
import SysadminAssistant.Files.PlannedRemovals
import SysadminAssistant.Reload.JobPlan
import SysadminAssistant.Reload.HonestReports
import SysadminAssistant.Library.FirstRows
import SysadminAssistant.Tray.AlertPolls
import SysadminAssistant.Games.GameSpans
import SysadminAssistant.Games.SpanPolls
import SysadminAssistant.Games.FaithfulSpans
import SysadminAssistant.Monitor.LogActions
import SysadminAssistant.Monitor.JournalHorizon
import SysadminAssistant.Monitor.AdviceCoverage
import SysadminAssistant.Units.DeadDirectories
import SysadminAssistant.Units.TimerPairs
import SysadminAssistant.Library.RateLimiter
import SysadminAssistant.Units.StartLimits
import SysadminAssistant.Units.UnitRelations
import SysadminAssistant.Estate.ArbitratedStops
import SysadminAssistant.Estate.HeldLeases
import SysadminAssistant.Core.Retention
import SysadminAssistant.Core.PurgedRows
import SysadminAssistant.Core.RetainedRows
import SysadminAssistant.Files.Recommendations
import SysadminAssistant.Files.ClearingPasses
import SysadminAssistant.Library.OutermostPaths
import SysadminAssistant.Files.CacheAdvice
import SysadminAssistant.Monitor.Reliability
import SysadminAssistant.Monitor.ReliabilityHistory
import SysadminAssistant.Library.NamedText
import SysadminAssistant.Monitor.AdviceParity
import SysadminAssistant.Monitor.LogReview
import SysadminAssistant.Monitor.HealthReview
import SysadminAssistant.Files.DiskReview
import SysadminAssistant.Monitor.FigureFreePrompts
import SysadminAssistant.Monitor.GpuReadings
import SysadminAssistant.Monitor.HttpCheck
import SysadminAssistant.Monitor.WorkingServices
import SysadminAssistant.Monitor.TitleIdentity
import SysadminAssistant.Monitor.TrendFolds
import SysadminAssistant.Tray.DigestFlushes
import SysadminAssistant.Python.Runs
import SysadminAssistant.Units.UnitText
import SysadminAssistant.Units.WrittenUnits
import SysadminAssistant.Monitor.MeasuredScores
import SysadminAssistant.Units.RestartAdvice
import SysadminAssistant.Python.JsonReload
import SysadminAssistant.Units.SweptPorts
import SysadminAssistant.Units.SweptReadings
import SysadminAssistant.Units.FaithfulReadings
import SysadminAssistant.Python.JsonAgreement
import SysadminAssistant.Core.CorrectedRows
import SysadminAssistant.Files.ProjectedThresholds
import SysadminAssistant.Files.DatableDisks
import SysadminAssistant.Monitor.MessageBackfill
import SysadminAssistant.Monitor.FrozenMessages
import SysadminAssistant.Estate.BlamedLimbs
import SysadminAssistant.Estate.BreachedPorts
import SysadminAssistant.Files.ConfinedPlans
import SysadminAssistant.Files.ConfinedExecution
import SysadminAssistant.Monitor.LogSources
import SysadminAssistant.Monitor.FoldedAdvice
import SysadminAssistant.Monitor.ChargedServices
import SysadminAssistant.Library.PolledTokens
import SysadminAssistant.Monitor.StaleTimers
import SysadminAssistant.Monitor.OutageRuns
import SysadminAssistant.Monitor.ExplainedBlips
import SysadminAssistant.Library.CensoredCounts
import SysadminAssistant.Monitor.ClaimedDirections
import SysadminAssistant.Monitor.AdvisedJournals
import SysadminAssistant.Python.JsonContinuations
import SysadminAssistant.Python.JsonAcceptance
import SysadminAssistant.Python.JsonTopLevel
import SysadminAssistant.Estate.HookWiring
import SysadminAssistant.Monitor.CappedTrends
import SysadminAssistant.Games.Detection
import SysadminAssistant.Briefing.Data
import SysadminAssistant.Briefing.TiledPeriods
import SysadminAssistant.Core.HeldNarratives
import SysadminAssistant.Monitor.EventStream
import SysadminAssistant.Monitor.NormalSignatures
import SysadminAssistant.Monitor.MergedMembers
import SysadminAssistant.Core.ConfigKeys
import SysadminAssistant.Core.IgnoredKeys
import SysadminAssistant.Monitor.FailureReplay
import SysadminAssistant.Monitor.WeeklyReviews
import SysadminAssistant.Games.FocusProbe
