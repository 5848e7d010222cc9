import LiveKBench.Lib.Machine
import LiveKBench.Lib.Table
import LiveKBench.Lib.OrderedMap
import LiveKBench.Lib.Traverse
import LiveKBench.Lib.Inbox
import LiveKBench.Lib.Token
import LiveKBench.Lib.TaskGroup
import LiveKBench.Lib.GuardedTasks
import LiveKBench.Lib.SharedGroup
import LiveKBench.Lib.Coroutine
import LiveKBench.Lib.SharedDatabase
import LiveKBench.Lib.Connection
import LiveKBench.Lib.AsyncLock
import LiveKBench.Lib.AutoTable
import LiveKBench.Lib.SqlTable
import LiveKBench.Lib.TaskPool
import LiveKBench.Lib.TagSearch
import LiveKBench.Lib.SoleCall
import LiveKBench.Lib.WithoutItem
import LiveKBench.Lib.Text
import LiveKBench.Lib.Grouping
import LiveKBench.Lib.Jaccard
import LiveKBench.Lib.Json
import LiveKBench.Lib.Numerals
import LiveKBench.Lib.JsonText
import LiveKBench.Lib.JsValue
import LiveKBench.Lib.JsObject
import LiveKBench.Lib.Relational
import LiveKBench.Lib.Retry
import LiveKBench.Lib.FirstSeen
import LiveKBench.Lib.Shuffle
import LiveKBench.Lib.Paging
import LiveKBench.Lib.Play
import LiveKBench.Lib.Polling
import LiveKBench.Lib.Object
import LiveKBench.KCore.Models
import LiveKBench.KCore.JobIdCodec
import LiveKBench.KEnv.AnalyzePatch
import LiveKBench.KPreBuilder.AnalyzeBinary
import LiveKBench.KPreBuilder.PrebuilderTask
import LiveKBench.KCore.Worker
import LiveKBench.KCore.Storage
import LiveKBench.KCore.Resources
import LiveKBench.KScheduler.Database
import LiveKBench.KScheduler.Backend
import LiveKBench.KScheduler.Operation
import LiveKBench.KScheduler.System
import LiveKBench.KScheduler.Statement
import LiveKBench.KScheduler.Steps
import LiveKBench.KScheduler.Writes
import LiveKBench.KScheduler.Origins
import LiveKBench.KScheduler.Wiring
import LiveKBench.KScheduler.Fates
import LiveKBench.KScheduler.Stages
import LiveKBench.KScheduler.Carried
import LiveKBench.KScheduler.StaleUpdate
import LiveKBench.KScheduler.Clock
import LiveKBench.KScheduler.LockField
import LiveKBench.KScheduler.StageResults
import LiveKBench.KScheduler.MutualExclusion
import LiveKBench.KScheduler.Responsibility
import LiveKBench.KScheduler.WaitingJobs
import LiveKBench.KScheduler.AbortRequests
import LiveKBench.KScheduler.TimeTexts
import LiveKBench.KScheduler.TypedDispatch
import LiveKBench.KScheduler.Ledger
import LiveKBench.KScheduler.Durability
import LiveKBench.KScheduler.TagApi
import LiveKBench.KScheduler.Listings
import LiveKBench.KVMManager.VMTask
import LiveKBench.KVMManager.ImageAbility
import LiveKBench.KArena.Verdict
import LiveKBench.KArena.VerdictMeaning
import LiveKBench.KArena.JudgeReply
import LiveKBench.KArena.Schema
import LiveKBench.KArena.AgentInvoker
import LiveKBench.KArena.OracleFiles
import LiveKBench.KArena.ModelConfigManager
import LiveKBench.KClient.SyzbotData
import LiveKBench.KClient.KgymDataset
import LiveKBench.KClient.Agentic
import LiveKBench.KClient.BenchBuild
import LiveKBench.KArenaWeb.Leaderboard
import LiveKBench.KArenaWeb.CrashResolution
import LiveKBench.KArenaWeb.LeaderboardQuery
import LiveKBench.KArenaWeb.MonthWindow
import LiveKBench.KArenaWeb.Cells
import LiveKBench.KArenaWeb.CellLaws
import LiveKBench.KArenaWeb.LeaderboardCache
import LiveKBench.KArenaWeb.RowOrder
import LiveKBench.KArenaWeb.JudgedRuns
import LiveKBench.KArenaWeb.ResearchQuery
import LiveKBench.KArenaWeb.RangeEditor
import LiveKBench.KArenaWeb.ResearchTree
import LiveKBench.KArenaWeb.ResearchAgreement
import LiveKBench.KArenaWeb.JudgeFilter
import LiveKBench.KArenaDb.Entities
import LiveKBench.KArenaDb.KEnvBase
import LiveKBench.KArenaDb.Isoformat
import LiveKBench.KArenaDb.Moments
import LiveKBench.KArenaDb.TimeOrder
import LiveKBench.KArenaDb.Columns
import LiveKBench.KArenaDb.StoredEntities
import LiveKBench.KArenaDb.Bugs
import LiveKBench.KArenaDb.Datasets
import LiveKBench.KArenaDb.UnattemptedBugs
import LiveKBench.KArenaDb.DatasetWrites
import LiveKBench.KArenaDb.HfSync
import LiveKBench.KArenaDb.HfRoundTrip
import LiveKBench.KArenaWeb.DatasetBugs
import LiveKBench.KArenaPipeline.KenvBaseBuilds
import LiveKBench.KArenaPipeline.KenvBaseSubmission
import LiveKBench.KArenaPipeline.KenvBaseStates
import LiveKBench.KArenaPipeline.KenvBaseRuns
import LiveKBench.KArenaPipeline.KenvBaseRecovery
import LiveKBench.KArenaPipeline.KGymJobs
import LiveKBench.KArenaPipeline.Evaluations
import LiveKBench.KArenaPipeline.LocalizationLaws
import LiveKBench.KArenaPipeline.EvaluationRuns
import LiveKBench.KArenaPipeline.KenvImageManager
import LiveKBench.KArenaPipeline.SyzbotDriver
import LiveKBench.KArenaPipeline.SyzbotPopulator
import LiveKBench.KArenaPipeline.SyzbotPages
import LiveKBench.KArenaPipeline.PopulatedRecord
import LiveKBench.KArenaPipeline.Crawls
import LiveKBench.KArenaPipeline.AgentPatchProcess
import LiveKBench.KArenaPipeline.ImageActivities
import LiveKBench.KArenaPipeline.ImagesHeld
import LiveKBench.KArenaPipeline.PopulatedBatch
import LiveKBench.KArenaPipeline.RemainingRuns
import LiveKBench.KArenaPipeline.PatchImporter
import LiveKBench.KArenaPipeline.ImportRuns
import LiveKBench.KArenaPipeline.ImportLeftovers
import LiveKBench.KArenaPipeline.ImportNumbering
import LiveKBench.KArenaPipeline.LLMJudgeEval
import LiveKBench.KArenaPipeline.KcacheBuilds
import LiveKBench.KArenaPipeline.KcachePhases
import LiveKBench.KArenaPipeline.KcacheJobs
import LiveKBench.KArenaPipeline.KcacheLife
import LiveKBench.KArenaPipeline.KcachePolls
import LiveKBench.Lib.UnifiedDiff
import LiveKBench.Lib.Refinement
import LiveKBench.Lib.CallService
import LiveKBench.KCore.Rpc
import LiveKBench.KCore.RpcAnswers
import LiveKBench.KCore.RpcDelivery
import LiveKBench.KCore.RpcProgress
import LiveKBench.KCore.RpcResponses
import LiveKBench.KScheduler.Submitted
import LiveKBench.Lib.CoroutineLift
import LiveKBench.KArenaPipeline.CrashPolls
import LiveKBench.Lib.SharedAdvance
import LiveKBench.KArenaPipeline.CrashVerdicts
import LiveKBench.KArenaPipeline.CrashJobs
import LiveKBench.KBuilder.BuildTask
import LiveKBench.KBuilder.KcacheChains
import LiveKBench.KBuilder.KcacheConfig
import LiveKBench.KCore.ResourceKeys
import LiveKBench.KBuilder.KcacheStays
import LiveKBench.KBuilder.RepositoryManager
import LiveKBench.KBuilder.RepositoryTasks
import LiveKBench.KBuilder.RepositoryClones
import LiveKBench.KBuilder.RepositoryListing
import LiveKBench.KArenaWeb.DrillDown
import LiveKBench.KArenaWeb.QueryBody
import LiveKBench.KArenaWeb.QueryReadBack
import LiveKBench.KArenaWeb.QueryTree
import LiveKBench.KArenaWeb.DatasetSummaries
import LiveKBench.KCore.Shutdown
