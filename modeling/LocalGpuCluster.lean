import LocalGpuCluster.AccessKeys
import LocalGpuCluster.Admission
import LocalGpuCluster.AliasDefaults
import LocalGpuCluster.AnswerStrip
import LocalGpuCluster.AutoSwap
import LocalGpuCluster.BranchRef
import LocalGpuCluster.BriefSections
import LocalGpuCluster.BundleManifest
import LocalGpuCluster.ChatBody
import LocalGpuCluster.ChatRoute
import LocalGpuCluster.ChatSwap
import LocalGpuCluster.ChatSwapServes
import LocalGpuCluster.ConfigEnv
import LocalGpuCluster.ConfigEnvRewrite
import LocalGpuCluster.CredentialCoverage
import LocalGpuCluster.DedupeWorkspace
import LocalGpuCluster.DepotCatalogue
import LocalGpuCluster.DepotPublish
import LocalGpuCluster.DeviceAgreement
import LocalGpuCluster.Dictionary
import LocalGpuCluster.Dispatcher
import LocalGpuCluster.DispatcherClaim
import LocalGpuCluster.DispatcherPick
import LocalGpuCluster.DispatcherSteps
import LocalGpuCluster.DocumentLimits
import LocalGpuCluster.Egress
import LocalGpuCluster.EgressPackets
import LocalGpuCluster.EgressRuleset
import LocalGpuCluster.EgressTable
import LocalGpuCluster.EmbedAdmission
import LocalGpuCluster.EmbeddedAddress
import LocalGpuCluster.Ensures
import LocalGpuCluster.EscalationAccounted
import LocalGpuCluster.EscalationBilling
import LocalGpuCluster.EscalationBrief
import LocalGpuCluster.EscalationBudget
import LocalGpuCluster.EscalationDedupe
import LocalGpuCluster.EscalationHandle
import LocalGpuCluster.EscalationLedger
import LocalGpuCluster.EscalationMachine
import LocalGpuCluster.EscalationMeters
import LocalGpuCluster.EscalationSegments
import LocalGpuCluster.EventStream
import LocalGpuCluster.FanControl
import LocalGpuCluster.FanControlRuns
import LocalGpuCluster.FencedCode
import LocalGpuCluster.FetchConfinement
import LocalGpuCluster.FirstBoot
import LocalGpuCluster.FirstWins
import LocalGpuCluster.Framing
import LocalGpuCluster.GradeNaming
import LocalGpuCluster.GradeTests
import LocalGpuCluster.HistoryConserved
import LocalGpuCluster.HistoryFlush
import LocalGpuCluster.HistoryRows
import LocalGpuCluster.HistoryWriter
import LocalGpuCluster.HoldSlot
import LocalGpuCluster.HunkTrim
import LocalGpuCluster.Interaction
import LocalGpuCluster.IpAddress
import LocalGpuCluster.IpBlocks
import LocalGpuCluster.IpText
import LocalGpuCluster.JournalFollower
import LocalGpuCluster.Json
import LocalGpuCluster.JsonCanonical
import LocalGpuCluster.JsonRoundTrip
import LocalGpuCluster.JsonScan
import LocalGpuCluster.JsonText
import LocalGpuCluster.KeyReload
import LocalGpuCluster.LeastRecent
import LocalGpuCluster.LedgerFile
import LocalGpuCluster.LineLayout
import LocalGpuCluster.LoopEpisodes
import LocalGpuCluster.Machine
import LocalGpuCluster.Metering
import LocalGpuCluster.Nftables
import LocalGpuCluster.ObjectStore
import LocalGpuCluster.OrderedDict
import LocalGpuCluster.ProbeContainment
import LocalGpuCluster.ProbeFindings
import LocalGpuCluster.ProbeReturns
import LocalGpuCluster.Probes
import LocalGpuCluster.ProfileMatch
import LocalGpuCluster.Provision
import LocalGpuCluster.ProvisionHost
import LocalGpuCluster.ProvisionIdentity
import LocalGpuCluster.ProvisionTexts
import LocalGpuCluster.RagApplied
import LocalGpuCluster.RagAttached
import LocalGpuCluster.RagCleanup
import LocalGpuCluster.RagCrawl
import LocalGpuCluster.RagHandlers
import LocalGpuCluster.RagHealing
import LocalGpuCluster.RagOncePerUrl
import LocalGpuCluster.RagRefresh
import LocalGpuCluster.RagRemoval
import LocalGpuCluster.RagRepair
import LocalGpuCluster.RagSync
import LocalGpuCluster.Records
import LocalGpuCluster.Regex
import LocalGpuCluster.Relabel
import LocalGpuCluster.RenderedSecrets
import LocalGpuCluster.Repeats
import LocalGpuCluster.Replacement
import LocalGpuCluster.ReportPage
import LocalGpuCluster.RequestRows
import LocalGpuCluster.RequestTracker
import LocalGpuCluster.ReservedLane
import LocalGpuCluster.ReviewPacket
import LocalGpuCluster.Router
import LocalGpuCluster.RouterKeys
import LocalGpuCluster.RouterKeysRuns
import LocalGpuCluster.RouterKeysSerial
import LocalGpuCluster.RunnerRedact
import LocalGpuCluster.RunnerReport
import LocalGpuCluster.SafeMessage
import LocalGpuCluster.SchemaWalk
import LocalGpuCluster.SchemaWalkReach
import LocalGpuCluster.ScopedConfinement
import LocalGpuCluster.SearchCache
import LocalGpuCluster.SearchCacheRuns
import LocalGpuCluster.SlewLimit
import LocalGpuCluster.SourceCoverage
import LocalGpuCluster.SourceInterleave
import LocalGpuCluster.Spacing
import LocalGpuCluster.SpecCredentials
import LocalGpuCluster.SpecDevices
import LocalGpuCluster.SpecDiff
import LocalGpuCluster.SpecDiffBudget
import LocalGpuCluster.SpecDiffComplete
import LocalGpuCluster.SpecDiffMask
import LocalGpuCluster.SpecDiffOutput
import LocalGpuCluster.SpecDiffSame
import LocalGpuCluster.SpecDiffSecrets
import LocalGpuCluster.SpecDiffShown
import LocalGpuCluster.SpecGating
import LocalGpuCluster.SpecNetworks
import LocalGpuCluster.SpecNetworksPlan
import LocalGpuCluster.SpecPools
import LocalGpuCluster.SpecRedact
import LocalGpuCluster.SpecRender
import LocalGpuCluster.SpecRuntime
import LocalGpuCluster.SpecValue
import LocalGpuCluster.StreamRelay
import LocalGpuCluster.SwapIsolation
import LocalGpuCluster.SwapWebhook
import LocalGpuCluster.SwapWebhookRuns
import LocalGpuCluster.Tally
import LocalGpuCluster.Text
import LocalGpuCluster.ToolCalls
import LocalGpuCluster.ToolLoop
import LocalGpuCluster.ToolLoopRounds
import LocalGpuCluster.ToolStream
import LocalGpuCluster.ToolStreamReads
import LocalGpuCluster.Trace
import LocalGpuCluster.TtlCache
import LocalGpuCluster.TurnLoop
import LocalGpuCluster.Unfolding
import LocalGpuCluster.VcfLab
import LocalGpuCluster.VcfLabCommon
import LocalGpuCluster.VcfLabStart
import LocalGpuCluster.VcfLabStartSafety
import LocalGpuCluster.VcfLabStartSteps
import LocalGpuCluster.VcfLabSteps
import LocalGpuCluster.VcfLabStop
import LocalGpuCluster.VcfLabStopSafety
import LocalGpuCluster.VcfLabStopSteps
import LocalGpuCluster.VisionGuard
import LocalGpuCluster.WebFetch
import LocalGpuCluster.WorkforceBudget
import LocalGpuCluster.WorkforceConserved
import LocalGpuCluster.WorkforceEnds
import LocalGpuCluster.WorkforceMoves
import LocalGpuCluster.WorkforcePipeline
