import FaLocal.Library.Words
import FaLocal.Library.Traced
import FaLocal.Library.FallbackLaws
import FaLocal.Contracts
import FaLocal.Posture
import FaLocal.PostureLaws
import FaLocal.Decision
import FaLocal.Refusals
import FaLocal.ExecutionGate
import FaLocal.PlanValidation
import FaLocal.Status
import FaLocal.Forensics
import FaLocal.Routing
import FaLocal.Delivery
import FaLocal.ExecutionService
import FaLocal.Pipeline
import FaLocal.StepLoop
import FaLocal.DeliveryRun
import FaLocal.PlanOutcome
import FaLocal.DeliveryLaws
import FaLocal.DecisionReload
import FaLocal.DeliveredWork
import FaLocal.DenialEvidence
import FaLocal.Footprint
import FaLocal.GnatAdmission
import FaLocal.GnatDispatch
import FaLocal.GnatIdentity
import FaLocal.PlanHash
import FaLocal.RunEvidence
import FaLocal.StepGate
import FaLocal.CapabilitySchema
import FaLocal.Coordination
import FaLocal.CoordinationLaws
import FaLocal.ForensicSchema
import FaLocal.Friction
import FaLocal.FrictionSchema
import FaLocal.GnatEventSchema
import FaLocal.JsonlForensicExport
import FaLocal.Library.Overwrites
import FaLocal.LocalFileWrite
import FaLocal.PlanConformance
import FaLocal.PolicyOrder
import FaLocal.Receipts
import FaLocal.ReconnaissanceEngine
import FaLocal.ReuseReconnaissanceService
import FaLocal.ReviewHandoff
import FaLocal.ReviewSchema
import FaLocal.ServerLoop
import FaLocal.StatusSchema
import FaLocal.StoredEvidence
import FaLocal.TextLengths
import FaLocal.NeuronForgeDispatch
import FaLocal.ReconnaissanceReload
import FaLocal.SealedCorpusLinks
import FaLocal.GnatNegotiation
import FaLocal.ReconnaissanceOrder
import FaLocal.IdPattern
import FaLocal.StoreQueries
import FaLocal.SessionEvidence
import FaLocal.GnatCommand
import FaLocal.JsonlRuns
import FaLocal.JsonlGnatRuns
import FaLocal.ExecuteCommand
import FaLocal.Interleavings
import FaLocal.NeuronForgeEventSchema
import FaLocal.CommandSessions
import FaLocal.DfLocal
import FaLocal.NeuronForgeCommand
