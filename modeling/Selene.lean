import Selene.JsText
import Selene.JsonText
import Selene.JsonTextSize
import Selene.JsonParse
import Selene.JsDouble
import Selene.DoubleRounding
import Selene.JsonData
import Selene.CanonicalData
import Selene.Rejection
import Selene.Raising
import Selene.RejectingMachine
import Selene.InertValue
import Selene.AgentProtocol
import Selene.AgentEnvelope
import Selene.AgentSession
import Selene.AgentSessionRuns
import Selene.AgentStream
import Selene.AgentStreamRuns
import Selene.BoundedLoop
import Selene.CanonicalOrder
import Selene.JsValue
import Selene.JsLiteral
import Selene.Codec
import Selene.JsDate
import Selene.DesignRevisionSnapshot
import Selene.JsonValue
import Selene.DesignRevisionBudget
import Selene.DesignRevisionFields
import Selene.DesignRevisionPrivacy
import Selene.DesignRevisionPrivacyBinding
import Selene.DesignRevisionPrivacyRoundTrip
import Selene.DesignRevisionRecord
import Selene.DesignRevisionRecordRoundTrip
import Selene.DesignRevisionSealing
import Selene.DesignRevisionReordering
import Selene.DesignRevisionState
import Selene.DesignRevisionStateRoundTrip
import Selene.DesignRevisionCommit
import Selene.DesignRevisionSuccessor
import Selene.DesignRevisionRuns
import Selene.DesignRevisionPreflight
import Selene.DesignRevisionLiveness
import Selene.PosixPath
import Selene.SourceWorkspace
import Selene.SourceImports
import Selene.SourceStatements
import Selene.SourcePatch
import Selene.ReactBindingManifest
import Selene.ReactBuilder
import Selene.PrototypeGraph
import Selene.PrototypeRuntime
import Selene.PrototypeRestore
import Selene.PrototypeGraphRules
import Selene.TransitionRemoval
import Selene.DesignBaseline
import Selene.DesignBaselineHistory
import Selene.InsertionTable
import Selene.Federation
import Selene.InertCopy
import Selene.InertCost
import Selene.CollaborationRecords
import Selene.CollaborationBoundary
import Selene.IdempotentCalls
import Selene.IdempotentRuns
import Selene.IdempotentResponses
import Selene.CollaborationCopies
import Selene.CollaborationValidation
import Selene.CollaborationAIRequest
import Selene.ReviewReceipt
import Selene.ReviewReceiptText
import Selene.CollaborationRepository
import Selene.CollaborationCommit
import Selene.CollaborationProject
import Selene.LoggedMachine
import Selene.CollaborationRuns
import Selene.CollaborationReviewCalls
import Selene.CollaborationSteps
import Selene.CollaborationReferences
import Selene.CollaborationImport
import Selene.CollaborationReviewHistory
import Selene.CollaborationReviewTimeline
import Selene.CollaborationReplacement
import Selene.CollaborationPortability
import Selene.CollaborationAtomicity
import Selene.CollaborationLinearity
import Selene.ProjectManifest
import Selene.Schema
import Selene.ScenarioRendering
import Selene.SharedLock
import Selene.ProjectText
import Selene.LifecycleLocks
import Selene.ProjectRecord
import Selene.SiemOutbox
import Selene.SiemCustodyRuns
import Selene.EnterpriseOutage
import Selene.FailingState
import Selene.ProjectCapture
import Selene.ProjectOperations
import Selene.ProjectService
import Selene.ProjectReading
import Selene.ProjectQuarantine
import Selene.UrlReference
import Selene.UrlPath
import Selene.ReturnTarget
import Selene.IpAddress
import Selene.OidcAddressScreen
import Selene.SamlCorrelation
import Selene.SamlCalls
import Selene.SamlOneTime
import Selene.TextLines
import Selene.UnifiedDiff
import Selene.AIProposalFaithful
import Selene.AIProposalReview
import Selene.DepthFirst
import Selene.JsCoercion
import Selene.DataSnapshot
import Selene.SemanticVersion
import Selene.ExtensionManifest
import Selene.ExtensionValidation
import Selene.ExtensionPlan
import Selene.ExtensionOrder
import Selene.ExtensionPlanContents
import Selene.ExtensionPlanOrder
import Selene.ExtensionPlanCanonical
import Selene.ExtensionRevalidation
import Selene.ExtensionActivation
import Selene.HostedSession
import Selene.InertEquality
import Selene.RevisionDiff
import Selene.RevisionDiffPaths
import Selene.RevisionPatch
import Selene.RevisionDiffSound
import Selene.RevisionMerge
import Selene.RevisionMergePlan
import Selene.TextForest
import Selene.TextForestSearch
import Selene.TextForestMove
import Selene.StructuralPatch
import Selene.JsxText
import Selene.SetContentPatch
import Selene.PrototypeGraphText
import Selene.PrototypeTransport
import Selene.PrototypeText
import Selene.PreviewBuildLease
import Selene.PreviewBuildLeaseRuns
import Selene.AddressAdmission
import Selene.BreakGlass
import Selene.AccessFailures
import Selene.ComponentProperty
import Selene.AgentJsonSize
import Selene.QuarantinePruning
import Selene.DesignBaselineDispatch
import Selene.FederationCatalog
import Selene.ExtensionLimits
import Selene.ConfigurationMeaning
import Selene.ManualTextEdit
import Selene.ManualStructurePolicy
import Selene.SemverAgreement
import Selene.DesignRevisionByteLength
import Selene.DesignRevisionInstants
import Selene.EnterpriseMediation
import Selene.CollaborationDeletion
import Selene.Timeline
import Selene.CanvasGraphHistory
