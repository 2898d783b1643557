import QueryLayer.Memory
import QueryLayer.Model.Saving
import QueryLayer.Pattern.Automaton
import QueryLayer.Config.Document
import QueryLayer.Json.Text
import QueryLayer.PublicError
import QueryLayer.Proofs.PipelineRuns
import QueryLayer.Proofs.QueryCheck
import QueryLayer.Proofs.DispatchGate
import QueryLayer.Proofs.DottedText
import QueryLayer.Proofs.StepReferences
import QueryLayer.Proofs.WellFormedReferences
import QueryLayer.Proofs.CatalogHistory
import QueryLayer.Proofs.ContextHistory
import QueryLayer.Proofs.ReachableQueries
import QueryLayer.Proofs.PipelineComposition
import QueryLayer.Proofs.ChainReading
import QueryLayer.Proofs.CheckAhead
import QueryLayer.Proofs.RecordSaving
import QueryLayer.Proofs.ChainSteps
import QueryLayer.Proofs.HiddenDefault
import QueryLayer.Proofs.AdapterSelection
import QueryLayer.Proofs.NamingQueries
import QueryLayer.Proofs.DefineOnce
import QueryLayer.Proofs.LooseEquality
import QueryLayer.Proofs.SerializedCriteria
import QueryLayer.Proofs.DeclaredModels
import QueryLayer.Proofs.RecordShape
import QueryLayer.Proofs.StoredRecordHistory
import QueryLayer.Proofs.MemoryHistory
import QueryLayer.Proofs.NumericWidening
import QueryLayer.Proofs.ComparisonAlgebra
import QueryLayer.Proofs.OperatorNames
import QueryLayer.Proofs.AttributeHistory
import QueryLayer.Proofs.ReferenceGrammar
import QueryLayer.Proofs.RecordCheck
import QueryLayer.Proofs.AliasLookups
import QueryLayer.Proofs.DirtyTracking
import QueryLayer.Proofs.RecordLens
import QueryLayer.Proofs.DeclarationOrder
import QueryLayer.Proofs.ParameterIssues
import QueryLayer.Proofs.Terminals
import QueryLayer.Proofs.PredicateHistory
import QueryLayer.Proofs.Membership
import QueryLayer.Proofs.SharedCache
import QueryLayer.Proofs.ErrorWrapping
import QueryLayer.Proofs.FreshContext
