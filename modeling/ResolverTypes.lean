import ResolverTypes.Command.Execution
import ResolverTypes.Config.Read
import ResolverTypes.DataModel.Catalog
import ResolverTypes.DataModel.Document
import ResolverTypes.Declaration.ReturnTypes
import ResolverTypes.Declaration.SchemaTypes
import ResolverTypes.Fact.Layout
import ResolverTypes.File.Disk
import ResolverTypes.File.Store
import ResolverTypes.Main
import ResolverTypes.Proofs.DataModel.Acceptance
import ResolverTypes.Proofs.DataModel.AttributeCursor
import ResolverTypes.Proofs.DataModel.CommentMark
import ResolverTypes.Proofs.DataModel.Documentation
import ResolverTypes.Proofs.DataModel.Locality
import ResolverTypes.Proofs.DataModel.Relation
import ResolverTypes.Proofs.DataModel.Splitting
import ResolverTypes.Proofs.Declaration.Comment
import ResolverTypes.Proofs.Declaration.Layout
import ResolverTypes.Proofs.Fact.History
import ResolverTypes.Proofs.Fact.Reconciliation
import ResolverTypes.Proofs.File.Exploration
import ResolverTypes.Proofs.PropertyKey
import ResolverTypes.Proofs.Reference
import ResolverTypes.Proofs.Rendering
import ResolverTypes.Proofs.Run.Declarations
import ResolverTypes.Proofs.Run.DryRun
import ResolverTypes.Proofs.Run.Effects
import ResolverTypes.Proofs.Run.ExactFields
import ResolverTypes.Proofs.Run.FunctionFacts
import ResolverTypes.Proofs.Run.Isolation
import ResolverTypes.Proofs.Run.Outputs
import ResolverTypes.Proofs.Schema.Kinds
import ResolverTypes.Proofs.Schema.Resolution
import ResolverTypes.Proofs.Schema.TypeRef
import ResolverTypes.Proofs.Scope
import ResolverTypes.Proofs.Service.Convention
import ResolverTypes.Proofs.Service.Ranking
import ResolverTypes.Proofs.Wrapper
import ResolverTypes.Run.Basic
import ResolverTypes.Schema.Basic
import ResolverTypes.Script.Exports
import ResolverTypes.Service.Declaration
