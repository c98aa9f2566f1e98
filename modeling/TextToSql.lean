import TextToSql.Api.Accounting
import TextToSql.Api.Http
import TextToSql.Api.Interleaving
import TextToSql.Api.Introspections
import TextToSql.Api.Progress
import TextToSql.Api.Service
import TextToSql.Application.BoundedResults
import TextToSql.Application.CaseInvariance
import TextToSql.Application.Container
import TextToSql.Application.DateBounds
import TextToSql.Application.Gate
import TextToSql.Application.Orchestrator
import TextToSql.Application.PromptAssembly
import TextToSql.Application.PromptStructure
import TextToSql.Application.RealSize
import TextToSql.Application.Repair
import TextToSql.Application.RepairFeedback
import TextToSql.Application.RepairLoop
import TextToSql.Application.Revalidation
import TextToSql.Application.RewriteMeasures
import TextToSql.Application.RolesAndTenants
import TextToSql.Application.SessionGuards
import TextToSql.Application.SessionProgress
import TextToSql.Application.Sessions
import TextToSql.Application.StructuralVerdict
import TextToSql.Application.TenantColumn
import TextToSql.Domain.Errors
import TextToSql.Domain.JoinGraph
import TextToSql.Domain.JsonValue
import TextToSql.Domain.LineBreaks
import TextToSql.Domain.Lines
import TextToSql.Domain.Models
import TextToSql.Domain.PlainCatalog
import TextToSql.Domain.PyFloat
import TextToSql.Domain.Schema
import TextToSql.Domain.Text
import TextToSql.Domain.Words
import TextToSql.Execution.Executor
import TextToSql.Infrastructure.ReferenceNames
import TextToSql.Infrastructure.ReferenceSchema
import TextToSql.Library.Backtracking
import TextToSql.Library.Ball
import TextToSql.Library.BreadthFirst
import TextToSql.Library.Buckets
import TextToSql.Library.Calendar
import TextToSql.Library.Dictionary
import TextToSql.Library.Distance
import TextToSql.Library.FirstChoice
import TextToSql.Library.Fragments
import TextToSql.Library.Frames
import TextToSql.Library.Levels
import TextToSql.Library.NamedSearch
import TextToSql.Library.OuterJoin
import TextToSql.Library.Processes
import TextToSql.Library.Relabel
import TextToSql.Library.Runs
import TextToSql.Library.Separated
import TextToSql.Library.Substitution
import TextToSql.Library.Tree
import TextToSql.Llm.Fake
import TextToSql.Llm.FakeCatalog
import TextToSql.Llm.Neutralization
import TextToSql.Llm.ParseResponse
import TextToSql.Llm.Prompt
import TextToSql.Llm.PromptFragments
import TextToSql.Llm.PromptHeaders
import TextToSql.Llm.PromptTables
import TextToSql.Llm.Retries
import TextToSql.Llm.RoleMarkers
import TextToSql.Llm.Sanitize
import TextToSql.Llm.TypedOutcome
import TextToSql.Observability.HistogramCounts
import TextToSql.Observability.LogRedaction
import TextToSql.Observability.Logging
import TextToSql.Observability.Metrics
import TextToSql.Retrieval.JoinPaths
import TextToSql.Retrieval.OrderIndependence
import TextToSql.Retrieval.Result
import TextToSql.Retrieval.Retriever
import TextToSql.Retrieval.ShortestPath
import TextToSql.Schema.Catalog
import TextToSql.Schema.Drift
import TextToSql.Schema.Freshness
import TextToSql.Schema.SemanticLayer
import TextToSql.Schema.Summary
import TextToSql.Security.Complexity
import TextToSql.Security.Cost
import TextToSql.Security.PlannerEstimate
import TextToSql.Security.Policy
import TextToSql.Security.References
import TextToSql.Security.ResolutionOrder
import TextToSql.Security.Rewriter
import TextToSql.Security.RewriterNodes
import TextToSql.Security.RewriterRelations
import TextToSql.Security.RewriterScopes
import TextToSql.Security.StructuralLimits
import TextToSql.Security.TenantScoping
import TextToSql.Semantic.CalendarTiling
import TextToSql.Semantic.DatePhrases
import TextToSql.Semantic.DateWindows
import TextToSql.Semantic.Dates
import TextToSql.Semantic.FirstPhrase
import TextToSql.Semantic.Models
import TextToSql.Semantic.WholeWords
import TextToSql.Semantics.ColumnConfidentiality
import TextToSql.Semantics.Evaluation
import TextToSql.Semantics.InnerJoins
import TextToSql.Semantics.IntegerEngine
import TextToSql.Semantics.ReadOrigins
import TextToSql.Semantics.Relation
import TextToSql.Semantics.RewriteTwice
import TextToSql.Semantics.RowBounds
import TextToSql.Semantics.Scope
import TextToSql.Semantics.Sites
import TextToSql.Semantics.TableAuthorization
import TextToSql.Semantics.TenantExactness
import TextToSql.Semantics.TenantGuards
import TextToSql.Semantics.TenantIsolation
import TextToSql.Semantics.TenantNoninterference
import TextToSql.Semantics.Truncation
import TextToSql.Semantics.VisibleRows
import TextToSql.Semantics.WellScoped
import TextToSql.Sql.CommentBackstop
import TextToSql.Sql.Expression
import TextToSql.Sql.Identifiers
import TextToSql.Sql.LetterCase
import TextToSql.Sql.Normalizer
import TextToSql.Sql.Parser
import TextToSql.Sql.ReadOnly
import TextToSql.Sql.RecordedColumns
import TextToSql.Sql.Skeleton
import TextToSql.Sql.Stars
import TextToSql.Sql.Tolerated
import TextToSql.Sql.Validator
