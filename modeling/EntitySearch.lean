import EntitySearch.Codec.Change
import EntitySearch.Codec.Config
import EntitySearch.Codec.Dataset
import EntitySearch.Codec.Document
import EntitySearch.Codec.Job
import EntitySearch.Codec.Query
import EntitySearch.Codec.Schema
import EntitySearch.CommandLine.Display
import EntitySearch.CommandLine.Files
import EntitySearch.CommandLine.Grammar
import EntitySearch.CommandLine.Invocation
import EntitySearch.CommandLine.Report
import EntitySearch.CommandLine.Run
import EntitySearch.Config
import EntitySearch.Data.Distinct
import EntitySearch.Data.Lexicographic
import EntitySearch.Data.SortedMap
import EntitySearch.Dataset.Basic
import EntitySearch.Dataset.Loaded
import EntitySearch.Decimal.Binary64
import EntitySearch.Decimal.Shortest
import EntitySearch.Error
import EntitySearch.Index.Document
import EntitySearch.Index.Indexer
import EntitySearch.Index.Job
import EntitySearch.Index.Queue
import EntitySearch.Index.Watch
import EntitySearch.Json.Basic
import EntitySearch.Json.Fields
import EntitySearch.Json.Reader
import EntitySearch.Json.Scalar
import EntitySearch.Json.Shape
import EntitySearch.Json.Skip
import EntitySearch.Json.Writer
import EntitySearch.Main
import EntitySearch.Query.Filter
import EntitySearch.Query.Predicate
import EntitySearch.Query.Scope
import EntitySearch.Query.Term
import EntitySearch.Query.Tree
import EntitySearch.Schema.Catalog
import EntitySearch.Schema.EntityType
import EntitySearch.Schema.Field
import EntitySearch.Schema.Link
import EntitySearch.Schema.Registry
import EntitySearch.Schema.Timestamp
import EntitySearch.Schema.TypeName
import EntitySearch.Schema.Uuid
import EntitySearch.Schema.Value
import EntitySearch.Search.Cache
import EntitySearch.Search.Engine
import EntitySearch.Search.Grants
import EntitySearch.Search.Hits
import EntitySearch.Search.Resolve
import EntitySearch.Search.SearchIndex
import EntitySearch.Service.Basic
import EntitySearch.Service.Faults
import EntitySearch.Store.Basic
import EntitySearch.Store.Change
import EntitySearch.Store.View
import EntitySearch.Store.Write
import EntitySearch.Text.LetterCase
import EntitySearch.Text.Lowercase
import EntitySearch.Text.Quoted
import EntitySearch.Text.Space
import EntitySearch.Text.Unprintable
import EntitySearch.Proofs.Data.Fallible
import EntitySearch.Proofs.Catalog.Declared
import EntitySearch.Proofs.Catalog.Junctions
import EntitySearch.Proofs.Catalog.Calls
import EntitySearch.Proofs.Catalog.Paths
import EntitySearch.Proofs.Registry.Orderly
import EntitySearch.Proofs.Registry.Names
import EntitySearch.Proofs.Store.Writes
import EntitySearch.Proofs.Store.Relations
import EntitySearch.Proofs.Store.Walk
import EntitySearch.Proofs.Store.Frames
import EntitySearch.Proofs.Store.Growth
import EntitySearch.Proofs.Store.Integrity
import EntitySearch.Proofs.Store.References
import EntitySearch.Proofs.Store.Sharing
import EntitySearch.Proofs.Store.LinkEvents
import EntitySearch.Proofs.Store.InPlace
import EntitySearch.Proofs.Index.Building
import EntitySearch.Proofs.Index.Exclusions
import EntitySearch.Proofs.Index.Watched
import EntitySearch.Proofs.Index.Jobs
import EntitySearch.Proofs.Index.Previews
import EntitySearch.Proofs.Index.Tracking
import EntitySearch.Proofs.Index.Effects
import EntitySearch.Proofs.Index.StandIns
import EntitySearch.Proofs.Index.Settling
import EntitySearch.Proofs.Index.Coherence
import EntitySearch.Proofs.Index.KeyMoves
import EntitySearch.Proofs.Index.Backlog
import EntitySearch.Proofs.Index.Recording
import EntitySearch.Proofs.Index.Workers
import EntitySearch.Proofs.Index.Concerned
import EntitySearch.Proofs.Index.WaysBack
import EntitySearch.Proofs.Index.Accessors
import EntitySearch.Proofs.Index.Rebuilding
import EntitySearch.Proofs.Index.Assurance
import EntitySearch.Proofs.Service.Following
import EntitySearch.Proofs.Service.KeyMoves
import EntitySearch.Proofs.Service.Reordering
import EntitySearch.Proofs.Service.Visible
import EntitySearch.Proofs.Search.Survey
import EntitySearch.Proofs.Search.WellFormed
import EntitySearch.Proofs.Search.Answers
import EntitySearch.Proofs.Search.Lockstep
import EntitySearch.Proofs.Search.Masking
import EntitySearch.Proofs.Search.Denotation
import EntitySearch.Proofs.Query.Grammar
import EntitySearch.Proofs.Query.LastWins
import EntitySearch.Proofs.Query.ScopeNames
import EntitySearch.Proofs.Search.Formulas
import EntitySearch.Proofs.Query.Trimming
import EntitySearch.Proofs.Search.Cleaning
import EntitySearch.Proofs.Search.Matching
import EntitySearch.Proofs.Search.Reference
import EntitySearch.Proofs.Search.Permitted
import EntitySearch.Proofs.Search.Granting
import EntitySearch.Proofs.Search.Caching
import EntitySearch.Proofs.Search.Provenance
import EntitySearch.Proofs.Search.Transparency
import EntitySearch.Proofs.Search.Finding
import EntitySearch.Proofs.Query.Marks
import EntitySearch.Proofs.Query.Runs
import EntitySearch.Proofs.Query.Words
import EntitySearch.Proofs.Query.Spelling
import EntitySearch.Proofs.Query.Composing
import EntitySearch.Proofs.Query.Containing
import EntitySearch.Proofs.Search.Neutral
import EntitySearch.Proofs.Dataset.Schema
import EntitySearch.Proofs.Dataset.Storing
import EntitySearch.Proofs.Dataset.Relating
import EntitySearch.Proofs.Dataset.Loading
import EntitySearch.Proofs.Schema.FreeText
import EntitySearch.Proofs.Schema.Identifiers
import EntitySearch.Proofs.Schema.Calendar
import EntitySearch.Proofs.Schema.Instants
import EntitySearch.Proofs.Json.ReadBack
import EntitySearch.Proofs.Codec.Jobs
import EntitySearch.Proofs.Codec.Values
import EntitySearch.Proofs.Search.Spellings
import EntitySearch.Proofs.Store.Deletion
import EntitySearch.Proofs.Query.Dependence
