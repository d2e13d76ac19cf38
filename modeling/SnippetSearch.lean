import SnippetSearch.Text.Basic
import SnippetSearch.Text.Lines
import SnippetSearch.Text.WordRanges
import SnippetSearch.Text.HiddenRanges
import SnippetSearch.Text.CaseRanges
import SnippetSearch.Text.Word
import SnippetSearch.Text.Case
import SnippetSearch.Text.Quoted
import SnippetSearch.Text.Integer
import SnippetSearch.Text.Encoding
import SnippetSearch.Chunk
import SnippetSearch.CodeLine
import SnippetSearch.Glob
import SnippetSearch.IgnoreFilter
import SnippetSearch.Scope
import SnippetSearch.Decimal
import SnippetSearch.Similarity
import SnippetSearch.Ranking
import SnippetSearch.Json.Basic
import SnippetSearch.Json.Reader
import SnippetSearch.Json.Printer
import SnippetSearch.StableSort
import SnippetSearch.FileTree.Basic
import SnippetSearch.FileTree.Walk
import SnippetSearch.FileTree.Listing
import SnippetSearch.Environment
import SnippetSearch.Configuration
import SnippetSearch.Machine
import SnippetSearch.Settings
import SnippetSearch.Catalog
import SnippetSearch.Embedding
import SnippetSearch.Provider
import SnippetSearch.Surroundings
import SnippetSearch.Index.Basic
import SnippetSearch.Index.Visit
import SnippetSearch.Index.Run
import SnippetSearch.SearchResult
import SnippetSearch.Engine.Basic
import SnippetSearch.Engine.Search
import SnippetSearch.Report
import SnippetSearch.Command.Options
import SnippetSearch.Command.Basic
import SnippetSearch.Command.Run
import SnippetSearch.Server.Request
import SnippetSearch.Server.Basic
import SnippetSearch.Snapshot
import SnippetSearch.Main
import SnippetSearch.Text.EncodingForm
import SnippetSearch.Proofs.Text.Lines
import SnippetSearch.Proofs.Chunk.Progress
import SnippetSearch.Proofs.Chunk.Coverage
import SnippetSearch.Proofs.Chunk.SplitPoints
import SnippetSearch.Proofs.Index.Candidates
import SnippetSearch.Proofs.Index.Journal
import SnippetSearch.Proofs.Index.Visits
import SnippetSearch.Proofs.Index.Repetition
import SnippetSearch.Proofs.Index.Readings
import SnippetSearch.Proofs.Index.History
import SnippetSearch.Proofs.Engine.Transparency
import SnippetSearch.Proofs.Engine.Journal
import SnippetSearch.Proofs.Glob.Language
import SnippetSearch.Proofs.Ranking.Scores
import SnippetSearch.Proofs.Scope.Descent
import SnippetSearch.Proofs.Engine.Outcome
import SnippetSearch.Proofs.Engine.Sessions
import SnippetSearch.Proofs.Engine.Dimensions
import SnippetSearch.Proofs.Engine.Requests
import SnippetSearch.Proofs.Index.Batches
import SnippetSearch.Proofs.Index.Encodings
import SnippetSearch.Proofs.FileTree.Listing
import SnippetSearch.Proofs.FileTree.Settling
import SnippetSearch.Proofs.Catalog.Boundary
import SnippetSearch.Proofs.FileTree.Resolved
import SnippetSearch.Proofs.Sorting.Order
import SnippetSearch.Proofs.Ranking.ScoreOrder
import SnippetSearch.Proofs.Ranking.Selection
import SnippetSearch.Proofs.Catalog.Order
import SnippetSearch.Proofs.Engine.Setup
import SnippetSearch.Proofs.Server.Exchanges
import SnippetSearch.Proofs.Server.LifeCycle
import SnippetSearch.Proofs.Json.Strings
import SnippetSearch.Proofs.Text.Numerals
import SnippetSearch.Proofs.Decimal.Binary
import SnippetSearch.Proofs.Json.Numbers
import SnippetSearch.Proofs.Json.Steps
import SnippetSearch.Proofs.Json.Spelling
import SnippetSearch.Proofs.Json.RoundTrip
import SnippetSearch.Proofs.Json.Floats
import SnippetSearch.Proofs.Json.Results
import SnippetSearch.Proofs.Text.Ascii
import SnippetSearch.Proofs.Server.Orders
import SnippetSearch.Proofs.Command.Arguments
import SnippetSearch.Proofs.Command.FrontEnds
import SnippetSearch.Proofs.CodeLine.Decision
import SnippetSearch.Proofs.Glob.Components
import SnippetSearch.Proofs.Index.Summary
import SnippetSearch.Proofs.Index.Failures
import SnippetSearch.Proofs.Chunk.Extension
import SnippetSearch.Proofs.Scope.Comments
import SnippetSearch.Proofs.CodeLine.Comments
import SnippetSearch.Proofs.Engine.Provenance
import SnippetSearch.Proofs.Engine.Results
import SnippetSearch.Proofs.Path.Ways
import SnippetSearch.Proofs.FileTree.Unlinked
import SnippetSearch.Proofs.Catalog.Safety
import SnippetSearch.Proofs.Glob.Styles
import SnippetSearch.Proofs.Glob.FileNames
import SnippetSearch.Proofs.Scope.TypeDeclarations
import SnippetSearch.Proofs.Chunk.Repetition
import SnippetSearch.Proofs.Index.RepeatedWindows
import SnippetSearch.Proofs.Scope.Names
import SnippetSearch.Proofs.Settings.Patterns
import SnippetSearch.Proofs.Settings.Acceptance
