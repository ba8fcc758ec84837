import QueryGateway.Document.Fields
import QueryGateway.Document.Issue
import QueryGateway.Document.Scalar
import QueryGateway.Json.Basic
import QueryGateway.Json.Reader
import QueryGateway.Json.Writer
import QueryGateway.Number.Binary64
import QueryGateway.Number.Decimal
import QueryGateway.Number.Factored
import QueryGateway.Number.Numeral
import QueryGateway.Number.Reading
import QueryGateway.Number.Shortest
import QueryGateway.Proofs.BoundQueries
import QueryGateway.Proofs.CatalogCalls
import QueryGateway.Proofs.CatalogListing
import QueryGateway.Proofs.ChangedQueries
import QueryGateway.Proofs.CheckOutFailures
import QueryGateway.Proofs.CheckOuts
import QueryGateway.Proofs.Comments
import QueryGateway.Proofs.ConnectionBalance
import QueryGateway.Proofs.DocumentFronts
import QueryGateway.Proofs.DocumentSteps
import QueryGateway.Proofs.DocumentTokens
import QueryGateway.Proofs.DumpedFilters
import QueryGateway.Proofs.DumpedQueries
import QueryGateway.Proofs.DumpedRecords
import QueryGateway.Proofs.EmptyNames
import QueryGateway.Proofs.EscapedText
import QueryGateway.Proofs.FilterForms
import QueryGateway.Proofs.FilterReading
import QueryGateway.Proofs.FilterShape
import QueryGateway.Proofs.FilterTree
import QueryGateway.Proofs.FloatValues
import QueryGateway.Proofs.ForeseenFaults
import QueryGateway.Proofs.Gathering
import QueryGateway.Proofs.Interventions
import QueryGateway.Proofs.LexemePositions
import QueryGateway.Proofs.LexemeSeams
import QueryGateway.Proofs.LimitSearch
import QueryGateway.Proofs.LiteralLeaves
import QueryGateway.Proofs.LiteralPieces
import QueryGateway.Proofs.LongIntegers
import QueryGateway.Proofs.MappingCells
import QueryGateway.Proofs.MaskedSessions
import QueryGateway.Proofs.MaskedSources
import QueryGateway.Proofs.NamedValues
import QueryGateway.Proofs.NumberParts
import QueryGateway.Proofs.NumberText
import QueryGateway.Proofs.OperandReading
import QueryGateway.Proofs.ParameterNames
import QueryGateway.Proofs.PoolBooks
import QueryGateway.Proofs.PoolDeeds
import QueryGateway.Proofs.PoolHistory
import QueryGateway.Proofs.PoolOperations
import QueryGateway.Proofs.PoolRegistry
import QueryGateway.Proofs.PoolSetups
import QueryGateway.Proofs.PreviewedQueries
import QueryGateway.Proofs.Probes
import QueryGateway.Proofs.QueryParts
import QueryGateway.Proofs.QuotedTokens
import QueryGateway.Proofs.ReadOnlyGuard
import QueryGateway.Proofs.ReadingGrammar
import QueryGateway.Proofs.References
import QueryGateway.Proofs.RegisteredPools
import QueryGateway.Proofs.RepeatedCap
import QueryGateway.Proofs.ReportedDocuments
import QueryGateway.Proofs.RequestChecks
import QueryGateway.Proofs.ResultCells
import QueryGateway.Proofs.RowBudget
import QueryGateway.Proofs.RowCap
import QueryGateway.Proofs.SentStatements
import QueryGateway.Proofs.ServerReleases
import QueryGateway.Proofs.SessionMoves
import QueryGateway.Proofs.SettledQueries
import QueryGateway.Proofs.Skeleton
import QueryGateway.Proofs.StatementEnds
import QueryGateway.Proofs.StatementLines
import QueryGateway.Proofs.Substitution
import QueryGateway.Proofs.TakenPieces
import QueryGateway.Proofs.TidyPieces
import QueryGateway.Proofs.TidyRendering
import QueryGateway.Proofs.TokenGrammar
import QueryGateway.Proofs.TokenPatterns
import QueryGateway.Proofs.Tokens
import QueryGateway.Proofs.TwoDialects
import QueryGateway.Proofs.UniqueCuts
import QueryGateway.Proofs.WellFormedQueries
import QueryGateway.Proofs.WrittenDocuments
import QueryGateway.Proofs.WrittenPieces
import QueryGateway.Query.Basic
import QueryGateway.Query.Compile
import QueryGateway.Query.Document
import QueryGateway.Query.Dump
import QueryGateway.Query.Fragment
import QueryGateway.Query.Reader
import QueryGateway.Query.Rendering
import QueryGateway.Query.Validation
import QueryGateway.Result.Basic
import QueryGateway.Result.Document
import QueryGateway.Session.CheckOut
import QueryGateway.Session.Event
import QueryGateway.Session.Gateway
import QueryGateway.Session.History
import QueryGateway.Session.Intervention
import QueryGateway.Session.Listing
import QueryGateway.Session.Pool
import QueryGateway.Session.Probe
import QueryGateway.Session.Query
import QueryGateway.Session.Server
import QueryGateway.Session.Status
import QueryGateway.Settings.Basic
import QueryGateway.Settings.Dotenv
import QueryGateway.Settings.Environment
import QueryGateway.Source.Address
import QueryGateway.Source.Basic
import QueryGateway.Source.Connection
import QueryGateway.Source.Reader
import QueryGateway.Sql.Dialect
import QueryGateway.Sql.Lexeme
import QueryGateway.Sql.Literal
import QueryGateway.Sql.Pattern
import QueryGateway.Sql.Piece
import QueryGateway.Sql.Placeholder
import QueryGateway.Sql.Quote
import QueryGateway.Sql.ReadOnly
import QueryGateway.Sql.Registry
import QueryGateway.Sql.RowCap
import QueryGateway.Sql.ServerVersion
import QueryGateway.Sql.TypeName
import QueryGateway.Text.Blank
import QueryGateway.Text.CodeRange
import QueryGateway.Text.Digit
import QueryGateway.Text.Encoding
import QueryGateway.Text.Hex
import QueryGateway.Text.Printable
import QueryGateway.Text.Quoted
import QueryGateway.Text.Utf8
import QueryGateway.Text.Word
import QueryGateway.Value.Basic
import QueryGateway.Value.Cell
import QueryGateway.Value.Display
import QueryGateway.Value.Temporal
