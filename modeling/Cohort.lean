import Cohort.Artifact.Loading
import Cohort.Artifact.Shape
import Cohort.Calendar
import Cohort.Catalogue
import Cohort.Command
import Cohort.Consistency
import Cohort.Decimal.Binary
import Cohort.Decimal.Layout
import Cohort.Decimal.Reader
import Cohort.Decimal.Shortest
import Cohort.Definition
import Cohort.Definition.Document
import Cohort.Dependency
import Cohort.Event
import Cohort.Exposure
import Cohort.Feed
import Cohort.Filter
import Cohort.Forced
import Cohort.Hash.Position
import Cohort.Hash.Sha1
import Cohort.Invocation
import Cohort.Json
import Cohort.Json.Decode
import Cohort.Json.Reader
import Cohort.Json.Writer
import Cohort.Main
import Cohort.Matrix
import Cohort.NameMap
import Cohort.Pattern.Atom
import Cohort.Pattern.CharSet
import Cohort.Pattern.Construct
import Cohort.Pattern.Engine
import Cohort.Pattern.Library
import Cohort.Pattern.PropertyTable
import Cohort.Pattern.Reader
import Cohort.Pattern.Syntax
import Cohort.Proofs.Artifact.RoundTrip
import Cohort.Proofs.Artifact.Shape
import Cohort.Proofs.Catalogue
import Cohort.Proofs.Command.Building
import Cohort.Proofs.Consistency
import Cohort.Proofs.Consistency.Acceptance
import Cohort.Proofs.Consistency.Restriction
import Cohort.Proofs.Consistency.WellFormed
import Cohort.Proofs.Decimal.Digits
import Cohort.Proofs.Decimal.Order
import Cohort.Proofs.Decimal.Rounding
import Cohort.Proofs.Definition.Document
import Cohort.Proofs.Definition.Hereditary
import Cohort.Proofs.Dependency.Broken
import Cohort.Proofs.Dependency.Chain
import Cohort.Proofs.Dependency.Closure
import Cohort.Proofs.Dependency.Exactness
import Cohort.Proofs.Dependency.Order
import Cohort.Proofs.Dependency.Servable
import Cohort.Proofs.Dependency.Walk
import Cohort.Proofs.Exposure
import Cohort.Proofs.Feed.History
import Cohort.Proofs.Feed.Polling
import Cohort.Proofs.Feed.Preparation
import Cohort.Proofs.Filter
import Cohort.Proofs.Forced.Elements
import Cohort.Proofs.Forced.Reading
import Cohort.Proofs.Hash.Separation
import Cohort.Proofs.Json.Decode
import Cohort.Proofs.Json.Hereditary
import Cohort.Proofs.Json.Lexing
import Cohort.Proofs.Json.Ordered
import Cohort.Proofs.Json.Proper
import Cohort.Proofs.Json.Written
import Cohort.Proofs.Matrix.Guards
import Cohort.Proofs.Names
import Cohort.Proofs.Pattern.Anchors
import Cohort.Proofs.Pattern.Constructs
import Cohort.Proofs.Pattern.Ending
import Cohort.Proofs.Pattern.Escapes
import Cohort.Proofs.Pattern.Lawful
import Cohort.Proofs.Pattern.Matching
import Cohort.Proofs.Pattern.Sets
import Cohort.Proofs.Pattern.WholeNames
import Cohort.Proofs.Resolution.Choices
import Cohort.Proofs.Resolution.Filtering
import Cohort.Proofs.Resolution.Forcing
import Cohort.Proofs.Resolution.LeastLive
import Cohort.Proofs.Resolution.Locality
import Cohort.Proofs.Resolution.Narrowing
import Cohort.Proofs.Rule.Calls
import Cohort.Proofs.Rule.Comparison
import Cohort.Proofs.Rule.Depth
import Cohort.Proofs.Rule.Depth.Attained
import Cohort.Proofs.Rule.Grammar.Completeness
import Cohort.Proofs.Rule.Grammar.Derivation
import Cohort.Proofs.Rule.Grammar.Soundness
import Cohort.Proofs.Rule.Grammar.Steps
import Cohort.Proofs.Rule.Knowledge
import Cohort.Proofs.Rule.KnownParts
import Cohort.Proofs.Rule.PartialAnalysis
import Cohort.Proofs.Rule.Rendering
import Cohort.Proofs.Rule.Skeletons
import Cohort.Proofs.Rule.Spelling
import Cohort.Proofs.Rule.Splitting
import Cohort.Proofs.Rule.Substrings
import Cohort.Proofs.Rule.Undefined
import Cohort.Proofs.Rule.Variables
import Cohort.Proofs.Rule.WholeNumbers
import Cohort.Proofs.Selection
import Cohort.Proofs.Selection.FirstMatch
import Cohort.Proofs.Selection.Hidden
import Cohort.Proofs.Selection.Outcome
import Cohort.Proofs.Selection.Parts
import Cohort.Proofs.Selection.Shares
import Cohort.Proofs.Selection.Verified
import Cohort.Proofs.Session
import Cohort.Proofs.Session.Caches
import Cohort.Proofs.Text.Blank
import Cohort.Proofs.Text.Offsets
import Cohort.Proofs.Text.Pieces
import Cohort.Proofs.Text.Runs
import Cohort.Proofs.Text.Search
import Cohort.Proofs.Version
import Cohort.Resolution
import Cohort.Rule.Cache
import Cohort.Rule.Error
import Cohort.Rule.Evaluation
import Cohort.Rule.Expr
import Cohort.Rule.Expr.Printer
import Cohort.Rule.Grammar
import Cohort.Rule.Lexer
import Cohort.Rule.Library
import Cohort.Rule.Library.Standard
import Cohort.Rule.Library.Strings
import Cohort.Rule.Operation
import Cohort.Rule.Partial
import Cohort.Rule.Run
import Cohort.Rule.Scope
import Cohort.Rule.Token
import Cohort.Rule.Truth
import Cohort.Selection
import Cohort.Session
import Cohort.Specification
import Cohort.Text.Case
import Cohort.Text.CaseTable
import Cohort.Text.Class
import Cohort.Text.PropertyTable
import Cohort.Text.Quoted
import Cohort.Text.Ranges
import Cohort.Value
import Cohort.Version
import Cohort.Wording
import Cohort.Yaml
import Cohort.Yaml.Reader
import Cohort.Yaml.Scalar
