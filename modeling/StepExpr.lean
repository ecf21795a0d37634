import StepExpr.Unicode.Property
import StepExpr.Regex.Valid
import StepExpr.Regex.Search
import StepExpr.Value.Convert
import StepExpr.Group.Matcher
import StepExpr.Template.Pattern
import StepExpr.Parameter.Registry
import StepExpr.Suggestion.Limit
import StepExpr.Expression.Basic
import StepExpr.Session
import StepExpr.Proofs.Template.Reading
import StepExpr.Proofs.Template.Parsing
import StepExpr.Proofs.Template.Tree
import StepExpr.Proofs.Template.Line
import StepExpr.Proofs.Template.Outcome
import StepExpr.Proofs.Template.Tiling
import StepExpr.Proofs.Regex.Language
import StepExpr.Proofs.Regex.Program
import StepExpr.Proofs.Unicode.CharSet
import StepExpr.Proofs.Regex.Simplify
import StepExpr.Proofs.Regex.Meaning
import StepExpr.Proofs.Regex.Reading
import StepExpr.Proofs.Regex.Escape
import StepExpr.Proofs.Regex.Class
import StepExpr.Proofs.Regex.Lexeme
import StepExpr.Proofs.Unicode.Name
import StepExpr.Proofs.Regex.Build
import StepExpr.Proofs.Regex.Piece
import StepExpr.Proofs.Regex.Sequence
import StepExpr.Proofs.Template.Pattern
import StepExpr.Proofs.Expression.Matching
import StepExpr.Proofs.Group.Nest
import StepExpr.Proofs.Group.Skip
import StepExpr.Proofs.Regex.Groups
import StepExpr.Proofs.Parameter.Indexes
import StepExpr.Proofs.Parameter.Registry
import StepExpr.Proofs.Group.Scan
import StepExpr.Proofs.Group.Slices
import StepExpr.Proofs.Template.Groups
import StepExpr.Proofs.Expression.Arguments
import StepExpr.Proofs.Suggestion.Combinations
import StepExpr.Proofs.Regex.Preference
import StepExpr.Proofs.Suggestion.Scan
import StepExpr.Proofs.Suggestion.Words
import StepExpr.Proofs.Suggestion.Source
import StepExpr.Proofs.Parameter.Lookup
import StepExpr.Proofs.Template.Sources
import StepExpr.Proofs.Expression.Regular
import StepExpr.Proofs.Expression.Validity
import StepExpr.Proofs.Template.Escapes
import StepExpr.Proofs.Template.Lexing
import StepExpr.Proofs.Template.Binding
import StepExpr.Proofs.Template.Parameters
import StepExpr.Proofs.Regex.Size
import StepExpr.Proofs.Expression.Literal
import StepExpr.Proofs.Expression.Pointing
import StepExpr.Proofs.Regex.Limit
import StepExpr.Proofs.Expression.Lone
import StepExpr.Proofs.Expression.Quoted
import StepExpr.Proofs.Expression.Captures
import StepExpr.Proofs.Group.Narrowing
import StepExpr.Proofs.Value.Numeral
import StepExpr.Proofs.Expression.Numeric
import StepExpr.Proofs.Suggestion.Earliest
import StepExpr.Proofs.Suggestion.Distinct
import StepExpr.Proofs.Suggestion.ArgumentNames
import StepExpr.Proofs.Expression.Naming
import StepExpr.Proofs.Expression.Hints
import StepExpr.Proofs.Value.Bounded
import StepExpr.Proofs.Group.InStep
import StepExpr.Proofs.Suggestion.Limit
import StepExpr.Proofs.Session
import StepExpr.Proofs.Template.Progress
