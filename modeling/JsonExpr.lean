import JsonExpr.Builtin.Arithmetic
import JsonExpr.Builtin.Chance
import JsonExpr.Builtin.Comparison
import JsonExpr.Builtin.Conditions
import JsonExpr.Builtin.Flow
import JsonExpr.Builtin.Iteration
import JsonExpr.Builtin.Objects
import JsonExpr.Builtin.Packs
import JsonExpr.Builtin.Patterns
import JsonExpr.Builtin.Reading
import JsonExpr.Builtin.Requirements
import JsonExpr.Builtin.Sequence
import JsonExpr.Builtin.Statistics
import JsonExpr.Builtin.Texts
import JsonExpr.Calendar
import JsonExpr.CommandLine.Command
import JsonExpr.CommandLine.Outcome
import JsonExpr.EditDistance
import JsonExpr.Engine.Basic
import JsonExpr.Engine.Middleware
import JsonExpr.Engine.Run
import JsonExpr.Engine.Validation
import JsonExpr.Expression
import JsonExpr.Failure
import JsonExpr.Fault
import JsonExpr.Main
import JsonExpr.Mode
import JsonExpr.Number.Arithmetic
import JsonExpr.Number.Basic
import JsonExpr.Number.Binary
import JsonExpr.Number.Decimal
import JsonExpr.Operation
import JsonExpr.Proofs.Builtin.Agreement
import JsonExpr.Proofs.Builtin.Clauses
import JsonExpr.Proofs.Builtin.Computing
import JsonExpr.Proofs.Builtin.Embedding
import JsonExpr.Proofs.Builtin.Expansions
import JsonExpr.Proofs.Builtin.Flattening
import JsonExpr.Proofs.Builtin.Forms
import JsonExpr.Proofs.Builtin.Fusion
import JsonExpr.Proofs.Builtin.Grouping
import JsonExpr.Proofs.Builtin.Limits
import JsonExpr.Proofs.Builtin.Modes
import JsonExpr.Proofs.Builtin.Ordinary
import JsonExpr.Proofs.Builtin.Resolving
import JsonExpr.Proofs.Builtin.Sorting
import JsonExpr.Proofs.CommandLine.Reporting
import JsonExpr.Proofs.Engine.Balance
import JsonExpr.Proofs.Engine.Bounds
import JsonExpr.Proofs.Engine.BuiltIn
import JsonExpr.Proofs.Engine.Calls
import JsonExpr.Proofs.Engine.Cases
import JsonExpr.Proofs.Engine.Closed
import JsonExpr.Proofs.Engine.Comparing
import JsonExpr.Proofs.Engine.Composition
import JsonExpr.Proofs.Engine.Embedding
import JsonExpr.Proofs.Engine.EscapedClauses
import JsonExpr.Proofs.Engine.Expansions
import JsonExpr.Proofs.Engine.FirstUnknown
import JsonExpr.Proofs.Engine.Firsts
import JsonExpr.Proofs.Engine.Flattening
import JsonExpr.Proofs.Engine.Fusion
import JsonExpr.Proofs.Engine.Grouping
import JsonExpr.Proofs.Engine.Levels
import JsonExpr.Proofs.Engine.Mentioned
import JsonExpr.Proofs.Engine.Merging
import JsonExpr.Proofs.Engine.Modes
import JsonExpr.Proofs.Engine.Negation
import JsonExpr.Proofs.Engine.Nesting
import JsonExpr.Proofs.Engine.Ordering
import JsonExpr.Proofs.Engine.Overlooked
import JsonExpr.Proofs.Engine.Patterns
import JsonExpr.Proofs.Engine.PlainConditions
import JsonExpr.Proofs.Engine.Precedence
import JsonExpr.Proofs.Engine.Reading
import JsonExpr.Proofs.Engine.Recording
import JsonExpr.Proofs.Engine.Replacing
import JsonExpr.Proofs.Engine.Reporting
import JsonExpr.Proofs.Engine.Reshaping
import JsonExpr.Proofs.Engine.Settling
import JsonExpr.Proofs.Engine.Sorting
import JsonExpr.Proofs.Engine.Spelling
import JsonExpr.Proofs.Engine.Splitting
import JsonExpr.Proofs.Engine.Substrings
import JsonExpr.Proofs.Engine.Template
import JsonExpr.Proofs.Engine.Texts
import JsonExpr.Proofs.Engine.Unwinding
import JsonExpr.Proofs.Engine.Validity
import JsonExpr.Proofs.Pattern.Expansion
import JsonExpr.Proofs.Pattern.Languages
import JsonExpr.Proofs.Pattern.Matching
import JsonExpr.Proofs.Pattern.Occurrences
import JsonExpr.Proofs.Pattern.Progress
import JsonExpr.Proofs.Pattern.Sets
import JsonExpr.Proofs.Pattern.Translation
import JsonExpr.Proofs.Run.Alike
import JsonExpr.Proofs.Run.Congruence
import JsonExpr.Proofs.Run.Filling
import JsonExpr.Proofs.Run.Searching
import JsonExpr.Proofs.Run.Steady
import JsonExpr.Proofs.Run.Yields
import JsonExpr.Proofs.Script.Within
import JsonExpr.Proofs.Settings.Document
import JsonExpr.Proofs.Settings.Section
import JsonExpr.Proofs.Text.EditLimit
import JsonExpr.Proofs.Text.EditRows
import JsonExpr.Proofs.Text.Edits
import JsonExpr.Proofs.Text.Pieces
import JsonExpr.Proofs.Text.Slices
import JsonExpr.Proofs.Text.Suggestion
import JsonExpr.Proofs.Value.Constant
import JsonExpr.Proofs.Value.Equality
import JsonExpr.Proofs.Value.Merging
import JsonExpr.Proofs.Value.Order
import JsonExpr.Proofs.Value.Part
import JsonExpr.Proofs.Value.Plug
import JsonExpr.Proofs.Value.Reading
import JsonExpr.Proofs.Value.Reshaping
import JsonExpr.Proofs.Value.Sorting
import JsonExpr.Proofs.Value.Wildcards
import JsonExpr.Regex.Basic
import JsonExpr.Regex.Charset
import JsonExpr.Regex.Flags
import JsonExpr.Regex.Lexeme
import JsonExpr.Regex.Matching
import JsonExpr.Regex.Replacement
import JsonExpr.Regex.Syntax
import JsonExpr.Script
import JsonExpr.Settings.Boolean
import JsonExpr.Settings.Document
import JsonExpr.Settings.Packs
import JsonExpr.Settings.Section
import JsonExpr.Suggestion
import JsonExpr.Text.Blank
import JsonExpr.Text.Case
import JsonExpr.Text.CaseVariant
import JsonExpr.Text.CodeRange
import JsonExpr.Text.Digit
import JsonExpr.Text.Identifier
import JsonExpr.Text.Integer
import JsonExpr.Text.Json
import JsonExpr.Text.JsonReader
import JsonExpr.Text.Parts
import JsonExpr.Text.Printable
import JsonExpr.Text.Quoted
import JsonExpr.Text.Word
import JsonExpr.Toml.Document
import JsonExpr.Toml.Element
import JsonExpr.Toml.Text
import JsonExpr.Value.Basic
import JsonExpr.Value.Equality
import JsonExpr.Value.Fields
import JsonExpr.Value.Order
import JsonExpr.Value.Path
import JsonExpr.Value.Sorting
import JsonExpr.Wildcard
