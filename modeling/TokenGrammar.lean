import TokenGrammar.Found
import TokenGrammar.Grammar.Call
import TokenGrammar.Grammar.Parse
import TokenGrammar.Grammar.Rules
import TokenGrammar.Grammar.Workspace
import TokenGrammar.Json.Basic
import TokenGrammar.Json.Decode
import TokenGrammar.Json.Number
import TokenGrammar.Json.Printer
import TokenGrammar.Json.Quoted
import TokenGrammar.Json.Reader
import TokenGrammar.Matcher.Basic
import TokenGrammar.Matcher.Event
import TokenGrammar.Matcher.Recognizer
import TokenGrammar.Node.Basic
import TokenGrammar.Node.Document
import TokenGrammar.Node.Outline
import TokenGrammar.Node.Production
import TokenGrammar.Node.Shape
import TokenGrammar.Number.Binary64
import TokenGrammar.Number.Binary64.Arithmetic
import TokenGrammar.Number.Decimal
import TokenGrammar.Pattern
import TokenGrammar.Pattern.Automaton.Basic
import TokenGrammar.Pattern.Automaton.Compile
import TokenGrammar.Pattern.Automaton.Memo
import TokenGrammar.Pattern.Automaton.Words
import TokenGrammar.Pattern.Brackets
import TokenGrammar.Pattern.Class
import TokenGrammar.Pattern.Cursor
import TokenGrammar.Pattern.Escape
import TokenGrammar.Pattern.Expr
import TokenGrammar.Pattern.Fault
import TokenGrammar.Pattern.Lead
import TokenGrammar.Pattern.Lead.Search
import TokenGrammar.Pattern.Meaning
import TokenGrammar.Pattern.Piece
import TokenGrammar.Pattern.Reader
import TokenGrammar.Pattern.Regex
import TokenGrammar.Pattern.Simple
import TokenGrammar.Settings.Basic
import TokenGrammar.Settings.Decode
import TokenGrammar.Settings.Document
import TokenGrammar.Settings.KeyPath
import TokenGrammar.Settings.Layers
import TokenGrammar.Settings.Value
import TokenGrammar.Shape
import TokenGrammar.Terminal
import TokenGrammar.Text.Age
import TokenGrammar.Text.Category
import TokenGrammar.Text.CharSet
import TokenGrammar.Text.Fields
import TokenGrammar.Text.Folding
import TokenGrammar.Text.Lowercase
import TokenGrammar.Text.Newer
import TokenGrammar.Text.Property
import TokenGrammar.Text.PropertyName
import TokenGrammar.Text.Quoted
import TokenGrammar.Text.Script
import TokenGrammar.Text.Segmentation
import TokenGrammar.Text.Utf8
import TokenGrammar.Token
import TokenGrammar.Token.Document
import TokenGrammar.Toml.Document
import TokenGrammar.Toml.Moment
import TokenGrammar.Toml.Number
import TokenGrammar.Toml.Text
import TokenGrammar.Toml.Tree
import TokenGrammar.Toml.Value
import TokenGrammar.Proofs.Answers
import TokenGrammar.Proofs.Matches
import TokenGrammar.Proofs.Consumption
import TokenGrammar.Proofs.Derivations
import TokenGrammar.Proofs.Positions
import TokenGrammar.Proofs.Fuel
import TokenGrammar.Proofs.Links
import TokenGrammar.Proofs.LeftEnds
import TokenGrammar.Proofs.Termination
import TokenGrammar.Proofs.EmptyMatches
import TokenGrammar.Proofs.Variants
import TokenGrammar.Proofs.Ownership
import TokenGrammar.Proofs.History
import TokenGrammar.Proofs.Lockstep
import TokenGrammar.Proofs.Inlining
import TokenGrammar.Proofs.Caps
import TokenGrammar.Proofs.Groups
import TokenGrammar.Proofs.Outcomes
import TokenGrammar.Proofs.Cycles
import TokenGrammar.Proofs.Sealing
import TokenGrammar.Proofs.Counting
import TokenGrammar.Proofs.Lifecycle
import TokenGrammar.Proofs.Stability
import TokenGrammar.Proofs.Registry
import TokenGrammar.Proofs.Splicing
import TokenGrammar.Proofs.JsonText
import TokenGrammar.Proofs.Rendering
import TokenGrammar.Proofs.Iterations
import TokenGrammar.Proofs.Repetitions
import TokenGrammar.Proofs.Rests
import TokenGrammar.Proofs.OutlineLines
import TokenGrammar.Proofs.OutlineReading
import TokenGrammar.Proofs.Building
import TokenGrammar.Proofs.RightRecursion
import TokenGrammar.Proofs.Accounting
import TokenGrammar.Proofs.Layering
