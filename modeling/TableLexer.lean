import TableLexer.Grammar.Entry
import TableLexer.Languages
import TableLexer.Lexer
import TableLexer.Table.Build
import TableLexer.Proofs.Regex.Inside
import TableLexer.Proofs.Text.Tiling
import TableLexer.Proofs.Run.Portion
import TableLexer.Proofs.Run.Step
import TableLexer.Proofs.Run.Trace
import TableLexer.Proofs.Run.Stream
import TableLexer.Proofs.Stream.Rewrite
import TableLexer.Proofs.Run.Renaming
import TableLexer.Proofs.Run.Fallback
import TableLexer.Proofs.Run.Nesting
import TableLexer.Proofs.Table.Stock
import TableLexer.Proofs.Grammar.Inline
import TableLexer.Proofs.Grammar.Reorder
import TableLexer.Proofs.Table.Inline
import TableLexer.Proofs.Table.Combination
import TableLexer.Proofs.Table.Validity
import TableLexer.Proofs.Table.Reorder
import TableLexer.Proofs.Table.Closure
import TableLexer.Proofs.Table.Sharing
import TableLexer.Proofs.Table.Faults
import TableLexer.Proofs.Run.Confined
import TableLexer.Proofs.Run.Delegation
import TableLexer.Proofs.Run.Steering
import TableLexer.Proofs.Run.Lockstep
import TableLexer.Proofs.Run.Memory
import TableLexer.Proofs.Run.Limits
import TableLexer.Proofs.Run.Shadow
import TableLexer.Proofs.Regex.Content
import TableLexer.Proofs.Run.Relexed
import TableLexer.Proofs.Run.Brisk
import TableLexer.Proofs.Run.Tame
import TableLexer.Proofs.Languages
import TableLexer.Proofs.Derived
import TableLexer.Proofs.Run.Groups
import TableLexer.Proofs.Run.Undo
import TableLexer.Proofs.Pattern.Settled
import TableLexer.Proofs.Unicode.Query
import TableLexer.Proofs.Regex.Taking
import TableLexer.Proofs.Regex.Escapes
import TableLexer.Proofs.Regex.Brackets
import TableLexer.Proofs.Regex.Tokens
import TableLexer.Proofs.Regex.Reader
import TableLexer.Proofs.Regex.Choice
import TableLexer.Proofs.Pattern.Pool
import TableLexer.Proofs.Pattern.Calls
import TableLexer.Proofs.Pattern.Reference
import TableLexer.Proofs.Pattern.Unambiguous
import TableLexer.Proofs.Pattern.WordSet
import TableLexer.Proofs.Pattern.WordPattern
import TableLexer.Proofs.Pattern.WordList
import TableLexer.Proofs.Regex.Refusal
import TableLexer.Proofs.Run.Single
import TableLexer.Proofs.Languages.Ceylon
import TableLexer.Proofs.Grammar.Inheritance
import TableLexer.Proofs.Stream.Coalesce
import TableLexer.Proofs.Source.Tabs
import TableLexer.Proofs.Source.Content
import TableLexer.Proofs.Kind
import TableLexer.Proofs.Run.Current
