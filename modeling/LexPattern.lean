import LexPattern.CharClass
import LexPattern.Text.Position
import LexPattern.Text.Utf8
import LexPattern.Text.Blank
import LexPattern.Text.Quoted
import LexPattern.Token.Lexer
import LexPattern.Surface.Parser
import LexPattern.Name.Index
import LexPattern.Core.Lowering
import LexPattern.Automaton.Nfa
import LexPattern.Automaton.Dfa
import LexPattern.Automaton.Subset
import LexPattern.Automaton.Minimal
import LexPattern.Automaton.Product
import LexPattern.Automaton.Shortest
import LexPattern.Automaton.Dot
import LexPattern.Compiler.Basic
import LexPattern.Document.Decimal
import LexPattern.Document.Scalar
import LexPattern.Rules.Check
import LexPattern.Main
import LexPattern.Proofs.Search
import LexPattern.Proofs.SortedList
import LexPattern.Proofs.Scalar
import LexPattern.Proofs.CharClass
import LexPattern.Proofs.Interval.Normal
import LexPattern.Proofs.Interval.Algebra
import LexPattern.Proofs.Interval.Program
import LexPattern.Proofs.Interval.Laws
import LexPattern.Proofs.Core.Language
import LexPattern.Proofs.Core.Meaning
import LexPattern.Proofs.Core.WellFormed
import LexPattern.Proofs.Core.Refusals
import LexPattern.Proofs.Text.Utf8
import LexPattern.Proofs.Text.Digits
import LexPattern.Proofs.Text.Quoted
import LexPattern.Proofs.Token.Places
import LexPattern.Proofs.Token.Brackets
import LexPattern.Proofs.Token.Scanning
import LexPattern.Proofs.Token.Lexemes
import LexPattern.Proofs.Token.Marks
import LexPattern.Proofs.Surface.Natural
import LexPattern.Proofs.Surface.Grammar
import LexPattern.Proofs.Surface.Reading
import LexPattern.Proofs.Surface.Derivation
import LexPattern.Proofs.Surface.Locations
import LexPattern.Proofs.Surface.Nesting
import LexPattern.Proofs.Surface.Payloads
import LexPattern.Proofs.Surface.Slices
import LexPattern.Proofs.Surface.Descent
import LexPattern.Proofs.Surface.Tracking
import LexPattern.Proofs.Surface.Agreement
import LexPattern.Proofs.Core.ClassNotation
import LexPattern.Proofs.Core.Sizes
import LexPattern.Proofs.Core.Readable
import LexPattern.Proofs.Automaton.Alphabet
import LexPattern.Proofs.Grouping
import LexPattern.Proofs.Automaton.Walk
import LexPattern.Proofs.Automaton.Piece
import LexPattern.Proofs.Automaton.Construction
import LexPattern.Proofs.Automaton.Allocation
import LexPattern.Proofs.Automaton.Dfa
import LexPattern.Proofs.Automaton.Exploration
import LexPattern.Proofs.Automaton.LeastText
import LexPattern.Proofs.Automaton.BreadthFirst
import LexPattern.Proofs.Automaton.Determinisation
import LexPattern.Proofs.Automaton.Blocks
import LexPattern.Proofs.Automaton.Refinement
import LexPattern.Proofs.Automaton.Residual
import LexPattern.Proofs.Automaton.Shortest
import LexPattern.Proofs.Automaton.Product
import LexPattern.Proofs.Automaton.Minimality
import LexPattern.Proofs.Automaton.Canonical
import LexPattern.Proofs.Automaton.Recognition
import LexPattern.Proofs.Automaton.Subsets
import LexPattern.Proofs.Automaton.Representation
import LexPattern.Proofs.Automaton.Labels
import LexPattern.Proofs.Compiler.Stages
import LexPattern.Proofs.Compiler.Overlap
import LexPattern.Proofs.Compiler.Rendering
import LexPattern.Proofs.Compiler.Memory
import LexPattern.Proofs.Compiler.Recency
import LexPattern.Proofs.Rules.Check
import LexPattern.Proofs.Surface.StrayBytes
import LexPattern.Proofs.Automaton.Drawing
import LexPattern.Proofs.Surface.Counts
import LexPattern.Proofs.Core.Repetition
import LexPattern.Proofs.Compiler.Quotation
import LexPattern.Proofs.Name.Syllables
import LexPattern.Proofs.Automaton.Worklist
import LexPattern.Proofs.Automaton.Chain
