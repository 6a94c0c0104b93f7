import LexPattern.Scalar
import LexPattern.Text.Position

namespace LexPattern.Surface

open Text (Span)

inductive GroupKind where
  | capture
  | named (name : String)
  | nonCapture
  | atomic
  | lookahead
  | negativeLookahead
  | lookbehind
  | negativeLookbehind
  | options (flags : String)
deriving DecidableEq, Repr

def GroupKind.label : GroupKind → String
  | capture => "capture"
  | named _ => "named capture"
  | nonCapture => "non-capture"
  | atomic => "atomic"
  | lookahead => "lookahead"
  | negativeLookahead => "negative lookahead"
  | lookbehind => "lookbehind"
  | negativeLookbehind => "negative lookbehind"
  | options _ => "options"

inductive Greed where
  | eager
  | reluctant
  | possessive
deriving DecidableEq, Repr

-- A repetition count as written; absent when its digits exceed a signed 64-bit integer.
abbrev Count := Option Int

inductive Amount where
  | zeroOrMore
  | oneOrMore
  | zeroOrOne
  | exactly (n : Count)
  | atLeast (n : Count)
  | atMost (n : Count)
  | between (n m : Count)
deriving DecidableEq, Repr

inductive AtomKind where
  | char (c : CodePoint)
  | scalar (c : CodePoint)
  | scalarSequence (cs : List CodePoint)
  | property (name : String)
  | escaped (c : CodePoint)
  | keyboardControl (c : CodePoint)
  | keyboardMeta (c : CodePoint)
  | keyboardMetaControl (c : CodePoint)
  | namedCharacter (name : String)
  | dot
  | startOfLine
  | endOfLine
  | backreference (name : String)
  | subpattern (name : String)
  | callout
  | backtrackingDirective
  | changeMatchingOptions (flags : String)
  | builtinClass
  | assertion
  | invalid
deriving DecidableEq, Repr

structure Atom where
  span : Span
  kind : AtomKind
  text : String
deriving DecidableEq, Repr

inductive SetOp where
  | subtraction
  | intersection
  | symmetricDifference
deriving DecidableEq, Repr

def SetOp.label : SetOp → String
  | subtraction => "--"
  | intersection => "&&"
  | symmetricDifference => "~~"

inductive Member where
  | customClass (span : Span) (inverted : Bool) (members : List Member)
  | range (span : Span) (lo hi : Atom)
  | atom (a : Atom)
  | quote (span : Span) (literal : String)
  | trivia (span : Span) (text : String)
  | setOperation (span : Span) (lhs : List Member) (op : SetOp) (rhs : List Member)

def Member.span : Member → Span
  | customClass span _ _ => span
  | range span _ _ => span
  | atom a => a.span
  | quote span _ => span
  | trivia span _ => span
  | setOperation span _ _ _ => span

inductive Node where
  | alternation (span : Span) (branches : List Node)
  | concatenation (span : Span) (items : List Node)
  | group (span : Span) (kind : GroupKind) (child : Node)
  | quantification (span : Span) (amount : Amount) (greed : Greed) (child : Node)
  | quote (span : Span) (literal : String)
  | trivia (span : Span) (text : String)
  | empty (span : Span)
  | atom (a : Atom)
  | customClass (span : Span) (inverted : Bool) (members : List Member)
  | conditional (span : Span) (condition : String) (branches : Node)
  | absent (span : Span) (child : Node)
  | interpolation (span : Span) (text : String)

def Node.span : Node → Span
  | alternation span _ => span
  | concatenation span _ => span
  | group span _ _ => span
  | quantification span _ _ _ => span
  | quote span _ => span
  | trivia span _ => span
  | empty span => span
  | atom a => a.span
  | customClass span _ _ => span
  | conditional span _ _ => span
  | absent span _ => span
  | interpolation span _ => span

end LexPattern.Surface
