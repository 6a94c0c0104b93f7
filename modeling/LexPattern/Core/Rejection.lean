import LexPattern.Surface.Tree
import LexPattern.Text.Quoted

namespace LexPattern.Core

open Surface (GroupKind)
open Text (Span quote)

-- Unsupported constructs are beyond finite automata, unavailable ones are not implemented, invalid ones
-- mean nothing at all.
inductive Severity where
  | unsupported
  | unavailable
  | invalid
deriving DecidableEq, Repr

def Severity.label : Severity → String
  | unsupported => "unsupported"
  | unavailable => "unavailable"
  | invalid => "invalid"

inductive Reason where
  | tooDeep (limit : Nat)
  | conditional
  | absent
  | interpolation
  | optionsGroup (flags : String)
  | groupKind (kind : GroupKind)
  | possessive
  | badCount
  | badBounds (least most : Int)
  | scalarSequence
  | property (name : String)
  | builtinClass (text : String)
  | anchor (text : String)
  | assertion (text : String)
  | backreference
  | subpattern
  | callout
  | backtracking (text : String)
  | matchingOptions
  | invalidAtom (text : String)
  | metaKey (c : CodePoint)
  | controlKey (c : CodePoint)
  | unknownName (name : String)
  | longName (name : String) (size : Nat)
  | notOneCharacter (text : String)
  | notScalar (c : CodePoint)
  | rangeOrder (lo hi : String)
deriving DecidableEq, Repr

namespace Reason

def severity : Reason → Severity
  | conditional | absent | interpolation | groupKind _ | possessive | anchor _ | assertion _
  | backreference | backtracking _ => .unsupported
  | optionsGroup _ | scalarSequence | property _ | builtinClass _ | subpattern | callout
  | matchingOptions => .unavailable
  | tooDeep _ | badCount | badBounds _ _ | invalidAtom _ | metaKey _ | controlKey _ | unknownName _
  | longName _ _ | notOneCharacter _ | notScalar _ | rangeOrder _ _ => .invalid

def message : Reason → String
  | tooDeep limit => "pattern nests deeper than " ++ toString limit ++ " levels"
  | conditional => "conditionals"
  | absent => "absent functions"
  | interpolation => "interpolation"
  | optionsGroup flags => "matching options group (?" ++ flags ++ ":...)"
  | groupKind kind => kind.label ++ " groups"
  | possessive => "possessive quantifiers"
  | badCount => "repetition count is not a valid number"
  | badBounds least most =>
    "repetition range \x7b" ++ toString least ++ "," ++ toString most ++ "\x7d has min greater than max"
  | scalarSequence => "scalar sequences"
  | property name => "Unicode property " ++ quote name
  | builtinClass text => "builtin character class " ++ text
  | anchor text => "anchor " ++ text
  | assertion text => "assertion " ++ text
  | backreference => "backreferences"
  | subpattern => "subpattern calls"
  | callout => "callouts"
  | backtracking text => "backtracking directive " ++ text
  | matchingOptions => "changing matching options"
  | invalidAtom text => "invalid atom " ++ quote text
  | metaKey c => "meta key needs an ASCII character, got " ++ Text.quoteChar c.toChar
  | controlKey c => "control key needs an ASCII character, got " ++ Text.quoteChar c.toChar
  | unknownName name => "unknown character name " ++ quote name
  | longName name size =>
    "character name " ++ quote name ++ " denotes " ++ toString size ++ " characters"
  | notOneCharacter text => text ++ " does not denote a single character"
  | notScalar c => c.notate ++ " is not a Unicode scalar value"
  | rangeOrder lo hi => "range " ++ lo ++ "-" ++ hi ++ " is out of order"

end Reason

structure Rejection where
  span : Span
  reason : Reason
deriving DecidableEq, Repr

def Rejection.message (file : String) (r : Rejection) : String :=
  r.span.start.render file ++ ": " ++ r.reason.severity.label ++ ": " ++ r.reason.message

end LexPattern.Core
