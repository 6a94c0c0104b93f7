import Mathlib
import LexPattern.Surface.Parser
import LexPattern.Proofs.Surface.Slices

namespace LexPattern.Surface.Descent

open Text (Position Span)
open Token (Kind Scanned)

inductive Trouble where
  | fault (f : Fault)
  | defect (d : Defect)

-- The tokens of a pattern, where it ends, and how deep it may nest. Where the brackets have to agree strictly, they have
-- to in the text of a condition as well.
structure Source where
  tokens : List Scanned
  eof : Position
  limit : Nat
  strict : Bool

structure Cursor where
  place : Nat
  -- Where the last token taken ended.
  stop : Position
  depth : Nat

abbrev Reader (α : Type) := StateT Cursor (ExceptT Trouble Option) α

section Steps

variable {α : Type}

def report (pos : Position) (cause : Cause) : Reader α := fun _ => some (.error (.fault ⟨pos,cause⟩))

def broken (d : Defect) : Reader α := fun _ => some (.error (.defect d))

def checked : Except Defect α → Reader α
  | .ok a => pure a
  | .error d => broken d

def symbolAt (src : Source) (place : Nat) : Reader (Option Scanned) :=
  match (src.tokens.map some ++ [none])[place]? with
  | some symbol => pure symbol
  | none => broken (.index place)

-- The lexer was inside as many brackets as there are around this place.
def agree (brackets : Nat) : Option Scanned → Reader Unit
  | none => pure ()
  | some m =>
    if m.outer.length = brackets ∧ m.mode = Token.modeAt brackets then pure () else broken (.context m brackets)

def current (src : Source) : Reader (Option Scanned) := fun c => symbolAt src c.place c

def advance (src : Source) : Reader (Option Scanned) := do
  match ← current src with
  | none => return none
  | some m => fun c => some (.ok (some m,{c with place := c.place + 1,stop := m.token.stop}))

def peek (src : Source) (brackets : Nat) : Reader (Option Scanned) := do
  let symbol ← current src
  agree brackets symbol
  return symbol

def next (src : Source) (brackets : Nat) : Reader (Option Scanned) := do
  let symbol ← advance src
  agree brackets symbol
  return symbol

def lookahead (src : Source) : Reader (Option Scanned) := fun c => symbolAt src (c.place + 1) c

def spanFrom (start : Position) : Reader Span := fun c => some (.ok (⟨start,c.stop⟩,c))

def enter (src : Source) (pos : Position) : Reader Unit := fun c =>
  if src.limit < c.depth + 1 then some (.error (.fault ⟨pos,.tooDeep src.limit⟩))
  else some (.ok ((),{c with depth := c.depth + 1}))

def leave : Reader Unit := fun c => some (.ok ((),{c with depth := c.depth - 1}))

end Steps

def kindOf (symbol : Option Scanned) : Option Kind := symbol.map (·.token.kind)

def posOf (src : Source) : Option Scanned → Position
  | none => src.eof
  | some m => m.token.pos

def atomAt (t : Token) (kind : AtomKind) : Reader Atom := do
  let span ← spanFrom t.pos
  return ⟨span,kind,t.text⟩

def atom (t : Token) : Reader Atom := do
  match ← checked (checkedAtomKind t) with
  | .ok kind => atomAt t kind
  | .error (.unexpected lexeme) => broken (.unexpected lexeme)
  | .error cause => report t.pos cause

def rangeEnd (t : Token) : Reader Atom := do
  match ← checked (checkedAtomKind t) with
  | .ok kind => atomAt t kind
  | .error _ => report t.pos (.invalidRangeEnd t.lexeme)

-- An atom, or a range from it on. A dash right before the end of an operand is a member of its own.
def rangeFrom (src : Source) (brackets : Nat) (t : Token) (lo : Atom) : Reader Member := do
  match kindOf (← peek src brackets) with
  | some .dash =>
    match kindOf (← lookahead src) with
    | none | some .classClose | some .setOp => return .atom lo
    | some _ =>
      let _ ← next src brackets
      match ← next src brackets with
      | none => broken (.unexpected [])
      | some last =>
        let hi ← rangeEnd last.token
        let span ← spanFrom t.pos
        return .range span lo hi
  | _ => return .atom lo

mutual

def Source.members (src : Source) (brackets : Nat) (opening : Token) (ms : List Member) : Reader (List Member) := do
  match kindOf (← peek src brackets) with
  | none => report opening.pos (.missingBracket opening.lexeme)
  | some .classClose | some .setOp => return ms
  | some _ =>
    let m ← src |>.member brackets
    src |>.members brackets opening (ms ++ [m])
partial_fixpoint

def Source.member (src : Source) (brackets : Nat) : Reader Member := do
  match ← next src brackets with
  | none => broken (.unexpected [])
  | some m =>
    let t := m.token
    match t.kind with
    | .classOpen =>
      match ← src |>.customClass (brackets + 1) m with
      | .customClass span inverted ms => return .customClass span inverted ms
      | _ => broken .form
    | .quote =>
      let span ← spanFrom t.pos
      return .quote span (quotedText t.lexeme)
    | .dash =>
      let a ← atomAt t (.char (.ofChar '-'))
      return .atom a
    | _ =>
      let lo ← atom t
      rangeFrom src brackets t lo
partial_fixpoint

def Source.operations (src : Source) (brackets : Nat) (opening : Token) (ms : List Member) : Reader (List Member) := do
  match kindOf (← peek src brackets) with
  | some .setOp =>
    match ← next src brackets with
    | none => broken .unexpectedEnd
    | some op =>
      let rhs ← src |>.members brackets opening []
      let start := match ms with
        | [] => op.token.pos
        | m :: _ => m.span.start
      let span ← spanFrom start
      src |>.operations brackets opening [.setOperation span ms (readSetOp op.token.lexeme) rhs]
  | _ => return ms
partial_fixpoint

-- A class inside so many brackets, its own included. The last token has to be the bracket that closes it: the lexer
-- takes off its stack what the opening bracket put there.
def Source.customClass (src : Source) (brackets : Nat) (opening : Scanned) : Reader Node := do
  enter src opening.token.pos
  let lhs ← src |>.members brackets opening.token []
  let ms ← src |>.operations brackets opening.token lhs
  let close ← next src brackets
  match close with
  | some m =>
    if m.token.kind = .classClose ∧ m.outer = opening.mode :: opening.outer then
      let span ← spanFrom opening.token.pos
      leave
      return .customClass span (opening.token.lexeme == ['[','^']) ms
    else broken (.skipped close)
  | none => broken (.skipped close)
partial_fixpoint

end

def Source.quantifiers (src : Source) (start : Position) (n : Node) : Reader Node := do
  match ← peek src 0 with
  | some m =>
    if m.token.kind = .quant ∨ m.token.kind = .count then
      let _ ← next src 0
      let (amount,modifier) ← checked (checkedAmount m.token.lexeme)
      let span ← spanFrom start
      src |>.quantifiers start (.quantification span amount (readGreed modifier) n)
    else return n
  | none => return n
partial_fixpoint

-- A token is taken for text, and no class is open for the parser.
def Source.passOver (src : Source) (m : Scanned) : Reader Unit := if src.strict then agree 0 (some m) else pure ()

def Source.condition (src : Source) (opening : Token) (text : List Char) : Reader (List Char) := do
  match ← advance src with
  | none => report opening.pos .unterminatedCondition
  | some m =>
    if m.token.kind = .groupClose then
      agree 0 (some m)
      return text
    else
      src |>.passOver m
      src |>.condition opening (text ++ m.token.lexeme)
partial_fixpoint

def expectClose (src : Source) (opening : Token) : Reader Unit := do
  match kindOf (← peek src 0) with
  | some .groupClose =>
    let _ ← next src 0
    return ()
  | _ => report opening.pos (.missingParenthesis opening.lexeme)

def single (t : Token) : Reader Node := do
  match t.kind with
  | .quote =>
    let span ← spanFrom t.pos
    return .quote span (quotedText t.lexeme)
  | .comment =>
    let span ← spanFrom t.pos
    return .trivia span t.text
  | .interpolation =>
    let text ← checked (innerOf 2 2 t.lexeme)
    let span ← spanFrom t.pos
    return .interpolation span (String.ofList text)
  | .dot => return .atom (← atomAt t .dot)
  | .caret => return .atom (← atomAt t .startOfLine)
  | .dollar => return .atom (← atomAt t .endOfLine)
  | .callout => return .atom (← atomAt t .callout)
  | .verb => return .atom (← atomAt t .backtrackingDirective)
  | .recurse =>
    let name ← checked (innerOf 2 1 t.lexeme)
    return .atom (← atomAt t (.subpattern (String.ofList name)))
  | .groupClose => broken .unmatchedClose
  | _ => return .atom (← atom t)

def sequenceOf (start : Position) : List Node → Reader Node
  | [] => return .empty ⟨start,start⟩
  | [n] => return n
  | ns => do
    let span ← spanFrom start
    return .concatenation span ns

mutual

def Source.expression (src : Source) : Reader Node := do
  let start := posOf src (← peek src 0)
  let first ← src |>.branch
  match kindOf (← peek src 0) with
  | some .alt => src |>.branches start [first]
  | _ => return first
partial_fixpoint

def Source.branches (src : Source) (start : Position) (ns : List Node) : Reader Node := do
  match kindOf (← peek src 0) with
  | some .alt =>
    let _ ← next src 0
    let n ← src |>.branch
    src |>.branches start (ns ++ [n])
  | _ =>
    let span ← spanFrom start
    return .alternation span ns
partial_fixpoint

def Source.branch (src : Source) : Reader Node := do
  let start := posOf src (← peek src 0)
  src |>.items start []
partial_fixpoint

def Source.items (src : Source) (start : Position) (ns : List Node) : Reader Node := do
  match kindOf (← peek src 0) with
  | none | some .alt | some .groupClose => sequenceOf start ns
  | some _ =>
    let n ← src |>.quantified
    src |>.items start (ns ++ [n])
partial_fixpoint

def Source.quantified (src : Source) : Reader Node := do
  let symbol ← peek src 0
  match symbol with
  | some m =>
    if m.token.kind = .quant ∨ m.token.kind = .count then report m.token.pos (.nothingToRepeat m.token.lexeme)
    else
      let n ← src |>.unit
      src |>.quantifiers m.token.pos n
  | none =>
    let n ← src |>.unit
    src |>.quantifiers src.eof n
partial_fixpoint

def Source.unit (src : Source) : Reader Node := do
  match ← next src 0 with
  | none => broken .unexpectedEnd
  | some m =>
    let t := m.token
    match t.kind with
    | .groupOpen => src |>.group t
    | .optionsOpen => src |>.options t
    | .condOpen => src |>.conditional t
    | .absentOpen =>
      enter src t.pos
      let (span,child) ← src |>.enclosed t
      return .absent span child
    | .classOpen => src |>.customClass 1 m
    | _ => single t
partial_fixpoint

def Source.options (src : Source) (t : Token) : Reader Node := do
  let flags ← checked (innerOf 2 1 t.lexeme)
  if t.lexeme.getLast? = some ')' then
    let a ← atomAt t (.changeMatchingOptions (String.ofList flags))
    return .atom a
  else
    match ← src |>.group t with
    | .group span _ child => return .group span (.options (String.ofList flags)) child
    | _ => broken .form
partial_fixpoint

def Source.group (src : Source) (opening : Token) : Reader Node := do
  enter src opening.pos
  let kind ← checked (checkedGroupKind opening)
  let (span,child) ← src |>.enclosed opening
  return .group span kind child
partial_fixpoint

def Source.conditional (src : Source) (opening : Token) : Reader Node := do
  enter src opening.pos
  let text ← src |>.condition opening []
  let (span,child) ← src |>.enclosed opening
  return .conditional span (String.ofList text) child
partial_fixpoint

def Source.enclosed (src : Source) (opening : Token) : Reader (Span × Node) := do
  let child ← src |>.expression
  expectClose src opening
  let span ← spanFrom opening.pos
  leave
  return (span,child)
partial_fixpoint

end

def whole (src : Source) : Reader Node := do
  let n ← src |>.expression
  match ← peek src 0 with
  | none => return n
  | some m =>
    if m.token.kind = .groupClose then report m.token.pos .unmatchedClose else broken (.unexpected m.token.lexeme)

-- The end of what was taken last is where the first token starts.
def fromStart (src : Source) : Reader Node := do
  let first ← peek src 0
  fun c => whole src {c with stop := posOf src first}

def ofScan (strict : Bool) (limit : Nat) : Except Token.ScanFault (List Scanned × Position) → Option (Except Trouble Node)
  | .error fault => some (.error (.defect (.scanning fault)))
  | .ok (tokens,eof) =>
    match fromStart ⟨tokens,eof,limit,strict⟩ ⟨0,eof,0⟩ with
    | none => none
    | some (.ok (n,_)) => some (.ok n)
    | some (.error trouble) => some (.error trouble)

-- The outcome for a byte string, none when there is no end of it.
def parse (strict : Bool) (limit : Int) (pattern : ByteArray) : Option (Except Trouble Node) :=
  match Text.wellFormed (Text.pieces pattern) with
  | .error (before,b) => some (.error (.fault ⟨Position.start.advance before,.invalidByte b⟩))
  | .ok cs => ofScan strict (inForce defaultDepth limit) (Token.scan cs)

end LexPattern.Surface.Descent
