import LexPattern.Document.Lexeme
import LexPattern.Document.PlainText
import LexPattern.Document.QuotedText
import LexPattern.Document.BlockText

namespace LexPattern.Document

structure Candidate where
  number : Nat
  start : Place
  required : Bool
  -- Lexemes from the node on wait in the queue.
  awaited : Bool

namespace Candidate

def reaches (k : Candidate) (colon : Place) : Bool :=
  k.start.line == colon.line && colon.index ≤ k.start.index + 1024

end Candidate

structure Level where
  number : Nat
  candidate : Option Candidate

-- Brackets in which no node could be a key are not awaited any longer once they close.
def Level.settle (outer : Level) (number : Nat) : Level :=
  if outer.number = number then
    {outer with candidate := outer.candidate.map ({· with awaited := false})}
  else outer

structure Layout where
  cursor : Cursor
  inner : Level
  outer : List Level
  blocks : List Nat
  keyAllowed : Bool
  released : Nat
  queue : List Lexeme
  ended : Bool
  -- The text starts with a byte order mark of its own.
  marked : Bool

namespace Layout

def start (text : List Char) : Layout where
  cursor := ⟨.origin,text⟩
  inner := ⟨0,none⟩
  outer := []
  blocks := []
  keyAllowed := true
  released := 0
  queue := []
  ended := false
  marked := text.head? == some (Char.ofNat 0xFEFF)

def inFlow (s : Layout) : Bool := !s.outer.isEmpty

def column (s : Layout) : Nat := s.cursor.column

def least (s : Layout) : Nat :=
  match s.blocks with
  | [] => 0
  | b :: _ => b + 1

def next (s : Layout) : Nat := s.released + s.queue.length

def append (s : Layout) (l : Lexeme) : Layout := {s with queue := s.queue ++ [l]}

def take (s : Layout) (n : Nat) (l : Lexeme) : Layout := {s with cursor := s.cursor.skip n}.append l

-- Put a lexeme before the one with the number, or last if that one has left the queue.
def insert (s : Layout) (number : Nat) (l : Lexeme) : Layout :=
  if number < s.released then s.append l
  else
    let n := number - s.released
    {s with queue := s.queue.take n ++ l :: s.queue.drop n}

def forget (s : Layout) : Layout := {s with inner := {s.inner with candidate := none}}

def dropCandidate (s : Layout) : Except ReadError Layout :=
  match s.inner.candidate with
  | none => .ok s
  | some k => if k.required then .error .missingColon else .ok s.forget

def offer (s : Layout) : Except ReadError Layout :=
  if s.keyAllowed then do
    let s ← s.dropCandidate
    let k : Candidate := ⟨s.next,s.cursor.place,!s.inFlow && s.blocks.head? == some s.column,true⟩
    return {s with inner := ⟨s.next,some k⟩}
  else .ok s

def candidate? (s : Layout) : Except ReadError (Option Candidate) :=
  match s.inner.candidate with
  | none => .ok none
  | some k =>
    if k.reaches s.cursor.place then .ok (some k)
    else if k.required then .error .missingColon
    else .ok none

def endBlocks (s : Layout) (deeper : Nat → Bool) : Layout :=
  if s.inFlow then s
  else
    { s with
      blocks := s.blocks.dropWhile deeper
      queue := s.queue ++ (s.blocks.takeWhile deeper).map fun _ => .blockEnd }

def startBlock (s : Layout) (column number : Nat) (l : Lexeme) : Layout :=
  if !s.inFlow && s.least ≤ column then {s with blocks := column :: s.blocks}.insert number l else s

-- Move over blanks, comments and line ends. Tabs are blanks where no key may start, and inside brackets.
def seekFrom (flow marked : Bool) (keyAllowed comment : Bool) (p : Place) : List Char → Cursor × Bool
  | [] => (⟨p,[]⟩,keyAllowed)
  | c :: rest =>
    if marked && p.column == 0 then seekFrom flow marked keyAllowed comment ⟨p.line,1,p.index + 1⟩ rest
    else if isLineEnd c then seekFrom flow marked (keyAllowed || !flow) false (p.after c) rest
    else if c == unreadable then (⟨p,c :: rest⟩,keyAllowed)
    else if comment || c == ' ' || (c == '\t' && (flow || !keyAllowed)) then
      seekFrom flow marked keyAllowed comment (p.after c) rest
    else if c == '#' then seekFrom flow marked keyAllowed true (p.after c) rest
    else (⟨p,c :: rest⟩,keyAllowed)

def seek (s : Layout) : Layout :=
  let (cursor,keyAllowed) := seekFrom s.inFlow s.marked s.keyAllowed false s.cursor.place s.cursor.rest
  {s with cursor,keyAllowed}

def reset (s : Layout) : Except ReadError Layout := do
  let s ← (s.endBlocks fun _ => true).dropCandidate
  return {s with keyAllowed := false}

def finish (s : Layout) : Except ReadError Layout := do
  let p := s.cursor.place
  let p : Place := if p.column = 0 then p else ⟨p.line + 1,0,p.index⟩
  let s ← {s with cursor := ⟨p,[]⟩}.reset
  return {s with ended := true}.append .streamEnd

def directive (s : Layout) : Except ReadError Layout := do
  let s ← s.reset
  let (d,cursor) ← Directive.scan (s.cursor.skip 1)
  return {s with cursor}.append (.directive d)

def boundary (s : Layout) : Except ReadError Layout := do
  let s ← s.reset
  return s.take 3 (if s.cursor.rest.head? = some '-' then .documentStart else .documentEnd)

def openFlow (s : Layout) (l : Lexeme) : Except ReadError Layout := do
  let s ← s.offer
  return {s with inner := ⟨s.next,none⟩,outer := s.inner :: s.outer,keyAllowed := true}.take 1 l

def closeFlow (s : Layout) (l : Lexeme) : Except ReadError Layout := do
  let s ← s.dropCandidate
  let s := match s.outer with
    | [] => s
    | level :: outer => {s with inner := level.settle s.inner.number,outer}
  return {s with keyAllowed := false}.take 1 l

def comma (s : Layout) : Except ReadError Layout := do
  let s ← s.dropCandidate
  return {s with keyAllowed := true}.take 1 .comma

def dash (s : Layout) : Except ReadError Layout :=
  if s.inFlow || s.keyAllowed then do
    let s ← (s.startBlock s.column s.next .blockListStart).dropCandidate
    return {s with keyAllowed := true}.take 1 .dash
  else .error .misplaced

def announcedKey (s : Layout) : Except ReadError Layout :=
  if s.inFlow || s.keyAllowed then do
    let s ← (s.startBlock s.column s.next .blockMapStart).dropCandidate
    return {s with keyAllowed := !s.inFlow}.take 1 .key
  else .error .misplaced

-- A colon makes a key of the candidate. Without one it belongs to an announced or an empty key.
def colon (s : Layout) : Except ReadError Layout := do
  match ← s.candidate? with
  | some k =>
    let s := (s.forget.insert k.number .key).startBlock k.start.column k.number .blockMapStart
    return {s with keyAllowed := false}.take 1 .colon
  | none =>
    if s.inFlow || s.keyAllowed then
      let s := s.forget.startBlock s.column s.next .blockMapStart
      return {s with keyAllowed := !s.inFlow}.take 1 .colon
    else .error .misplaced

def name (s : Layout) (lexeme : String → Lexeme) : Except ReadError Layout := do
  let s ← s.offer
  let (name,cursor) ← scanName (s.cursor.skip 1)
  return {s with cursor,keyAllowed := false}.append (lexeme name)

def tag (s : Layout) : Except ReadError Layout := do
  let s ← s.offer
  let (tag,cursor) ← Tag.scan s.cursor
  return {s with cursor,keyAllowed := false}.append (.tag tag)

def blockText (s : Layout) (folded : Bool) : Except ReadError Layout := do
  let s ← s.dropCandidate
  let (text,cursor) ← BlockText.scan folded s.least (s.cursor.skip 1)
  return {s with cursor,keyAllowed := true}.append (.text (String.ofList text))

def quotedText (s : Layout) (scan : Cursor → Except ReadError (List Char × Cursor)) :
    Except ReadError Layout := do
  let s ← s.offer
  let (text,cursor) ← scan (s.cursor.skip 1)
  return {s with cursor,keyAllowed := false}.append (.text (String.ofList text))

-- A key may start after a word whose line has ended.
def plainText (s : Layout) : Except ReadError Layout := do
  let s ← s.offer
  let word ← PlainText.scan s.inFlow s.least s.cursor
  return {s with cursor := word.stop,keyAllowed := word.lineEnded}.append (.word (String.ofList word.text))

def fetch (s : Layout) : Except ReadError Layout :=
  let s := s.seek
  let s := s.endBlocks (s.column < ·)
  match s.cursor.rest with
  | [] => s.finish
  | c :: rest =>
    -- A question mark or a colon needs no blank after it inside brackets.
    let marks := s.inFlow || spacingNext rest
    if s.cursor.isNearEnd 4 then .error .notText
    else if s.column = 0 ∧ c = '%' then s.directive
    else if s.cursor.atBoundary then s.boundary
    else if c = '[' then s.openFlow .flowListStart
    else if c = '{' then s.openFlow .flowMapStart
    else if c = ']' then s.closeFlow .flowListEnd
    else if c = '}' then s.closeFlow .flowMapEnd
    else if c = ',' then s.comma
    else if c = '-' ∧ spacingNext rest then s.dash
    else if c = '?' ∧ marks then s.announcedKey
    else if c = ':' ∧ marks then s.colon
    else if c = '*' then s.name .aliasOf
    else if c = '&' then s.name .anchor
    else if c = '!' then s.tag
    else if c = '|' ∧ !s.inFlow then s.blockText false
    else if c = '>' ∧ !s.inFlow then s.blockText true
    else if c = '\'' then s.quotedText QuotedText.single
    else if c = '"' then s.quotedText QuotedText.double
    else if PlainText.starts s.inFlow (c :: rest) then s.plainText
    else .error .misplaced

def headWaits (s : Layout) : Except ReadError Bool :=
  match (s.inner :: s.outer).findSome? fun l => l.candidate.filter fun k => k.awaited && k.number == s.released with
  | none => .ok false
  | some k =>
    if k.reaches s.cursor.place then .ok true
    else if k.required then .error .missingColon
    else .ok false

def release (s : Layout) : List Lexeme → List Lexeme × Except ReadError Layout
  | [] => ([],.ok {s with queue := []})
  | l :: queue =>
    match s.headWaits with
    | .error e => ([],.error e)
    | .ok true => ([],.ok {s with queue := l :: queue})
    | .ok false =>
      let (ready,s) := release {s with released := s.released + 1} queue
      (l :: ready,s)

def lexemesFrom : Nat → Layout → List Lexeme
  | 0,_ => [.fault .tooDeep]
  | fuel + 1,s =>
    match s.fetch with
    | .error e => [.fault e]
    | .ok s =>
      match s.release s.queue with
      | (ready,.error e) => ready ++ [.fault e]
      | (ready,.ok s) => ready ++ (if s.ended then s.queue else lexemesFrom fuel s)

end Layout

-- The lexemes of a text. Each one but the last takes at least one character.
def Lexeme.ofText (text : List Char) : List Lexeme := Layout.lexemesFrom (text.length + 1) (.start text)

end LexPattern.Document
