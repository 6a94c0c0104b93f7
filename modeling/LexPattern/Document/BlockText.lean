import LexPattern.Document.Cursor

namespace LexPattern.Document

namespace BlockText

inductive Chomp where
  | strip
  | clip
  | keep
deriving DecidableEq, Repr

def chomp? : Char → Option Chomp
  | '-' => some .strip
  | '+' => some .keep
  | _ => none

-- The first line says how the text ends and how far it is indented, in either order. No indentation means
-- that the first line of text tells it.
structure Header where
  chomp : Chomp
  step : Nat

def step? (c : Char) : Option Nat := if '0' ≤ c && c ≤ '9' then some (c.toNat - '0'.toNat) else none

def marks : List Char → Header × Nat
  | [] => (⟨.clip,0⟩,0)
  | a :: rest =>
    let b? := rest.head?
    match chomp? a,step? a with
    | some chomp,_ =>
      match b?.bind step? with
      | some step => (⟨chomp,step⟩,2)
      | none => (⟨chomp,0⟩,1)
    | none,some step =>
      match b?.bind chomp? with
      | some chomp => (⟨chomp,step⟩,2)
      | none => (⟨.clip,step⟩,1)
    | none,none => (⟨.clip,0⟩,0)

-- The header after its mark, and the start of the next line. An indentation of zero cannot be asked for.
def header (c : Cursor) : Except ReadError (Header × Cursor) :=
  let (header,size) := marks c.rest
  if (c.rest.take size).contains '0' then .error .badHeader
  else match (c.skip size).skipComment? with
    | some next => .ok (header,next)
    | none => .error .badHeader

structure Margin where
  lineEnds : List Char
  widest : Nat
  stop : Cursor

-- Indentation of zero stands for one that is not known yet.
def marginFrom (indent : Nat) : Nat → List Char → Nat → Cursor → Except ReadError Margin
  | 0,_,_,_ => .error .tooDeep
  | fuel + 1,lineEnds,widest,c =>
    let spaces := (c.rest.takeWhile (· == ' ')).length
    let c := c.skip (if indent = 0 then spaces else min spaces (indent - c.column))
    let widest := max widest c.column
    match c.rest with
    | [] => .ok ⟨lineEnds,widest,c⟩
    | x :: _ =>
      if x = unreadable then .error .notText
      else if x = '\t' ∧ (indent = 0 ∨ c.column < indent) then .error .tabIndentation
      else if isLineEnd x then marginFrom indent fuel (lineEnds ++ [x]) widest (c.skip 1)
      else .ok ⟨lineEnds,widest,c⟩

def margin (indent : Nat) (c : Cursor) : Except ReadError Margin :=
  marginFrom indent ((c.rest.takeWhile isSpacing).length + 1) [] 0 c

-- The text so far, newest first, the line end after it that is still open, the empty lines after that, and
-- whether the last line started with a blank.
structure Draft where
  text : List Char
  lineEnd : List Char
  emptyLines : List Char
  indented : Bool

-- In a folded text a line feed between two lines that start with no blank becomes a space, or nothing before
-- empty lines.
def Draft.joint (d : Draft) (folded indented : Bool) : List Char :=
  if folded && !d.indented && !indented && d.lineEnd == ['\n'] then
    if d.emptyLines.isEmpty then [' '] else d.emptyLines
  else d.lineEnd ++ d.emptyLines

def Draft.finish (d : Draft) (chomp : Chomp) : List Char :=
  match chomp with
  | .strip => d.text.reverse
  | .clip => d.text.reverse ++ d.lineEnd
  | .keep => d.text.reverse ++ d.lineEnd ++ d.emptyLines

def linesFrom (folded : Bool) (indent : Nat) : Nat → Draft → Cursor → Except ReadError (Draft × Cursor)
  | 0,_,_ => .error .tooDeep
  | fuel + 1,d,c =>
    match c.rest with
    | [] => .ok (d,c)
    | x :: _ =>
      if c.column ≠ indent then .ok (d,c)
      else
        let indented := isBlank x
        let line := c.rest.takeWhile (!isLineEnd ·)
        let stop := c.skip line.length
        if line.contains unreadable then .error .notText
        else match margin indent (stop.skip 1) with
        | .error e => .error e
        | .ok m =>
          linesFrom folded indent fuel
            ⟨(d.joint folded indented ++ line).reverse ++ d.text,stop.rest.take 1,m.lineEnds,indented⟩ m.stop

def scan (folded : Bool) (least : Nat) (c : Cursor) : Except ReadError (List Char × Cursor) := do
  let (header,c) ← header c
  let asked := if header.step = 0 then 0 else (least - 1) + header.step
  let first ← margin asked c
  let indent := if asked = 0 then max (max first.widest least) 1 else asked
  let (d,stop) ← linesFrom folded indent (c.rest.length + 1) ⟨[],[],first.lineEnds,false⟩ first.stop
  return (d.finish header.chomp,stop)

end BlockText

end LexPattern.Document
