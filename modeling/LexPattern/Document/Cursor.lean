import LexPattern.Document.Value

namespace LexPattern.Document

def isBlank (c : Char) : Bool := c == ' ' || c == '\t'

def isLineEnd (c : Char) : Bool := c == '\n' || c == Char.ofNat 0x2028 || c == Char.ofNat 0x2029

def isSpacing (c : Char) : Bool := isBlank c || isLineEnd c

-- Stands for the rest of a text that cannot be read. No readable text holds this character.
def unreadable : Char := Char.ofNat 0

def spacingNext : List Char → Bool
  | [] => true
  | c :: _ => isSpacing c

structure Place where
  line : Nat
  column : Nat
  index : Nat
deriving DecidableEq, Repr

def Place.origin : Place := ⟨0,0,0⟩

def Place.after (p : Place) (c : Char) : Place :=
  if isLineEnd c then ⟨p.line + 1,0,p.index + 1⟩ else ⟨p.line,p.column + 1,p.index + 1⟩

structure Cursor where
  place : Place
  rest : List Char

namespace Cursor

def column (c : Cursor) : Nat := c.place.column

def skip (c : Cursor) (n : Nat) : Cursor := ⟨(c.rest.take n).foldl Place.after c.place,c.rest.drop n⟩

def skipWhile (c : Cursor) (kind : Char → Bool) : Cursor := c.skip (c.rest.takeWhile kind).length

def isNearEnd (c : Cursor) (n : Nat) : Bool := (c.rest.take n).contains unreadable

def atBoundary (c : Cursor) : Bool :=
  c.column == 0 && (c.rest.take 3 == ['-','-','-'] || c.rest.take 3 == ['.','.','.'])
    && spacingNext (c.rest.drop 3)

def skipComment? (c : Cursor) : Option Cursor :=
  let c := c.skipWhile isBlank
  let c := if c.rest.head? == some '#' then c.skipWhile (fun x => !isLineEnd x && x != unreadable) else c
  match c.rest with
  | [] => some c
  | x :: _ => if isLineEnd x then some (c.skip 1) else none

end Cursor

structure Gap where
  blanks : List Char
  lineEnds : List Char
  stop : Cursor

namespace Gap

def isEmpty (g : Gap) : Bool := g.blanks.isEmpty && g.lineEnds.isEmpty

-- Blanks stand for themselves when no line ends. One line feed becomes a space, and before more line ends it
-- is dropped.
def text (g : Gap) : List Char :=
  match g.lineEnds with
  | [] => g.blanks
  | ['\n'] => [' ']
  | '\n' :: ends => ends
  | ends => ends

end Gap

def Cursor.gap (c : Cursor) : Gap :=
  let run := c.rest.takeWhile isSpacing
  ⟨run.takeWhile isBlank,run.filter isLineEnd,c.skip run.length⟩

end LexPattern.Document
