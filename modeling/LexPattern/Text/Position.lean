namespace LexPattern.Text

structure Position where
  offset : Nat
  line : Nat
  column : Nat
deriving DecidableEq, Repr, Inhabited

namespace Position

def start : Position := ⟨0,1,1⟩

def next (p : Position) (c : Char) : Position :=
  if c = '\n' then ⟨p.offset + c.utf8Size,p.line + 1,1⟩
  else ⟨p.offset + c.utf8Size,p.line,p.column + 1⟩

def advance (p : Position) (cs : List Char) : Position := cs.foldl next p

def render (file : String) (p : Position) : String :=
  let place := toString p.line ++ ":" ++ toString p.column
  if file.isEmpty then place else file ++ ":" ++ place

end Position

structure Span where
  start : Position
  stop : Position
deriving DecidableEq, Repr, Inhabited

end LexPattern.Text
