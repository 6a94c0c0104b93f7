namespace LexPattern.Text

inductive Piece where
  | char (c : Char)
  | stray (b : UInt8)
deriving DecidableEq, Repr

namespace Piece

-- How a piece takes part in matching: a stray byte counts as U+FFFD.
def toChar : Piece → Char
  | char c => c
  | stray _ => Char.ofNat 0xFFFD

end Piece

def piecesFrom (bytes : ByteArray) (i : Nat) : List Piece :=
  if h : i < bytes.size then
    match bytes.utf8DecodeChar? i with
    | some c => .char c :: piecesFrom bytes (i + c.utf8Size)
    | none => .stray bytes[i] :: piecesFrom bytes (i + 1)
  else []
termination_by bytes.size - i
decreasing_by
  · have := Char.utf8Size_pos c; omega
  · omega

def pieces (bytes : ByteArray) : List Piece := piecesFrom bytes 0

def charPieces (cs : List Char) : List Piece := cs.map .char

def wellFormed : List Piece → Except (List Char × UInt8) (List Char)
  | [] => .ok []
  | .stray b :: _ => .error ([],b)
  | .char c :: ps =>
    match wellFormed ps with
    | .ok cs => .ok (c :: cs)
    | .error (cs,b) => .error (c :: cs,b)

def sequenceSize? (first : Nat) : Option Nat :=
  if first < 0x80 then some 1
  else if first < 0xC0 then none
  else if first < 0xE0 then some 2
  else if first < 0xF0 then some 3
  else if first < 0xF8 then some 4
  else none

end LexPattern.Text
