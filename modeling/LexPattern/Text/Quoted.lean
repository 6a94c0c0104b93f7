import LexPattern.Text.Digits
import LexPattern.Text.Graphic
import LexPattern.Text.Utf8

namespace LexPattern.Text

def shortEscape? (c : Char) : Option Char :=
  match c.toNat with
  | 7 => some 'a'
  | 8 => some 'b'
  | 9 => some 't'
  | 10 => some 'n'
  | 11 => some 'v'
  | 12 => some 'f'
  | 13 => some 'r'
  | _ => none

def numericEscape (c : Char) : List Char :=
  let n := c.toNat
  if n < 0x20 ∨ n = 0x7F then '\\' :: 'x' :: (hexLower 2 n).toList
  else if n < 0x10000 then '\\' :: 'u' :: (hexLower 4 n).toList
  else '\\' :: 'U' :: (hexLower 8 n).toList

def escapeChar (printable : Char → Bool) (mark c : Char) : List Char :=
  if c = mark ∨ c = '\\' then ['\\',c]
  else if printable c then [c]
  else match shortEscape? c with
    | some e => ['\\',e]
    | none => numericEscape c

def escapePiece (printable : Char → Bool) (mark : Char) : Piece → List Char
  | .char c => escapeChar printable mark c
  | .stray b => '\\' :: 'x' :: (hexLower 2 b.toNat).toList

def quoteWith (printable : Char → Bool) (mark : Char) (ps : List Piece) : List Char :=
  mark :: ps.flatMap (escapePiece printable mark) ++ [mark]

def quotePieces (ps : List Piece) : String := String.ofList (quoteWith isGraphic '"' ps)

def quoteChars (cs : List Char) : String := quotePieces (charPieces cs)

def quote (s : String) : String := quoteChars s.toList

def quoteChar (c : Char) : String := String.ofList (quoteWith isGraphic '\'' [.char c])

end LexPattern.Text
