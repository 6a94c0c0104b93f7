import LexPattern.Document.Cursor

namespace LexPattern.Document

namespace QuotedText

def aheadOfWord : Nat := 4

def aheadInWord : Nat := 2

-- The text after an opening single quote; two quotes stand for one. What has been read is kept newest first.
def singleFrom : Nat → Nat → List Char → Cursor → Except ReadError (List Char × Cursor)
  | 0,_,_,_ => .error .tooDeep
  | fuel + 1,ahead,text,c =>
    if c.isNearEnd ahead then .error .notText
    else if c.atBoundary then .error .unclosedQuote
    else match c.rest with
    | [] => .error .unclosedQuote
    | '\'' :: '\'' :: _ => singleFrom fuel aheadInWord ('\'' :: text) (c.skip 2)
    | '\'' :: _ => .ok (text.reverse,c.skip 1)
    | x :: _ =>
      if isSpacing x then singleFrom fuel aheadOfWord (c.gap.text.reverse ++ text) c.gap.stop
      else singleFrom fuel aheadInWord (x :: text) (c.skip 1)

def escape? : Char → Option Char
  | '0' => some (Char.ofNat 0x00)
  | 'a' => some (Char.ofNat 0x07)
  | 'b' => some (Char.ofNat 0x08)
  | 't' => some '\t'
  | '\t' => some '\t'
  | 'n' => some '\n'
  | 'v' => some (Char.ofNat 0x0B)
  | 'f' => some (Char.ofNat 0x0C)
  | 'r' => some (Char.ofNat 0x0D)
  | 'e' => some (Char.ofNat 0x1B)
  | ' ' => some ' '
  | '"' => some '"'
  | '\'' => some '\''
  | '\\' => some '\\'
  | 'N' => some (Char.ofNat 0x85)
  | '_' => some (Char.ofNat 0xA0)
  | 'L' => some (Char.ofNat 0x2028)
  | 'P' => some (Char.ofNat 0x2029)
  | _ => none

def escapeSize? : Char → Option Nat
  | 'x' => some 2
  | 'u' => some 4
  | 'U' => some 8
  | _ => none

def numericEscape? (digits : List Char) (size : Nat) : Option Char :=
  if digits.length < size then none
  else match Text.readNumeral 16 0x10FFFF digits with
    | .ok n => if n.isValidChar then some (Char.ofNat n) else none
    | .error _ => none

-- The text after an opening double quote. A backslash before a line end drops it and the blanks that follow.
def doubleFrom : Nat → Nat → List Char → Cursor → Except ReadError (List Char × Cursor)
  | 0,_,_,_ => .error .tooDeep
  | fuel + 1,ahead,text,c =>
    if c.isNearEnd ahead then .error .notText
    else if c.atBoundary then .error .unclosedQuote
    else match c.rest with
    | [] => .error .unclosedQuote
    | '"' :: _ => .ok (text.reverse,c.skip 1)
    | '\\' :: e :: rest =>
      if isLineEnd e then
        let gap := (c.skip 2).gap
        doubleFrom fuel (if gap.isEmpty then 1 else aheadOfWord) (gap.lineEnds.reverse ++ text) gap.stop
      else match escape? e,escapeSize? e with
        | some x,_ => doubleFrom fuel aheadInWord (x :: text) (c.skip 2)
        | none,some size =>
          match numericEscape? (rest.take size) size with
          | some x => doubleFrom fuel aheadInWord (x :: text) (c.skip (2 + size))
          | none => .error .badEscape
        | none,none => .error .badEscape
    | x :: _ =>
      if isSpacing x then doubleFrom fuel aheadOfWord (c.gap.text.reverse ++ text) c.gap.stop
      else doubleFrom fuel aheadInWord (x :: text) (c.skip 1)

def single (c : Cursor) : Except ReadError (List Char × Cursor) := singleFrom (c.rest.length + 1) aheadOfWord [] c

def double (c : Cursor) : Except ReadError (List Char × Cursor) := doubleFrom (c.rest.length + 1) aheadOfWord [] c

end QuotedText

end LexPattern.Document
