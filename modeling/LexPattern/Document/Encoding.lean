import LexPattern.Document.Cursor
import LexPattern.Text.Utf8

namespace LexPattern.Document

inductive Encoding where
  | utf8
  | utf16 (bigEndian : Bool)
deriving DecidableEq, Repr

inductive FirstChar where
  | char (c : Char) (size : Nat)
  | incomplete
  | malformed

namespace Encoding

def firstUtf8 (bytes : List UInt8) : FirstChar :=
  match Text.sequenceSize? (bytes.headD 0).toNat with
  | none => .malformed
  | some size =>
    if bytes.length < size then .incomplete
    else match (ByteArray.mk (bytes.take size).toArray).utf8DecodeChar? 0 with
      | some c => if c.utf8Size = size then .char c size else .malformed
      | none => .malformed

def unitOf (bigEndian : Bool) (a b : UInt8) : Nat :=
  if bigEndian then a.toNat * 0x100 + b.toNat else b.toNat * 0x100 + a.toNat

def isHighSurrogate (n : Nat) : Bool := 0xD800 ≤ n && n < 0xDC00

def isLowSurrogate (n : Nat) : Bool := 0xDC00 ≤ n && n < 0xE000

def firstUtf16 (bigEndian : Bool) : List UInt8 → FirstChar
  | a :: b :: rest =>
    let high := unitOf bigEndian a b
    if isLowSurrogate high then .malformed
    else if isHighSurrogate high then
      match rest with
      | c :: d :: _ =>
        let low := unitOf bigEndian c d
        if isLowSurrogate low then .char (Char.ofNat (0x10000 + (high - 0xD800) * 0x400 + (low - 0xDC00))) 4
        else .malformed
      | _ => .incomplete
    else .char (Char.ofNat high) 2
  | _ => .incomplete

def first : Encoding → List UInt8 → FirstChar
  | utf8 => firstUtf8
  | utf16 bigEndian => firstUtf16 bigEndian

def isAllowed (c : Char) : Bool :=
  let n := c.toNat
  n == 0x9 || n == 0xA || n == 0xD || (0x20 ≤ n && n ≤ 0x7E) || n == 0x85 || (0xA0 ≤ n && n ≤ 0xFFFD)
    || 0x10000 ≤ n

-- The characters of a block, newest first, and the bytes of one that goes on in the next block.
def blockFrom (e : Encoding) : Nat → List Char → List UInt8 → Option (List Char × List UInt8)
  | 0,_,_ => none
  | _,chars,[] => some (chars,[])
  | fuel + 1,chars,bytes =>
    match e.first bytes with
    | .char c size => if isAllowed c then blockFrom e fuel (c :: chars) (bytes.drop size) else none
    | .incomplete => some (chars,bytes)
    | .malformed => none

def blockSize : Nat := 512

def blocksFrom (e : Encoding) : Nat → Nat → List UInt8 → List UInt8 → List Char
  | 0,_,_,_ => [unreadable]
  | _,_,[],[] => []
  | _,_,_ :: _,[] => [unreadable]
  | fuel + 1,room,held,bytes =>
    match blockFrom e (blockSize + 1) [] (held ++ bytes.take room) with
    | none => [unreadable]
    | some (chars,held) =>
      chars.reverse ++ blocksFrom e fuel (blockSize - held.length) held (bytes.drop room)

def unifyLines : List Char → List Char
  | '\r' :: '\n' :: cs => '\n' :: unifyLines cs
  | c :: cs => (if c = '\r' ∨ c = Char.ofNat 0x85 then '\n' else c) :: unifyLines cs
  | [] => []

-- A byte order mark tells the encoding and counts for the first block; without one the text is UTF-8.
def textOf (bytes : ByteArray) : List Char :=
  let decode (e : Encoding) (mark : Nat) : List Char :=
    blocksFrom e (bytes.size + 1) (blockSize - mark) [] (bytes.toList.drop mark)
  unifyLines <| match bytes.toList with
    | 0xFF :: 0xFE :: _ => decode (utf16 false) 2
    | 0xFE :: 0xFF :: _ => decode (utf16 true) 2
    | 0xEF :: 0xBB :: 0xBF :: _ => decode utf8 3
    | _ => decode utf8 0

end Encoding

end LexPattern.Document
