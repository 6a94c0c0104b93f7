import LexPattern.Name.Table.U0000
import LexPattern.Name.Table.U0600
import LexPattern.Name.Table.U1000
import LexPattern.Name.Table.U10000
import LexPattern.Name.Table.U12000
import LexPattern.Name.Table.U1C000
import LexPattern.Name.Table.U1F000
import LexPattern.Name.Table.U2000
import LexPattern.Name.Table.U3000
import LexPattern.Name.Hangul
import LexPattern.Name.Recent
import LexPattern.Text.Blank
import LexPattern.Text.Digits
import Std.Data.HashMap

namespace LexPattern.Name

-- Tables list names in code point order. A slash and a hexadecimal number set the next code point.
-- A small letter starts a name and says how many leading words it shares with the name before it.
def tables : List (List String) :=
  [Table.fromU0000,Table.fromU0600,Table.fromU1000,Table.fromU2000,Table.fromU3000,
    Table.fromU10000,Table.fromU12000,Table.fromU1C000,Table.fromU1F000]

abbrev Index := Std.HashMap String Nat

def isEntryMark (c : Char) : Bool := c == '/' || ('a' ≤ c && c ≤ 'z')

def readHex (cs : List Char) : Nat := cs.foldl (fun n c => n * 16 + (Text.digitValue? c).getD 0) 0

def addEntries (index : Index) (code : Nat) (previous : List String) : List Char → Index
  | [] => index
  | mark :: cs =>
    let body := cs.takeWhile (!isEntryMark ·)
    let rest := cs.dropWhile (!isEntryMark ·)
    if mark = '/' then addEntries index (readHex body) previous rest
    else
      let shared := previous.take (mark.toNat - 'a'.toNat)
      let words := shared ++ (Text.fields body).map String.ofList
      addEntries (index.insert (" ".intercalate words) code) (code + 1) words rest
termination_by cs => cs.length
decreasing_by
  all_goals
    have := (List.dropWhile_sublist (l := cs) fun c => !isEntryMark c).length_le
    simp only [List.length_cons]
    omega

def index : Index := tables.foldl (fun index table => addEntries index 0 [] (String.join table).toList) ∅

structure Family where
  stem : String
  ranges : Array (Interval Nat)

def families : List Family :=
  [⟨"CJK COMPATIBILITY IDEOGRAPH-",#[⟨0xF900,0xFA6D⟩,⟨0xFA70,0xFAD9⟩,⟨0x2F800,0x2FA1D⟩]⟩,
    ⟨"KHITAN SMALL SCRIPT CHARACTER-",#[⟨0x18B00,0x18CD5⟩]⟩,
    ⟨"NUSHU CHARACTER-",#[⟨0x1B170,0x1B2FB⟩]⟩]

def unifiedIdeographs : Array (Interval Nat) :=
  #[⟨0x3400,0x4DBF⟩,⟨0x4E00,0x9FFF⟩,⟨0x20000,0x2A6DF⟩,⟨0x2A700,0x2B739⟩,
    ⟨0x2B740,0x2B81D⟩,⟨0x2B820,0x2CEA1⟩,⟨0x2CEB0,0x2EBE0⟩,⟨0x30000,0x3134A⟩,
    ⟨0x31350,0x323AF⟩]

def byCode? (digits : List Char) : Option CodePoint :=
  match Text.readNumeral 16 Text.greatestWord digits with
  | .error _ => none
  | .ok n => if CodePoint.isScalar n && isNamed n then some n else none

-- The code point must be written the way the name writes it, with at least four digits.
def byFamily? (key : List Char) : Option CodePoint :=
  families.findSome? fun family =>
    (after? family.stem key).bind fun digits =>
      match Text.readNumeral 16 Text.greatestWord digits with
      | .error _ => none
      | .ok n =>
        if Text.inRanges family.ranges n && (Text.hexUpper 4 n).toList == digits then some n else none

-- Names are ASCII, so only characters with an ASCII upper case form matter here.
def upper (c : Char) : Char :=
  if c.toNat = 0x17F then 'S'
  else if c.toNat = 0x131 then 'I'
  else c.toUpper

-- Names are compared without case, and underscores and runs of white space count as one space.
def fold (name : String) : List Char :=
  let spaced := name.toList.map fun c => if c = '_' then ' ' else c
  ([' '].intercalate (Text.fields spaced)).map upper

def find? (name : String) : Option CodePoint :=
  let key := fold name
  if key.isEmpty then none
  else match after? "U+" key with
    | some digits => byCode? digits
    | none =>
      match after? "CJK UNIFIED IDEOGRAPH-" key with
      | some digits => (byCode? digits).filter fun c => Text.inRanges unifiedIdeographs c.toNat
      | none =>
        match after? "HANGUL SYLLABLE " key with
        | some short => Hangul.syllable? short
        | none =>
          match byFamily? key with
          | some c => some c
          | none => (index[String.ofList key]?).map Int.ofNat

def lookup? (name : String) : Option String := (find? name).map fun c => CodePoint.text [c]

end LexPattern.Name
