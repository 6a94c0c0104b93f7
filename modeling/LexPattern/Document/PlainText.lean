import LexPattern.Document.Cursor

namespace LexPattern.Document

namespace PlainText

def isFlowMark (c : Char) : Bool := [',','?','[',']','{','}'].contains c

def isReserved (c : Char) : Bool :=
  [',','[',']','{','}','#','&','*','!','|','>','\'','"','%','@',Char.ofNat 0x60].contains c

-- A word may start here. A dash, a question mark or a colon starts one if a word goes on after it.
def starts (flow : Bool) : List Char → Bool
  | [] => false
  | c :: rest =>
    if c = '-' then !(match rest with
      | [] => false
      | d :: _ => isBlank d)
    else if c = '?' ∨ c = ':' then !flow && !spacingNext rest
    else !(isSpacing c || isReserved c)

def run (flow : Bool) : List Char → List Char
  | [] => []
  | c :: rest =>
    if isSpacing c || (c == ':' && spacingNext rest) || (flow && isFlowMark c) then [] else c :: run flow rest

-- A tab stands among the blanks that open a line, left of the least column.
def tabIndents (least column : Nat) (opening : Bool) : List Char → Bool
  | [] => false
  | c :: rest =>
    if isLineEnd c then tabIndents least 0 true rest
    else if isBlank c then (opening && c == '\t' && column < least) || tabIndents least (column + 1) opening rest
    else false

structure Scanned where
  text : List Char
  stop : Cursor
  lineEnded : Bool

def goesOn (flow : Bool) (c : Cursor) : Bool :=
  !(run flow c.rest).isEmpty && c.rest.head? != some '#' && !c.atBoundary

-- Outside brackets a word goes on only at the least column or right of it. What has been read is kept newest
-- first.
def scanFrom (flow : Bool) (least : Nat) : Nat → List Char → Cursor → Except ReadError Scanned
  | 0,_,_ => .error .tooDeep
  | fuel + 1,text,c =>
    let word := run flow c.rest
    let stop := c.skip word.length
    let gap := stop.gap
    let mayGoOn := !gap.isEmpty && (flow || least ≤ gap.stop.column)
    if c.isNearEnd (word.length + 2) || gap.stop.isNearEnd (if mayGoOn then 4 else 1) then .error .notText
    else if tabIndents least stop.column false stop.rest then .error .tabIndentation
    else if mayGoOn && goesOn flow gap.stop then
      scanFrom flow least fuel ((word ++ gap.text).reverse ++ text) gap.stop
    else .ok ⟨(word.reverse ++ text).reverse,gap.stop,!gap.lineEnds.isEmpty⟩

def scan (flow : Bool) (least : Nat) (c : Cursor) : Except ReadError Scanned :=
  scanFrom flow least (c.rest.length + 1) [] c

end PlainText

end LexPattern.Document
