import LexPattern.Text.Digits

namespace LexPattern.Text

def splitSign : List Char → Bool × List Char
  | '-' :: cs => (true,cs)
  | '+' :: cs => (false,cs)
  | cs => (false,cs)

-- The base that a prefix announces, and the digits after it. A leading zero alone means octal.
def splitBase (cs : List Char) : Nat × List Char :=
  match cs with
  | '0' :: mark :: c :: rest =>
    if mark = 'x' ∨ mark = 'X' then (16,c :: rest)
    else if mark = 'o' ∨ mark = 'O' then (8,c :: rest)
    else if mark = 'b' ∨ mark = 'B' then (2,c :: rest)
    else (8,mark :: c :: rest)
  | '0' :: c :: rest => (8,c :: rest)
  | cs => (10,cs)

def isBaseMark (c : Char) : Bool := ['b','B','o','O','x','X'].contains c

def isDecimalDigit (c : Char) : Bool := '0' ≤ c && c ≤ '9'

def isHexDigit (c : Char) : Bool := isDecimalDigit c || ('a' ≤ c && c ≤ 'f') || ('A' ≤ c && c ≤ 'F')

def underscoresSeparate (isDigit : Char → Bool) (afterDigit : Bool) : List Char → Bool
  | [] => true
  | '_' :: c :: cs => afterDigit && isDigit c && underscoresSeparate isDigit true cs
  | ['_'] => false
  | c :: cs => underscoresSeparate isDigit (isDigit c) cs

-- The mark of a base counts as a digit that an underscore may follow.
def separated (cs : List Char) : Bool :=
  match cs with
  | '0' :: mark :: rest =>
    if mark = 'x' ∨ mark = 'X' then underscoresSeparate isHexDigit true rest
    else if isBaseMark mark then underscoresSeparate isDecimalDigit true rest
    else underscoresSeparate isDecimalDigit false cs
  | _ => underscoresSeparate isDecimalDigit false cs

def readInteger? (cs : List Char) : Option Int :=
  let (negative,body) := splitSign cs
  let (base,digits) := splitBase body
  let bound : Nat := if negative then greatestInteger + 1 else greatestInteger
  match readNumeral base bound (digits.filter (· != '_')) with
  | .ok n => if separated body then some (if negative then -n else n) else none
  | .error _ => none

end LexPattern.Text
