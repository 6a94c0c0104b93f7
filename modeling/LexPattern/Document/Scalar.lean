import LexPattern.Document.Decimal
import LexPattern.Text.Integer

namespace LexPattern.Document

inductive Scalar where
  | null
  | bool (b : Bool)
  | integer (n : Int)
  | float (text : String)
  | text (s : String)
deriving DecidableEq, Repr

namespace Scalar

open Text (splitSign splitBase)

def nullWords : List String := ["","~","null","Null","NULL"]

def trueWords : List String :=
  ["y","Y","yes","Yes","YES","true","True","TRUE","on","On","ON"]

def falseWords : List String :=
  ["n","N","no","No","NO","false","False","FALSE","off","Off","OFF"]

def notANumberWords : List String := [".nan",".NaN",".NAN"]

def infinityWords : List String := [".inf",".Inf",".INF","+.inf","+.Inf","+.INF"]

def negativeInfinityWords : List String := ["-.inf","-.Inf","-.INF"]

def infinity (negative : Bool) : Scalar := .float (if negative then "-Inf" else "+Inf")

def ofBinary (negative : Bool) (x : Binary) : Scalar :=
  match x.round .single with
  | some y => .float ((Decimal.shortest .single y).render negative)
  | none => infinity negative

def integer? (cs : List Char) : Option Int :=
  let (negative,body) := splitSign cs
  let bound :=
    if negative then Text.greatestInteger + 1
    else if body.length < cs.length then Text.greatestInteger
    else 2 * Text.greatestInteger + 1
  let (base,digits) := splitBase body
  match Text.readNumeral base bound digits with
  | .ok n => some (if negative then -n else n)
  | .error _ => none

def innerSigned? : List Char → Option Int
  | '0' :: 'b' :: cs =>
    let (negative,digits) := splitSign cs
    match Text.readNumeral 2 (if negative then Text.greatestInteger + 1 else Text.greatestInteger) digits with
    | .ok n => some (if negative then -n else n)
    | .error _ => none
  | _ => none

open Text (isDecimalDigit)

def digitsValue (cs : List Char) : Nat := cs.foldl (fun n c => n * 10 + (c.toNat - '0'.toNat)) 0

def exponent? : List Char → Option Int
  | [] => some 0
  | mark :: cs =>
    let (negative,digits) := splitSign cs
    if (mark = 'e' ∨ mark = 'E') ∧ !digits.isEmpty ∧ digits.all isDecimalDigit then
      some (if negative then -digitsValue digits else digitsValue digits)
    else none

-- The double of `digits * 10 ^ scale`. Scales far outside the range of doubles are settled at once.
def double? (digits : Nat) (scale : Int) : Option Binary :=
  let size : Int := (Nat.toDigits 10 digits).length
  if digits = 0 ∨ scale + size < -400 then some ⟨0,Precision.double.least⟩
  else if 400 < scale + size then none
  else
    let (n,d) := Decimal.quotientOf digits scale
    Binary.nearest .double n d

def float? (cs : List Char) : Option Scalar :=
  let (negative,body) := splitSign cs
  let whole := body.takeWhile isDecimalDigit
  let rest := body.dropWhile isDecimalDigit
  let pointed := rest.head? == some '.'
  let places := if pointed then (rest.drop 1).takeWhile isDecimalDigit else []
  let tail := if pointed then (rest.drop 1).dropWhile isDecimalDigit else rest
  if whole.isEmpty ∧ places.isEmpty then none
  else do
    let e ← exponent? tail
    let x ← double? (digitsValue (whole ++ places)) (e - places.length)
    return ofBinary negative x

def startsNumber (c : Char) : Bool := isDecimalDigit c || c == '+' || c == '-'

-- Underscores may stand anywhere in a number, but only between digits in one that starts with its point.
def number? (cs : List Char) : Option Scalar :=
  let digits := cs.filter (· != '_')
  match cs with
  | [] => none
  | c :: _ =>
    if c = '.' then if Text.separated cs then float? digits else none
    else if startsNumber c then
      match integer? digits with
      | some n => some (.integer n)
      | none =>
        match float? digits with
        | some x => some x
        | none => (innerSigned? digits).map .integer
    else none

def ofWord (word : String) : Scalar :=
  if nullWords.contains word then .null
  else if trueWords.contains word then .bool true
  else if falseWords.contains word then .bool false
  else if notANumberWords.contains word then .float "NaN"
  else if infinityWords.contains word then infinity false
  else if negativeInfinityWords.contains word then infinity true
  else (number? word.toList).getD (.text word)

def widen : Scalar → Option Scalar
  | float s => some (.float s)
  | integer n =>
    if Text.greatestInteger < n then none
    else (Binary.nearest .double n.natAbs 1).map (ofBinary (n < 0))
  | _ => none

-- The meaning of a text under a tag. A tag of the standard kinds accepts only words of its kind, and any other
-- tag makes text. Data that is no text and points in time are not accepted.
def ofTagged? (tag text : String) : Option Scalar :=
  if tag = "tag:yaml.org,2002:null" then
    match ofWord text with
    | null => some .null
    | _ => none
  else if tag = "tag:yaml.org,2002:bool" then
    match ofWord text with
    | bool b => some (.bool b)
    | _ => none
  else if tag = "tag:yaml.org,2002:int" then
    match ofWord text with
    | integer n => some (.integer n)
    | _ => none
  else if tag = "tag:yaml.org,2002:float" then (ofWord text).widen
  else if tag = "tag:yaml.org,2002:binary" ∨ tag = "tag:yaml.org,2002:timestamp" then none
  else some (.text text)

def text? : Scalar → Option String
  | null => none
  | bool b => some (if b then "true" else "false")
  | integer n => some (toString n)
  | float s => some s
  | text s => some s

end Scalar

end LexPattern.Document
