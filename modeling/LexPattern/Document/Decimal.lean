namespace LexPattern.Document

structure Binary where
  mantissa : Nat
  exponent : Int
deriving DecidableEq, Repr

structure Precision where
  bits : Nat
  least : Int
  greatest : Int
deriving DecidableEq, Repr

namespace Precision

def double : Precision := ⟨53,-1074,971⟩

def single : Precision := ⟨24,-149,104⟩

end Precision

namespace Binary

def roundQuotient (n d : Nat) : Nat :=
  let q := n / d
  let r := n % d
  if d < 2 * r ∨ (2 * r = d ∧ q % 2 = 1) then q + 1 else q

def scaled (n d : Nat) (e : Int) : Nat × Nat :=
  if 0 ≤ e then (n,d * Nat.pow 2 e.toNat) else (n * Nat.pow 2 (-e).toNat,d)

def nearest (p : Precision) (n d : Nat) : Option Binary :=
  if n = 0 then some ⟨0,p.least⟩
  else
    let guess := max ((Nat.log2 n : Int) - Nat.log2 d - p.bits) p.least
    let (a,b) := scaled n d guess
    let e := if Nat.pow 2 p.bits ≤ a / b then guess + 1 else guess
    let (a,b) := scaled n d e
    let m := roundQuotient a b
    let rounded : Binary := if m = Nat.pow 2 p.bits then ⟨Nat.pow 2 (p.bits - 1),e + 1⟩ else ⟨m,e⟩
    if p.greatest < rounded.exponent then none else some rounded

def quotient (x : Binary) : Nat × Nat :=
  if 0 ≤ x.exponent then (x.mantissa * Nat.pow 2 x.exponent.toNat,1)
  else (x.mantissa,Nat.pow 2 (-x.exponent).toNat)

def round (p : Precision) (x : Binary) : Option Binary := nearest p x.quotient.1 x.quotient.2

end Binary

structure Decimal where
  digits : Nat
  size : Nat
  exponent : Int
deriving DecidableEq, Repr

namespace Decimal

def quotientOf (digits : Nat) (scale : Int) : Nat × Nat :=
  if 0 ≤ scale then (digits * Nat.pow 10 scale.toNat,1) else (digits,Nat.pow 10 (-scale).toNat)

def placesBelowOne (n d : Nat) : Nat → Nat
  | 0 => 0
  | tries + 1 => if d ≤ n then 0 else placesBelowOne (n * 10) d tries + 1

def leadingExponent (n d : Nat) : Int :=
  if d ≤ n then ((Nat.toDigits 10 (n / d)).length : Int) - 1
  else -(placesBelowOne n d 400 : Int)

def readsBack (p : Precision) (x : Binary) (digits : Nat) (scale : Int) : Bool :=
  let (n,d) := quotientOf digits scale
  Binary.nearest p n d = some x

def neighbours (n d : Nat) : List Nat :=
  let near := Binary.roundQuotient n d
  [near,if near = n / d then near + 1 else n / d]

-- A decimal with this many digits that reads back as `x`: the nearest to `n / d`, or else the one on the
-- other side.
def withDigits? (p : Precision) (x : Binary) (n d size : Nat) : Option Decimal :=
  let e := leadingExponent n d
  let scale := e - (size - 1)
  let (a,b) := quotientOf 1 scale
  match (neighbours (n * b) (d * a)).find? (readsBack p x · scale) with
  | some digits =>
    if digits = Nat.pow 10 size then some ⟨Nat.pow 10 (size - 1),size,e + 1⟩ else some ⟨digits,size,e⟩
  | none => none

def shortest (p : Precision) (x : Binary) : Decimal :=
  let (n,d) := x.quotient
  if n = 0 then ⟨0,1,0⟩
  else ((List.range 17).findSome? fun i => withDigits? p x n d (i + 1)).getD ⟨0,1,0⟩

-- Positional between 10^-4 and 10^6, with an exponent of at least two digits outside.
def render (negative : Bool) (x : Decimal) : String :=
  let digits := (Nat.toDigits 10 x.digits).leftpad x.size '0'
  let sign := if negative then "-" else ""
  let places (front back : List Char) : String :=
    String.ofList (if back.isEmpty then front else front ++ '.' :: back)
  if x.exponent < -4 ∨ 6 ≤ x.exponent then
    let power := (Nat.toDigits 10 x.exponent.natAbs).leftpad 2 '0'
    sign ++ places (digits.take 1) (digits.drop 1) ++ (if x.exponent < 0 then "e-" else "e+")
      ++ String.ofList power
  else if x.exponent < 0 then
    sign ++ places ['0'] (List.replicate (x.exponent.natAbs - 1) '0' ++ digits)
  else
    let whole := x.exponent.toNat + 1
    sign ++ places ((digits ++ List.replicate (whole - digits.length) '0').take whole) (digits.drop whole)

end Decimal

end LexPattern.Document
