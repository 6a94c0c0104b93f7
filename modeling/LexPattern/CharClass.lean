import LexPattern.Interval.Set
import LexPattern.Scalar

namespace LexPattern

structure CharClass where
  ranges : IntervalSet CodePoint
deriving DecidableEq, Repr, Inhabited

namespace CharClass

def empty : CharClass := ⟨.empty⟩

def any : CharClass := ⟨.full scalars⟩

def ofRanges (rs : List (Interval CodePoint)) : CharClass := ⟨.ofList scalars rs⟩

def single (c : CodePoint) : CharClass := ofRanges [⟨c,c⟩]

def isEmpty (c : CharClass) : Bool := c.ranges.isEmpty

def toList (c : CharClass) : List (Interval CodePoint) := c.ranges.toList

def contains (c : CharClass) (x : CodePoint) : Bool := x.isScalar && c.ranges.contains x

def insert (c : CharClass) (x : CodePoint) : CharClass := ⟨c.ranges.insert scalars ⟨x,x⟩⟩

def union (c d : CharClass) : CharClass := ⟨c.ranges.union scalars d.ranges⟩

def inter (c d : CharClass) : CharClass := ⟨c.ranges.inter d.ranges⟩

def diff (c d : CharClass) : CharClass := ⟨c.ranges.diff scalars d.ranges⟩

def symmDiff (c d : CharClass) : CharClass := ⟨c.ranges.symmDiff scalars d.ranges⟩

def complement (c : CharClass) : CharClass := ⟨c.ranges.complement scalars⟩

def isBracketMark (c : CodePoint) : Bool :=
  ['\\',']','[','-','^'].any fun m => c == .ofChar m

def hexSigned (c : CodePoint) : String :=
  if c < 0 then "-" ++ Text.hexUpper 1 c.natAbs else Text.hexUpper 1 c.natAbs

def renderCode (c : CodePoint) : String :=
  if isBracketMark c then String.ofList ['\\',c.toChar]
  else if 0x20 < c ∧ c < 0x7F then String.ofList [c.toChar]
  else "\\x\x7b" ++ hexSigned c ++ "\x7d"

def renderRange (r : Interval CodePoint) : String :=
  if r.hi = r.lo then renderCode r.lo else renderCode r.lo ++ "-" ++ renderCode r.hi

def render (c : CharClass) : String :=
  "[" ++ String.join (c.toList.map renderRange) ++ "]"

end CharClass

end LexPattern
