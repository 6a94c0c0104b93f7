import LexPattern.Interval.Window
import LexPattern.Text.Digits

namespace LexPattern

-- A code point is an integer, so that values outside Unicode stay visible until they are judged.
abbrev CodePoint := Int

namespace CodePoint

def greatest : CodePoint := 0x10FFFF

def surrogateFirst : CodePoint := 0xD800

def surrogateLast : CodePoint := 0xDFFF

def isScalar (c : CodePoint) : Bool :=
  decide (0 ≤ c) && decide (c ≤ greatest) && (decide (c < surrogateFirst) || decide (surrogateLast < c))

def ofChar (c : Char) : CodePoint := Int.ofNat c.toNat

def toChar (c : CodePoint) : Char :=
  if isScalar c then Char.ofNat c.toNat else Char.ofNat 0xFFFD

def text (cs : List CodePoint) : String := String.ofList (cs.map toChar)

-- The form U+0041; a negative value shows as its 64-bit two's complement.
def notate (c : CodePoint) : String :=
  "U+" ++ Text.hexUpper 4 (c % 0x10000000000000000).toNat

end CodePoint

def scalars : Domain CodePoint :=
  .window 0 CodePoint.greatest (some ⟨CodePoint.surrogateFirst - 1,CodePoint.surrogateLast + 1⟩)

end LexPattern
