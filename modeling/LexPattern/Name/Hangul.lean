import LexPattern.Scalar

namespace LexPattern.Name

def after? (front : String) (cs : List Char) : Option (List Char) :=
  if front.toList.isPrefixOf cs then some (cs.drop front.toList.length) else none

namespace Hangul

def leads : List String :=
  ["G","GG","N","D","DD","R","M","B","BB","S","SS","","J","JJ","C","K","T","P","H"]

def vowels : List String :=
  ["A","AE","YA","YAE","EO","E","YEO","YE","O","WA","WAE","OE","YO","U","WEO","WE",
    "WI","YU","EU","YI","I"]

def tails : List String :=
  ["","G","GG","GS","N","NJ","NH","D","L","LG","LM","LB","LS","LT","LP","LH","M",
    "B","BS","S","SS","NG","J","C","K","T","P","H"]

def firstSyllable : CodePoint := 0xAC00

def compose (lead vowel tail : Nat) : CodePoint :=
  firstSyllable + (lead * vowels.length + vowel) * tails.length + tail

-- Split a short name into lead, vowel and tail; the first split that fits is the only one.
def syllable? (short : List Char) : Option CodePoint :=
  leads.zipIdx.findSome? fun (lead,l) =>
    (after? lead short).bind fun rest =>
      vowels.zipIdx.findSome? fun (vowel,v) =>
        (after? vowel rest).bind fun tail =>
          ((tails.map String.toList).idxOf? tail).map fun t => compose l v t

end Hangul

end LexPattern.Name
