import LexPattern.CharClass

namespace LexPattern.Automaton

abbrev Segment := Interval CodePoint

-- Where the code points after `hi` start. Code points are 32-bit words, so the greatest one wraps.
def cutAfter (hi : CodePoint) : CodePoint := Int.bmod (hi + 1) 0x100000000

def cuts (ranges : List (Interval CodePoint)) : List CodePoint :=
  ((ranges.flatMap fun r => [r.lo,cutAfter r.hi]).mergeSort (· ≤ ·)).eraseReps

-- The segment between two neighbouring cuts, if the classes use it. One that would start at a
-- surrogate starts after the surrogates.
def segmentBetween (used : CharClass) (cut next : CodePoint) : Option Segment :=
  let lo := if cut.isScalar then cut else CodePoint.surrogateLast + 1
  let hi := next - 1
  if lo ≤ hi ∧ used.contains lo then some ⟨lo,hi⟩ else none

def segmentsBetween (used : CharClass) : List CodePoint → List Segment
  | cut :: next :: rest =>
    (segmentBetween used cut next).toList ++ segmentsBetween used (next :: rest)
  | _ => []

def partition (classes : List CharClass) : Array Segment :=
  let ranges := classes.flatMap CharClass.toList
  (segmentsBetween (.ofRanges ranges) (cuts ranges)).toArray

def segmentIndex? (segments : Array Segment) (c : CodePoint) : Option Nat :=
  if c.isScalar then Search.index? segments (Interval.locate c) else none

def spanned (segments : Array Segment) (indices : List Nat) : CharClass :=
  .ofRanges (indices.filterMap (segments[·]?))

end LexPattern.Automaton
