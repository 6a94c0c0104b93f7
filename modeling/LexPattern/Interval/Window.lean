import LexPattern.Interval.Basic

namespace LexPattern

-- The integers strictly between `below` and `above` are left out.
structure Hole where
  below : Int
  above : Int
deriving DecidableEq, Repr

def Domain.window (least greatest : Int) (hole : Option Hole) : Domain Int where
  least := least
  greatest := greatest
  succ? v :=
    if greatest ≤ v then none
    else match hole with
      | some h => if v = h.below then some h.above else some (v + 1)
      | none => some (v + 1)
  pred? v :=
    if v ≤ least then none
    else match hole with
      | some h => if v = h.above then some h.below else some (v - 1)
      | none => some (v - 1)

end LexPattern
