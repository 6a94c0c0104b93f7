namespace LexPattern

-- A bounded value space. Stepping fails at the ends; a space with a hole steps over it.
structure Domain (α : Type u) where
  least : α
  greatest : α
  succ? : α → Option α
  pred? : α → Option α

structure Interval (α : Type u) where
  lo : α
  hi : α
deriving DecidableEq, Repr, Inhabited

namespace Interval

variable {α : Type u} [LE α] [LT α] [DecidableLE α] [DecidableLT α] [DecidableEq α]

def le (a b : Interval α) : Bool :=
  decide (a.lo < b.lo) || (decide (a.lo = b.lo) && decide (a.hi ≤ b.hi))

def locate (v : α) (iv : Interval α) : Ordering :=
  if iv.hi < v then .lt
  else if v < iv.lo then .gt
  else .eq

def precedes (D : Domain α) (a b : Interval α) : Bool :=
  D.succ? a.hi == some b.lo

def joins (D : Domain α) (a b : Interval α) : Bool :=
  decide (b.lo ≤ a.hi) || a.precedes D b || b.precedes D a

def leftOf (D : Domain α) (a b : Interval α) : Option (Interval α) :=
  if a.lo < b.lo then (D.pred? b.lo).map fun hi => ⟨a.lo,hi⟩ else none

def rightOf (D : Domain α) (a b : Interval α) : Option (Interval α) :=
  if b.hi < a.hi then (D.succ? b.hi).map fun lo => ⟨lo,a.hi⟩ else none

def render (text : α → String) (iv : Interval α) : String :=
  if iv.lo = iv.hi then text iv.lo else text iv.lo ++ "-" ++ text iv.hi

end Interval

end LexPattern
