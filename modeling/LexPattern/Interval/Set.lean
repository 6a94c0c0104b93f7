import LexPattern.Interval.Basic
import LexPattern.Search

namespace LexPattern

structure IntervalSet (α : Type u) where
  intervals : Array (Interval α)
deriving DecidableEq, Repr, Inhabited

structure InvertedRange (α : Type u) where
  lo : α
  hi : α
deriving DecidableEq, Repr

def InvertedRange.message (text : α → String) (e : InvertedRange α) : String :=
  "interval: inverted range " ++ text e.lo ++ " > " ++ text e.hi

namespace IntervalSet

variable {α : Type u}

def empty : IntervalSet α := ⟨#[]⟩

def isEmpty (s : IntervalSet α) : Bool := s.intervals.isEmpty

def size (s : IntervalSet α) : Nat := s.intervals.size

def toList (s : IntervalSet α) : List (Interval α) := s.intervals.toList

def ofSorted (ivs : List (Interval α)) : IntervalSet α := ⟨ivs.toArray⟩

def full (D : Domain α) : IntervalSet α := ofSorted [⟨D.least,D.greatest⟩]

variable [LE α] [LT α] [DecidableLE α] [DecidableLT α] [DecidableEq α]

def render (text : α → String) (s : IntervalSet α) : String :=
  "[" ++ " ".intercalate (s.toList.map (Interval.render text)) ++ "]"

def contains (s : IntervalSet α) (v : α) : Bool :=
  (Search.index? s.intervals (Interval.locate v)).isSome

def coalesce (D : Domain α) (current : Interval α) : List (Interval α) → List (Interval α)
  | [] => [current]
  | next :: rest =>
    if current.joins D next then
      coalesce D ⟨current.lo,if current.hi ≤ next.hi then next.hi else current.hi⟩ rest
    else current :: coalesce D next rest

def sweep (D : Domain α) : List (Interval α) → List (Interval α)
  | [] => []
  | first :: rest => coalesce D first rest

def ofList (D : Domain α) (ivs : List (Interval α)) : IntervalSet α :=
  ofSorted (sweep D (ivs.mergeSort Interval.le))

def firstInverted? (ivs : List (Interval α)) : Option (InvertedRange α) :=
  ivs.findSome? fun iv => if iv.hi < iv.lo then some ⟨iv.lo,iv.hi⟩ else none

def ofList? (D : Domain α) (ivs : List (Interval α)) : Except (InvertedRange α) (IntervalSet α) :=
  match firstInverted? ivs with
  | some bad => .error bad
  | none => .ok (ofList D ivs)

def normalize (D : Domain α) (s : IntervalSet α) : IntervalSet α := ofList D s.toList

def insert (D : Domain α) (s : IntervalSet α) (iv : Interval α) : IntervalSet α :=
  ofList D (s.toList ++ [iv])

def insert? (D : Domain α) (s : IntervalSet α) (iv : Interval α) :
    Except (InvertedRange α) (IntervalSet α) :=
  match firstInverted? [iv] with
  | some bad => .error bad
  | none => .ok (s.insert D iv)

def union (D : Domain α) (s t : IntervalSet α) : IntervalSet α :=
  if t.isEmpty || s == t then s else ofList D (s.toList ++ t.toList)

def meet : List (Interval α) → List (Interval α) → List (Interval α)
  | [],_ => []
  | _ :: _,[] => []
  | a :: as,b :: bs =>
    let lo := if a.lo ≤ b.lo then b.lo else a.lo
    let hi := if a.hi ≤ b.hi then a.hi else b.hi
    let rest := if a.hi < b.hi then meet as (b :: bs) else meet (a :: as) bs
    if lo ≤ hi then ⟨lo,hi⟩ :: rest else rest
termination_by as bs => as.length + bs.length

def inter (s t : IntervalSet α) : IntervalSet α := ofSorted (meet s.toList t.toList)

-- The pieces of `current` outside the sorted cutters, and the cutters that may still
-- reach a later interval.
def carve (D : Domain α) (current : Interval α) :
    List (Interval α) → List (Interval α) × List (Interval α)
  | [] => ([current],[])
  | cut :: cuts =>
    if cut.lo ≤ current.hi then
      let left := (current.leftOf D cut).toList
      match current.rightOf D cut with
      | none => (left,cut :: cuts)
      | some right =>
        let (pieces,later) := carve D right cuts
        (left ++ pieces,later)
    else ([current],cut :: cuts)

def remove (D : Domain α) : List (Interval α) → List (Interval α) → List (Interval α)
  | [],_ => []
  | a :: as,cuts =>
    let (pieces,later) := carve D a (cuts.dropWhile fun cut => decide (cut.hi < a.lo))
    pieces ++ remove D as later

def diff (D : Domain α) (s t : IntervalSet α) : IntervalSet α :=
  ofSorted (remove D s.toList t.toList)

def symmDiff (D : Domain α) (s t : IntervalSet α) : IntervalSet α :=
  (s.union D t).diff D (s.inter t)

def gaps (D : Domain α) (current : Interval α) : List (Interval α) → List (Interval α)
  | [] =>
    if current.hi = D.greatest then []
    else ((D.succ? current.hi).map fun lo => ⟨lo,D.greatest⟩).toList
  | next :: rest =>
    match D.succ? current.hi,D.pred? next.lo with
    | some lo,some hi => if lo ≤ hi then ⟨lo,hi⟩ :: gaps D next rest else gaps D next rest
    | _,_ => gaps D next rest

def outside (D : Domain α) : List (Interval α) → List (Interval α)
  | [] => [⟨D.least,D.greatest⟩]
  | first :: rest =>
    let front :=
      if first.lo = D.least then []
      else ((D.pred? first.lo).map fun hi => ⟨D.least,hi⟩).toList
    front ++ gaps D first rest

def complement (D : Domain α) (s : IntervalSet α) : IntervalSet α :=
  ofSorted (outside D s.toList)

end IntervalSet

end LexPattern
