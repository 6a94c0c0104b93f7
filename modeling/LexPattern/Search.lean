namespace LexPattern.Search

-- The first index of the window `[lo, hi)` whose element is not below.
-- Correct whenever the elements below form an initial part of the array.
def firstNotBelow (xs : Array α) (below : α → Bool) (lo hi : Nat) : Nat :=
  if lo < hi then
    let mid := (lo + hi) / 2
    match xs[mid]? with
    | some x => if below x then firstNotBelow xs below (mid + 1) hi else firstNotBelow xs below lo mid
    | none => lo
  else lo
termination_by hi - lo

def index? (xs : Array α) (probe : α → Ordering) : Option Nat :=
  let i := firstNotBelow xs (probe · == .lt) 0 xs.size
  match xs[i]? with
  | some x => if probe x == .eq then some i else none
  | none => none

end LexPattern.Search
