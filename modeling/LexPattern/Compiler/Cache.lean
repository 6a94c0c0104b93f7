namespace LexPattern

-- Entries are kept with the most recently used one first.
structure Cache (κ : Type u) (ν : Type v) where
  capacity : Nat
  entries : List (κ × ν)

namespace Cache

variable {κ : Type u} {ν : Type v} [DecidableEq κ]

def new (capacity : Nat) : Cache κ ν := ⟨capacity,[]⟩

def size (c : Cache κ ν) : Nat := c.entries.length

def get? (c : Cache κ ν) (key : κ) : Option (ν × Cache κ ν) :=
  (c.entries.lookup key).map fun value =>
    (value,{c with entries := (key,value) :: c.entries.filter (·.1 ≠ key)})

def put (c : Cache κ ν) (key : κ) (value : ν) : Cache κ ν :=
  {c with entries := ((key,value) :: c.entries.filter (·.1 ≠ key)).take c.capacity}

end Cache

end LexPattern
