namespace LexPattern

-- The bound that a limit puts in force; a limit that is not positive asks for the default.
def inForce (default : Nat) (limit : Int) : Nat := if limit ≤ 0 then default else limit.toNat

variable {default : Nat} {limit : Int}

theorem inForce_of_pos (positive : 0 < limit) : inForce default limit = limit.toNat := if_neg (Int.not_le.mpr positive)

theorem inForce_pos (positive : 0 < default) (limit : Int) : 0 < inForce default limit := by
  unfold inForce
  split <;> omega

end LexPattern
