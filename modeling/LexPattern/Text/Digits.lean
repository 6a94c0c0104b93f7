namespace LexPattern.Text

def hexLower (width n : Nat) : String :=
  String.ofList ((Nat.toDigits 16 n).leftpad width '0')

def hexUpper (width n : Nat) : String :=
  String.ofList (((Nat.toDigits 16 n).map Char.toUpper).leftpad width '0')

def digitValue? (c : Char) : Option Nat :=
  if '0' ≤ c ∧ c ≤ '9' then some (c.toNat - '0'.toNat)
  else if 'a' ≤ c ∧ c ≤ 'z' then some (c.toNat - 'a'.toNat + 10)
  else if 'A' ≤ c ∧ c ≤ 'Z' then some (c.toNat - 'A'.toNat + 10)
  else none

def greatestWord : Nat := 0xFFFFFFFF

def greatestInteger : Nat := 0x7FFFFFFFFFFFFFFF

inductive NumeralError where
  | badDigit
  | tooLarge
deriving DecidableEq, Repr

def readDigits (base bound : Nat) (value : Nat) : List Char → Except NumeralError Nat
  | [] => .ok value
  | c :: cs =>
    match digitValue? c with
    | none => .error .badDigit
    | some d =>
      if base ≤ d then .error .badDigit
      else if bound < value * base + d then .error .tooLarge
      else readDigits base bound (value * base + d) cs

def readNumeral (base bound : Nat) (cs : List Char) : Except NumeralError Nat :=
  if cs.isEmpty then .error .badDigit else readDigits base bound 0 cs

end LexPattern.Text
