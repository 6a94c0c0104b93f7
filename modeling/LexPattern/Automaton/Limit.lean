import LexPattern.Limit

namespace LexPattern.Automaton

def defaultLimit : Nat := 10000

theorem bound_pos (limit : Int) : 0 < inForce defaultLimit limit := inForce_pos (by decide) limit

inductive Stage where
  | nfa
  | dfa
deriving DecidableEq, Repr

def Stage.label : Stage → String
  | nfa => "NFA"
  | dfa => "DFA"

structure TooLarge where
  stage : Stage
  limit : Nat
deriving DecidableEq, Repr

def TooLarge.message (e : TooLarge) : String :=
  "automaton: state limit exceeded: " ++ e.stage.label ++ " has more than " ++ toString e.limit
    ++ " states"

end LexPattern.Automaton
