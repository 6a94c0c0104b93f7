import LexPattern.Automaton.Alphabet
import LexPattern.Automaton.Limit

namespace LexPattern.Automaton

structure DfaState where
  accept : Bool
  next : Array (Option Nat)
deriving DecidableEq, Repr, Inhabited

structure Dfa where
  segments : Array Segment
  start : Nat
  states : Array DfaState
deriving DecidableEq, Repr, Inhabited

namespace Dfa

def size (d : Dfa) : Nat := d.states.size

def isAccepting (d : Dfa) (s : Nat) : Bool :=
  match d.states[s]? with
  | some state => state.accept
  | none => false

def target? (d : Dfa) (s segment : Nat) : Option Nat :=
  match d.states[s]? with
  | some state => state.next[segment]?.join
  | none => none

def step? (d : Dfa) (s : Nat) (c : CodePoint) : Option Nat :=
  match segmentIndex? d.segments c with
  | some segment => d.target? s segment
  | none => none

def run? (d : Dfa) (s : Nat) : List CodePoint → Option Nat
  | [] => some s
  | c :: cs =>
    match d.step? s c with
    | some t => d.run? t cs
    | none => none

def accepts (d : Dfa) (cs : List CodePoint) : Bool :=
  match d.run? d.start cs with
  | some s => d.isAccepting s
  | none => false

end Dfa

end LexPattern.Automaton
