import LexPattern.Automaton.Dfa
import Std.Data.HashSet

namespace LexPattern.Automaton.Dfa

-- A state and the text that leads to it, last character first.
abbrev Visit := Nat × List CodePoint

def successors (d : Dfa) (v : Visit) : List Visit :=
  (List.range d.segments.size).filterMap fun c =>
    match d.target? v.1 c,d.segments[c]? with
    | some t,some segment => some (t,segment.lo :: v.2)
    | _,_ => none

def newVisits (seen : Std.HashSet Nat) : List Visit → List Visit × Std.HashSet Nat
  | [] => ([],seen)
  | v :: vs =>
    if seen.contains v.1 then newVisits seen vs
    else
      let (rest,seen) := newVisits (seen.insert v.1) vs
      (v :: rest,seen)

-- The text of the first accepting visit, in this layer or a later one. There are at most as many layers
-- as states.
def shortestFrom (d : Dfa) : Nat → List Visit → Std.HashSet Nat → Option (List CodePoint)
  | 0,_,_ => none
  | layers + 1,layer,seen =>
    match layer.find? fun v => d.isAccepting v.1 with
    | some v => some v.2.reverse
    | none =>
      let (next,seen) := newVisits seen (layer.flatMap d.successors)
      if next.isEmpty then none else d.shortestFrom layers next seen

def shortest? (d : Dfa) : Option (List CodePoint) :=
  d.shortestFrom d.size [(d.start,[])] ((∅ : Std.HashSet Nat).insert d.start)

def isEmpty (d : Dfa) : Bool := d.shortest?.isNone

end LexPattern.Automaton.Dfa
