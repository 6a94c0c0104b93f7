import LexPattern.Automaton.Dfa
import LexPattern.Automaton.Nfa

namespace LexPattern.Automaton.Dot

def quoteLabel (label : String) : String :=
  let escape (c : Char) : List Char := if c = '\\' ∨ c = '"' then ['\\',c] else [c]
  "\"" ++ String.ofList (label.toList.flatMap escape) ++ "\""

def node (name : String) (s : Nat) (accept : Bool) : String :=
  let shape := if accept then "doublecircle" else "circle"
  "    " ++ name ++ toString s ++ " [shape=" ++ shape ++ "];\n"

def arrow (name : String) (source target : Nat) (label : String) : String :=
  "    " ++ name ++ toString source ++ " -> " ++ name ++ toString target ++ " [label="
    ++ quoteLabel label ++ "];\n"

def graph (name : String) (start : Nat) (lines : List String) : String :=
  "digraph G \x7b\n    rankdir=LR;\n" ++ String.join lines
    ++ "    _start [shape=point]; _start -> " ++ name ++ toString start ++ ";\n\x7d\n"

end LexPattern.Automaton.Dot

namespace LexPattern.Automaton

def DfaState.targets (s : DfaState) : List Nat :=
  ((s.next.toList.filterMap id).mergeSort (· ≤ ·)).eraseReps

def DfaState.segmentsTo (s : DfaState) (target : Nat) : List Nat :=
  (List.range s.next.size).filter fun c => s.next[c]? == some (some target)

def DfaState.labelTo (s : DfaState) (segments : Array Segment) (target : Nat) : CharClass :=
  spanned segments (s.segmentsTo target)

def Dfa.toDot (d : Dfa) : String :=
  let lines := d.states.toList.zipIdx.flatMap fun (state,i) =>
    Dot.node "q" i state.accept :: state.targets.map fun target =>
      Dot.arrow "q" i target (state.labelTo d.segments target).render
  Dot.graph "q" d.start lines

def Nfa.toDot (n : Nfa) : String :=
  let label (e : Edge) : String := match e.label with
    | some c => c.render
    | none => "ε"
  let lines := n.outgoing.toList.zipIdx.flatMap fun (edges,i) =>
    Dot.node "n" i (i == n.accept) :: edges.toList.map fun e =>
      Dot.arrow "n" i e.target (label e)
  Dot.graph "n" n.start lines

end LexPattern.Automaton
