import LexPattern.Automaton.Exploration

namespace LexPattern.Automaton

def pairSystem (a b : Dfa) (segments : Array Segment) : System (Nat × Nat) :=
  let inA := segments.map fun s => segmentIndex? a.segments s.lo
  let inB := segments.map fun s => segmentIndex? b.segments s.lo
  { start := (a.start,b.start)
    accept := fun (s,t) => a.isAccepting s && b.isAccepting t
    next := fun (s,t) c => do
      let i ← inA[c]?.join
      let j ← inB[c]?.join
      let s ← a.target? s i
      let t ← b.target? t j
      return (s,t) }

def Dfa.inter (a b : Dfa) : Dfa :=
  let segments := partition ((a.segments ++ b.segments).toList.map fun s => .ofRanges [s])
  match (pairSystem a b segments).explore segments.size (a.size * b.size) with
  | some states => ⟨segments,0,states⟩
  | none => ⟨segments,0,#[]⟩

end LexPattern.Automaton
