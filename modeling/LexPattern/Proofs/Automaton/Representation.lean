import Mathlib
import LexPattern.Proofs.Automaton.Canonical
import LexPattern.Proofs.Automaton.Product
import LexPattern.Proofs.Automaton.Recognition

namespace LexPattern.Automaton

open LexPattern.Core (Expr)

namespace Dfa

-- The automata that come from well-formed expressions. The limits of the two constructions may differ.
inductive Made : Dfa → Prop
  | determinised {nfaLimit dfaLimit : Int} {e : Expr} {n : Nfa} {d : Dfa} (wellFormed : e.WellFormed)
    (constructed : Nfa.ofExpr nfaLimit e = .ok n) (determinised : ofNfa dfaLimit n = .ok d) :
    Made d
  | minimized {d : Dfa} (made : Made d) : Made d.minimize
  | intersected {a b : Dfa} (left : Made a) (right : Made b) : Made (a.inter b)

-- States are numbered from the start, which is the first, and all of them are reached. Each has a row of targets, one
-- for every segment. Segments begin at scalars, follow each other without overlap and end within Unicode.
structure Represented (d : Dfa) : Prop where
  start : d.start = 0
  wellFormed : d.WellFormed
  full : d.Full
  reached : ∀ s < d.size, ∃ w : List CodePoint, (∀ x ∈ w, x.isScalar = true) ∧ d.run? d.start w = some s
  ends : ∀ s ∈ d.segments, s.hi ≤ CodePoint.greatest

def Productive (d : Dfa) : Prop :=
  ∀ s < d.size, s ≠ d.start → ∃ (w : List CodePoint) (t : Nat), (∀ x ∈ w, x.isScalar = true) ∧ d.run? s w = some t ∧
    d.isAccepting t = true

end Dfa

theorem System.Listed.represented {σ : Type} {m : System σ} {segments : Array Segment} {nodes : List σ}
    {states : Array DfaState} (listed : m.Listed segments.size nodes states) (segmented : Segmented segments)
    (ends : ∀ s ∈ segments, s.hi ≤ CodePoint.greatest) : (Dfa.mk segments 0 states).Represented where
  start := rfl
  wellFormed := listed.wellFormed segmented
  full := listed.full
  reached := by
    intro s bound
    have inNodes : s < nodes.length := listed.size ▸ bound
    exact listed.exists_run? segmented (List.getElem?_eq_getElem inNodes)
  ends := ends

namespace Dfa

variable {a b d : Dfa}

theorem ofNfa_represented {limit : Int} {n : Nfa} {l : Language CodePoint} (recognises : n.Recognises l)
    (determinised : ofNfa limit n = .ok d) : d.Represented := by
  have tidy := labels_tidy recognises.framed
  obtain ⟨nodes,states,rfl,listed⟩ := ofNfa_listed determinised
  exact listed.represented (partition_segmented tidy) fun s => partition_le_greatest tidy

theorem Represented.minimize (represented : d.Represented) : d.minimize.Represented := by
  obtain ⟨nodes,states,same,listed⟩ := minimize_listed represented.wellFormed
  rw [same]
  exact listed.represented represented.wellFormed.segmented represented.ends

theorem Represented.inter (left : a.Represented) (right : b.Represented) : (a.inter b).Represented := by
  obtain ⟨nodes,states,_,same,listed⟩ := inter_listed left.wellFormed right.wellFormed
  obtain ⟨segmented,ends⟩ := common_segmented left.wellFormed right.wellFormed left.ends right.ends
  rw [same]
  exact listed.represented segmented ends

theorem Made.represented (made : d.Made) : d.Represented := by
  induction made with
  | determinised wellFormed constructed determinised =>
    have recognises := Nfa.ofExpr?_recognises wellFormed (Nfa.ofExpr_eq_ok_iff.mp constructed)
    exact ofNfa_represented recognises determinised
  | minimized _ ih => exact ih.minimize
  | intersected _ _ left right => exact left.inter right

theorem Reduced.productive_run (reduced : d.Reduced) : d.Productive := by
  intro s bound notStart
  obtain ⟨w,scalars,accepted⟩ := reduced.productive s bound notStart
  unfold acceptsFrom at accepted
  split at accepted
  · rename_i t arrives
    exact ⟨w,t,scalars,arrives,accepted⟩
  · cases accepted

-- However an automaton was made, it is represented properly, and minimising it leaves no state without use.
theorem made_invariant (d : Dfa) (made : d.Made) : d.Represented ∧ d.minimize.Productive := by
  have represented := made.represented
  exact ⟨represented,(minimize_reduced represented.wellFormed).productive_run⟩

def straddling : Expr := .concat [.charClass (.ofRanges [⟨0xD7FF,0xE000⟩]),.literal [0xE000]]

theorem made_invariant_straddling : ∃ d : Dfa, d.Made ∧ d.segments = #[⟨0xD7FF,0xDFFF⟩,⟨0xE000,0xE000⟩] ∧
    (d.minimize.inter d).Represented ∧ (d.minimize.inter d).minimize.Productive := by
  have normal : (CharClass.ofRanges [⟨0xD7FF,0xE000⟩]).Normal :=
    (CharClass.Denotes.range (by decide) (by decide) (by decide)).normal
  have wellFormed : straddling.WellFormed := by
    simp only [straddling,Expr.WellFormed,Expr.AllWellFormed]
    exact ⟨normal,by decide,trivial⟩
  have constructs : ∃ n, Nfa.ofExpr? (inForce defaultLimit 100) straddling = some n ∧
      (n.size,partition n.labels) = (5,#[⟨0xD7FF,0xDFFF⟩,⟨0xE000,0xE000⟩]) := Option.map_eq_some_iff.mp (by cbv)
  obtain ⟨n,constructed,shape⟩ := constructs
  obtain ⟨size,segments⟩ := Prod.mk.inj shape
  obtain ⟨d,determinised⟩ := ofNfa_isOk n (show 2 ^ n.size ≤ inForce defaultLimit 100 by rw [size]; decide)
  have made : d.Made := .determinised wellFormed (Nfa.ofExpr_eq_ok_iff.mpr constructed) determinised
  obtain ⟨_,_,same,_⟩ := ofNfa_listed determinised
  refine ⟨d,made,?_,made_invariant _ (made.minimized.intersected made)⟩
  rw [same]
  exact segments

end Dfa

end LexPattern.Automaton
