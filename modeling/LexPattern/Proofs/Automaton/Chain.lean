import Mathlib
import LexPattern.Proofs.Automaton.Allocation
import LexPattern.Proofs.Automaton.Subsets

namespace LexPattern.Automaton

open LexPattern.Core (Expr)

-- Every edge leads to the next state. Even states are left by reading, odd ones silently.
def Chained (edges : List Edge) : Prop := ∀ e ∈ edges, e.target = e.source + 1 ∧ (e.label = none ↔ e.source % 2 = 1)

structure Chain (f : Fragment) (s : Sketch) : Prop where
  size : ∃ i, s.size = 2 * i + 2 ∧ f.outs = [2 * i + 1]
  chained : Chained s.edges.toList

variable {edges : List Edge} {limit p q : Nat} {s s' : Sketch} {f g : Fragment} {n : Nfa} {e : Expr} {w : List CodePoint}
  {x : CodePoint}

section Construction

variable {c : CodePoint} {cs : List CodePoint}

theorem spell_chain (chain : Chain f s) (accepted : spell limit f cs s = some (g,s')) : Chain g s' ∧ g.start = f.start := by
  induction cs generalizing f s with
  | nil =>
    cases accepted
    exact ⟨chain,rfl⟩
  | cons c cs ih =>
    obtain ⟨⟨part,s₁⟩,read,rest⟩ := Option.bind_eq_some_iff.mp accepted
    obtain ⟨rfl,size₁,edges₁⟩ := consume_eq_some read
    obtain ⟨⟨i,size,outs⟩,chained⟩ := chain
    refine ih (f := ⟨f.start,[s.size + 1]⟩) ⟨⟨i + 1,?_,?_⟩,?_⟩ rest
    · rw [Sketch.patch_size]
      omega
    · rw [size]
      rfl
    · rw [Sketch.patch_edges,edges₁,outs,size]
      refine List.forall_mem_append.mpr ⟨List.forall_mem_append.mpr ⟨chained,?_⟩,?_⟩
      · simp
      · simp [bridges]

theorem ofExpr?_chained (accepted : Nfa.ofExpr? limit (.literal (c :: cs)) = some n) :
    Chained n.edges.toList ∧ n.start = 0 := by
  obtain ⟨⟨whole,s₁⟩,built,rest⟩ := Option.bind_eq_some_iff.mp accepted
  rw [construct] at built
  obtain ⟨⟨first,s₀⟩,read,spelled⟩ := Option.bind_eq_some_iff.mp built
  obtain ⟨rfl,size₀,edges₀⟩ := consume_eq_some read
  have start : Chain ⟨Sketch.new.size,[Sketch.new.size + 1]⟩ s₀ := by
    refine ⟨⟨0,size₀,rfl⟩,?_⟩
    rw [edges₀]
    simp [Chained,Sketch.new]
  obtain ⟨⟨⟨i,size,outs⟩,chained⟩,begins⟩ := spell_chain start spelled
  obtain ⟨⟨accept,s₂⟩,made,done⟩ := Option.bind_eq_some_iff.mp rest
  obtain ⟨rfl,_,same⟩ := Sketch.fresh_eq_some made
  cases done
  refine ⟨?_,begins⟩
  rw [Sketch.patch_edges,same,outs,size]
  refine List.forall_mem_append.mpr ⟨chained,?_⟩
  simp [bridges]

end Construction

section Reached

-- Half the number of a state counts the characters read on the way.
theorem Walk.half (chained : Chained edges) (walk : Walk edges p w q) : (q + 1) / 2 = (p + 1) / 2 + w.length := by
  induction walk with
  | stay => simp
  | silent edge _ ih =>
    obtain ⟨next,parity⟩ := chained _ edge
    have odd := parity.mp rfl
    simp only at next odd
    omega
  | read edge _ _ ih =>
    obtain ⟨next,parity⟩ := chained _ edge
    have even := mt parity.mpr (Option.some_ne_none _)
    simp only [List.length_cons] at next even ⊢
    omega

variable (chained : Chained n.edges.toList) (begins : n.start = 0)

include chained begins

theorem eq_of_mem_move (member : q ∈ n.move (n.graph.eval w) x) : q = 2 * w.length + 1 := by
  obtain ⟨p,after,c,edge,_⟩ := Nfa.mem_move.mp member
  have half := (Nfa.mem_eval.mp after).half chained
  obtain ⟨next,parity⟩ := chained _ edge
  have even := mt parity.mpr (Option.some_ne_none c)
  simp only [begins] at next even half
  omega

theorem reached_ncard_le (framed : Framed 0 n.size n.edges.toList) : n.reached.ncard ≤ n.size / 2 + 1 := by
  have included : n.reached ⊆
      insert (n.graph.eval []) ((fun i => n.graph.εClosure {2 * i + 1}) '' Set.Iio (n.size / 2)) := by
    intro states reached
    obtain ⟨nonempty,w,_,rfl⟩ := reached
    induction w using List.reverseRecOn with
    | nil => exact .inl rfl
    | append_singleton w x _ =>
      rw [Nfa.eval_snoc] at nonempty ⊢
      obtain ⟨q,member⟩ := Nfa.εClosure_nonempty_iff.mp nonempty
      have only : n.move (n.graph.eval w) x = {2 * w.length + 1} := by
        refine Set.eq_singleton_iff_nonempty_unique_mem.mpr ⟨⟨q,member⟩,fun r => eq_of_mem_move chained begins⟩
      obtain ⟨p,_,c,edge,_⟩ := Nfa.mem_move.mp member
      have inside : q < n.size := (framed.inside _ edge).2.2
      have place : q = 2 * w.length + 1 := eq_of_mem_move chained begins member
      refine .inr ⟨w.length,?_,by rw [only]⟩
      rw [Set.mem_Iio]
      omega
  calc n.reached.ncard
      ≤ (insert (n.graph.eval []) ((fun i => n.graph.εClosure {2 * i + 1}) '' Set.Iio (n.size / 2))).ncard :=
        Set.ncard_le_ncard included (((Set.finite_Iio _).image _).insert _)
    _ ≤ ((fun i => n.graph.εClosure {2 * i + 1}) '' Set.Iio (n.size / 2)).ncard + 1 := Set.ncard_insert_le _ _
    _ ≤ (Set.Iio (n.size / 2)).ncard + 1 := Nat.add_le_add_right (Set.ncard_image_le (Set.finite_Iio _)) 1
    _ = n.size / 2 + 1 := by rw [Set.ncard_Iio_nat]

end Reached

theorem ofExpr?_silent (accepted : Nfa.ofExpr? limit .empty = some n) : ∀ e ∈ n.edges.toList, e.label = none := by
  obtain ⟨⟨whole,s₁⟩,built,rest⟩ := Option.bind_eq_some_iff.mp accepted
  rw [construct] at built
  obtain ⟨⟨first,s₀⟩,passed,fragment⟩ := Option.bind_eq_some_iff.mp built
  obtain ⟨rfl,_,edges₀⟩ := Sketch.fresh_eq_some passed
  cases fragment
  obtain ⟨⟨accept,s₂⟩,made,done⟩ := Option.bind_eq_some_iff.mp rest
  obtain ⟨rfl,_,edges₂⟩ := Sketch.fresh_eq_some made
  cases done
  rw [Sketch.patch_edges,edges₂,edges₀]
  simp [bridges,Sketch.new]

theorem reached_ncard_le_one (silent : ∀ e ∈ n.edges.toList, e.label = none) : n.reached.ncard ≤ 1 := by
  have included : n.reached ⊆ {n.graph.eval []} := by
    intro states reached
    obtain ⟨nonempty,w,_,rfl⟩ := reached
    induction w using List.reverseRecOn with
    | nil => exact rfl
    | append_singleton w x _ =>
      rw [Nfa.eval_snoc] at nonempty
      obtain ⟨q,member⟩ := Nfa.εClosure_nonempty_iff.mp nonempty
      obtain ⟨p,_,c,edge,_⟩ := Nfa.mem_move.mp member
      cases silent _ edge
  calc n.reached.ncard ≤ ({n.graph.eval []} : Set (Set Nat)).ncard := Set.ncard_le_ncard included (Set.finite_singleton _)
    _ = 1 := Set.ncard_singleton _

-- Where no more sets are reached than there are states, the states alone decide whether a limit is passed.
theorem Dfa.ofExpr_of_few (wellFormed : e.WellFormed)
    (few : ∀ bound n, Nfa.ofExpr? bound e = some n → n.reached.ncard ≤ n.size) (limit : Int) :
    if e.stateCount + 1 ≤ inForce defaultLimit limit then ∃ d, ofExpr limit e = .ok d
    else ofExpr limit e = .error ⟨.nfa,inForce defaultLimit limit⟩ := by
  obtain ⟨n,size,made⟩ := Nfa.ofExpr?_eq e
  split
  · rename_i room
    have constructed : Nfa.ofExpr? (inForce defaultLimit limit) e = some n := by rw [made,if_pos room]
    have recognises := Nfa.ofExpr?_recognises wellFormed constructed
    rcases ofNfa_outcome recognises.framed recognises.start_lt limit with ⟨_,d,_,determinised,_⟩ | ⟨many,_⟩
    · exact ⟨d.minimize,ofExpr_eq_ok_iff.mpr ⟨n,d,constructed,determinised,rfl⟩⟩
    · have bounded := few _ n constructed
      omega
  · rename_i full
    have refused : Nfa.ofExpr? (inForce defaultLimit limit) e = none := by rw [made,if_neg full]
    simp only [ofExpr,Nfa.ofExpr,refused]
    rfl

end LexPattern.Automaton
