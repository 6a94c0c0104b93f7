import Mathlib
import LexPattern.Proofs.Core.Meaning

namespace LexPattern.Core

open Surface (Node Member Atom Amount)
open Text (Span)

variable {ctx : Context}

theorem lowerAtom_wellFormed {a : Atom} {e : Expr} (natural : a.kind.Natural) (lowered : lowerAtom ctx a = .ok e) :
    e.WellFormed := by
  unfold lowerAtom at lowered
  split at lowered
  · cases lowered
    rw [Expr.WellFormed]
    exact CharClass.Denotes.any.normal
  · split at lowered
    · exact absurd lowered reject_ne_ok
    · obtain ⟨c,coded,result⟩ := bind_eq_ok.mp lowered
      cases result
      rw [Expr.WellFormed]
      simpa using (atomCode_denotes natural coded).1

theorem lowerAmount_ordered {span : Span} {amount : Amount} {least : Int} {most : Option Int}
    (lowered : lowerAmount span amount = .ok (least,most)) : 0 ≤ least ∧ ∀ m ∈ most, least ≤ m := by
  obtain ⟨upper,_,rfl,nonneg,ordered⟩ := lowerAmount_eq_ok lowered
  refine ⟨nonneg,fun m bounded => ?_⟩
  obtain ⟨limited,rfl⟩ := mem_upperBound.mp bounded
  exact ordered limited

theorem allWellFormed_of_natural {ns : List Node} {es : List Expr} (natural : Surface.NodesNatural ns)
    (children : List.Forall₂ (fun n e => n.Natural → e.WellFormed) ns es) : Expr.AllWellFormed es := by
  induction children with
  | nil =>
    rw [Expr.AllWellFormed]
    trivial
  | cons first _ ih =>
    rw [Surface.NodesNatural] at natural
    rw [Expr.AllWellFormed]
    exact ⟨first natural.1,ih natural.2⟩

theorem wellFormed_passes : Passes ctx fun _ n e => n.Natural → e.WellFormed where
  alternation children natural := by
    rw [Node.Natural] at natural
    rw [Expr.WellFormed]
    exact allWellFormed_of_natural natural children
  concatenation children natural := by
    rw [Node.Natural] at natural
    rw [Expr.WellFormed]
    exact allWellFormed_of_natural natural children
  group _ inside natural := by
    rw [Node.Natural] at natural
    rw [Expr.WellFormed]
    exact inside natural
  quantification bounded inside natural := by
    rw [Node.Natural] at natural
    obtain ⟨lower,upper⟩ := lowerAmount_ordered bounded
    rw [Expr.WellFormed]
    exact ⟨lower,upper,inside natural.2⟩
  nothing _ _ := by
    rw [Expr.WellFormed]
    trivial
  quote _ _ := by
    rw [Expr.WellFormed]
    intro c member
    obtain ⟨ch,_,rfl⟩ := List.mem_map.mp member
    exact isScalar_ofChar ch
  trivia _ := by
    rw [Expr.WellFormed]
    trivial
  empty _ := by
    rw [Expr.WellFormed]
    trivial
  atom lowered natural := by
    rw [Node.Natural] at natural
    exact lowerAtom_wellFormed natural lowered
  customClass lowered natural := by
    rw [Node.Natural] at natural
    rw [Expr.WellFormed]
    exact (lowerMember_denotes _ _ _ (by rwa [Member.Natural]) lowered).normal

theorem lower_wellFormed {limit : Int} {names : String → Option String} {n : Node} {e : Expr} (natural : n.Natural)
    (lowered : lower limit names n = .ok e) : e.WellFormed :=
  wellFormed_passes.lowerNode n 0 e lowered natural

end LexPattern.Core
