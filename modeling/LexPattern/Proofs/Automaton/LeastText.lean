import Mathlib
import LexPattern.Proofs.Automaton.Dfa

namespace LexPattern.Automaton

section Rank

def rank (w : List CodePoint) : ℕ ×ₗ List CodePoint := toLex (w.length,w)

variable {u v w : List CodePoint} {a b : CodePoint}

theorem rank_lt_iff : rank u < rank v ↔ u.length < v.length ∨ u.length = v.length ∧ u < v := Prod.Lex.toLex_lt_toLex

theorem rank_lt_iff_shortlex : rank u < rank v ↔ List.Shortlex (· < ·) u v := by
  rw [rank_lt_iff,List.shortlex_def]
  exact Iff.rfl

theorem rank_injective : Function.Injective rank := fun _ _ same => congrArg (fun r => (ofLex r).2) same

theorem rank_le_iff_shortlex : rank u ≤ rank v ↔ v = u ∨ List.Shortlex (· < ·) u v := by
  rw [le_iff_eq_or_lt,rank_lt_iff_shortlex,rank_injective.eq_iff,eq_comm]

theorem length_le_of_rank_le (order : rank u ≤ rank v) : u.length ≤ v.length := by
  by_contra longer
  exact absurd order (not_le.mpr (rank_lt_iff.mpr (.inl (not_le.mp longer))))

theorem rank_nil_le : rank [] ≤ rank w := by
  cases w with
  | nil => exact le_rfl
  | cons x w => exact (rank_lt_iff.mpr (.inl (by simp))).le

theorem rank_nil_lt : rank [] < rank (w ++ [a]) := rank_lt_iff.mpr (.inl (by simp))

theorem append_singleton_lt (same : u.length = v.length) (less : u < v) : u ++ [a] < v ++ [b] := by
  induction u generalizing v with
  | nil =>
    rw [List.eq_nil_of_length_eq_zero same.symm] at less
    exact absurd less (lt_irrefl _)
  | cons x u ih =>
    cases v with
    | nil => cases same
    | cons y v =>
      rw [List.cons_lt_cons_iff] at less
      rw [List.cons_append,List.cons_append,List.cons_lt_cons_iff]
      exact less.imp_right fun ⟨equal,later⟩ => ⟨equal,ih (Nat.succ.inj same) later⟩

-- The characters before the last one decide, if they differ.
theorem rank_snoc_lt (less : rank u < rank v) : rank (u ++ [a]) < rank (v ++ [b]) := by
  rw [rank_lt_iff] at less ⊢
  simp only [List.length_append,List.length_singleton,Nat.add_lt_add_iff_right,Nat.add_right_cancel_iff]
  exact less.imp_right fun ⟨same,before⟩ => ⟨same,append_singleton_lt same before⟩

theorem rank_snoc_lt_of_last (less : a < b) : rank (u ++ [a]) < rank (u ++ [b]) := by
  refine rank_lt_iff.mpr (.inr ⟨by simp,?_⟩)
  induction u with
  | nil => exact List.cons_lt_cons_iff.mpr (.inl less)
  | cons x u ih => exact List.cons_lt_cons_iff.mpr (.inr ⟨rfl,ih⟩)

theorem rank_snoc_le (before : rank u ≤ rank v) (last : a ≤ b) : rank (u ++ [a]) ≤ rank (v ++ [b]) := by
  rcases lt_or_eq_of_le before with less | same
  · exact (rank_snoc_lt less).le
  · rw [rank_injective same]
    rcases Int.lt_or_eq_of_le last with less | rfl
    · exact (rank_snoc_lt_of_last less).le
    · exact le_rfl

end Rank

namespace Dfa

def Leads (d : Dfa) (w : List CodePoint) (s : Nat) : Prop :=
  (∀ x ∈ w, x.isScalar = true) ∧ d.run? d.start w = some s

-- No text that leads there comes before this one.
structure LeastTo (d : Dfa) (w : List CodePoint) (s : Nat) : Prop where
  leads : d.Leads w s
  least : ∀ v, d.Leads v s → rank w ≤ rank v

variable {d : Dfa} {s t c : Nat} {u v w : List CodePoint} {x : CodePoint}

theorem leads_nil : d.Leads [] d.start := ⟨by simp,rfl⟩

theorem leads_snoc : d.Leads (w ++ [x]) t ↔ ∃ s, d.Leads w s ∧ x.isScalar = true ∧ d.step? s x = some t := by
  have last : ∀ s, d.run? s [x] = d.step? s x := by
    intro s
    rw [run?]
    cases d.step? s x <;> rfl
  simp only [Leads,List.forall_mem_append,List.forall_mem_singleton,run?_append,Option.bind_eq_some_iff,last]
  constructor
  · rintro ⟨⟨scalars,scalar⟩,s,before,after⟩
    exact ⟨s,⟨scalars,before⟩,scalar,after⟩
  · rintro ⟨s,⟨scalars,before⟩,scalar,after⟩
    exact ⟨⟨scalars,scalar⟩,s,before,after⟩

theorem Leads.accepts_eq (leads : d.Leads w s) : d.accepts w = d.isAccepting s := by rw [accepts,leads.2]

theorem mem_language_iff_leads : w ∈ d.language ↔ ∃ s, d.Leads w s ∧ d.isAccepting s = true := by
  constructor
  · rintro ⟨scalars,accepted⟩
    rw [acceptsFrom] at accepted
    split at accepted
    · rename_i s arrives
      exact ⟨s,⟨scalars,arrives⟩,accepted⟩
    · cases accepted
  · rintro ⟨s,leads,accepting⟩
    exact ⟨leads.1,leads.accepts_eq.trans accepting⟩

theorem Leads.unique (first : d.Leads w s) (second : d.Leads w t) : s = t := Option.some.inj (first.2.symm.trans second.2)

theorem Leads.lt (leads : d.Leads w s) (wellFormed : d.WellFormed) : s < d.size :=
  wellFormed.run?_lt wellFormed.start_lt leads.2

namespace WellFormed

theorem exists_segment (wellFormed : d.WellFormed) (stepped : d.step? s x = some t) :
    ∃ c segment, d.segments[c]? = some segment ∧ segment.lo ≤ x ∧ d.target? s c = some t := by
  obtain ⟨c,place,target⟩ := step?_eq_some_iff.mp stepped
  obtain ⟨_,segment,atC,inside⟩ := wellFormed.segmented.segmentIndex?_eq_some_iff.mp place
  exact ⟨c,segment,atC,inside.1,target⟩

theorem step?_lowest (wellFormed : d.WellFormed) (leads : d.target? s c = some t) :
    ∃ segment, d.segments[c]? = some segment ∧ segment.lo.isScalar = true ∧ d.step? s segment.lo = some t := by
  have bound := (wellFormed.inside leads).1
  have atC : d.segments[c]? = some d.segments[c] := Array.getElem?_eq_getElem bound
  refine ⟨d.segments[c],atC,(wellFormed.segmented.starts _ (Array.mem_toList_iff.mpr (Array.getElem_mem bound))).1,?_⟩
  rw [step?,wellFormed.segmented.segmentIndex?_lo atC]
  exact leads

end WellFormed

namespace LeastTo

theorem unique (first : d.LeastTo u s) (second : d.LeastTo v s) : u = v :=
  rank_injective (le_antisymm (first.least v second.leads) (second.least u first.leads))

-- A text that passes a state twice can be cut short between the two times.
theorem length_lt (wellFormed : d.WellFormed) (least : d.LeastTo w s) : w.length < d.size := by
  by_contra long
  have passes : ∀ i : Fin (w.length + 1), ∃ q : Fin d.size, d.run? d.start (w.take i) = some (q : Nat) := by
    intro i
    have whole := least.leads.2
    rw [← List.take_append_drop i w,run?_append] at whole
    obtain ⟨q,before,_⟩ := Option.bind_eq_some_iff.mp whole
    exact ⟨⟨q,wellFormed.run?_lt wellFormed.start_lt before⟩,before⟩
  choose state passed using passes
  have twice : ∃ i j, i ≠ j ∧ state i = state j := by
    apply Fintype.exists_ne_map_eq_of_card_lt
    rw [Fintype.card_fin,Fintype.card_fin]
    omega
  obtain ⟨i,j,different,same⟩ := twice
  wlog order : i < j generalizing i j
  · exact this j i different.symm same.symm (lt_of_le_of_ne (not_lt.mp order) different.symm)
  have cut : d.Leads (w.take i ++ w.drop j) s := by
    refine ⟨?_,?_⟩
    · intro x member
      apply least.leads.1
      rcases List.mem_append.mp member with first | last
      · exact List.mem_of_mem_take first
      · exact List.mem_of_mem_drop last
    · have whole := least.leads.2
      rw [← List.take_append_drop j w,run?_append,passed j] at whole
      rw [run?_append,passed i,same]
      exact whole
  have longer := length_le_of_rank_le (least.least _ cut)
  rw [List.length_append,List.length_take,List.length_drop] at longer
  omega

end LeastTo

end Dfa

end LexPattern.Automaton
