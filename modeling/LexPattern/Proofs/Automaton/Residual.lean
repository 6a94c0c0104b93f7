import Mathlib
import LexPattern.Proofs.Automaton.Dfa

namespace LexPattern.Automaton

def residuals (l : Language CodePoint) : Set (Language CodePoint) :=
  {r | (∃ v, v ∈ r) ∧ ∃ w : List CodePoint, (∀ x ∈ w, x.isScalar = true) ∧ r = l.leftQuotient w}

namespace Dfa

-- Every state is reached, no two accept the same, and all but the start accept something.
structure Reduced (d : Dfa) : Prop where
  reached : ∀ s < d.size, ∃ w : List CodePoint, (∀ x ∈ w, x.isScalar = true) ∧ d.run? d.start w = some s
  distinct : ∀ s < d.size, ∀ t < d.size, d.languageFrom s = d.languageFrom t → s = t
  productive : ∀ s < d.size, s ≠ d.start → ∃ w, w ∈ d.languageFrom s

variable {d e : Dfa} {s t : Nat} {v w : List CodePoint}

theorem mem_language : w ∈ d.language ↔ (∀ x ∈ w, x.isScalar = true) ∧ d.accepts w = true := Iff.rfl

theorem language_congr (same : ∀ w : List CodePoint, (∀ x ∈ w, x.isScalar = true) → e.accepts w = d.accepts w) :
    e.language = d.language := by
  ext w
  rw [mem_language,mem_language]
  exact and_congr_right fun scalars => by rw [same w scalars]

-- What may follow a text is what the state after it accepts.
theorem leftQuotient_language (scalars : ∀ x ∈ w, x.isScalar = true) (arrives : d.run? d.start w = some s) :
    d.language.leftQuotient w = d.languageFrom s := by
  ext v
  rw [Language.mem_leftQuotient,mem_language,List.forall_mem_append,← acceptsFrom_start,acceptsFrom_append,arrives]
  constructor
  · rintro ⟨⟨_,later⟩,accepted⟩
    exact ⟨later,accepted⟩
  · rintro ⟨later,accepted⟩
    exact ⟨⟨scalars,later⟩,accepted⟩

theorem exists_run?_of_mem (member : w ++ v ∈ d.language) : ∃ s, d.run? d.start w = some s := by
  have accepted := (mem_language.mp member).2
  rw [← acceptsFrom_start,acceptsFrom_append] at accepted
  cases arrives : d.run? d.start w with
  | none =>
    rw [arrives] at accepted
    cases accepted
  | some s => exact ⟨s,rfl⟩

theorem residuals_subset (wellFormed : d.WellFormed) :
    residuals d.language ⊆ d.languageFrom '' (Finset.range d.size : Set Nat) := by
  rintro _ ⟨⟨v,member⟩,w,scalars,rfl⟩
  obtain ⟨s,arrives⟩ := exists_run?_of_mem member
  have bound := wellFormed.run?_lt wellFormed.start_lt arrives
  exact ⟨s,by simpa using bound,(leftQuotient_language scalars arrives).symm⟩

theorem residuals_finite (wellFormed : d.WellFormed) : (residuals d.language).Finite :=
  ((Finset.finite_toSet _).image _).subset (residuals_subset wellFormed)

-- There are no fewer states than residuals.
theorem ncard_residuals_le (wellFormed : d.WellFormed) : max 1 (residuals d.language).ncard ≤ d.size := by
  have states : (Finset.range d.size : Set Nat).Finite := Finset.finite_toSet _
  have counted : (residuals d.language).ncard ≤ d.size := by
    calc (residuals d.language).ncard
        ≤ (d.languageFrom '' (Finset.range d.size : Set Nat)).ncard :=
          Set.ncard_le_ncard (residuals_subset wellFormed) (states.image _)
      _ ≤ (Finset.range d.size : Set Nat).ncard := Set.ncard_image_le states
      _ = d.size := by rw [Set.ncard_coe_finset,Finset.card_range]
  exact max_le (Nat.one_le_of_lt wellFormed.start_lt) counted

namespace Reduced

theorem residuals_eq (wellFormed : d.WellFormed) (reduced : d.Reduced) (accepts : ∃ w, w ∈ d.language) :
    residuals d.language = d.languageFrom '' (Finset.range d.size : Set Nat) := by
  refine (residuals_subset wellFormed).antisymm ?_
  rintro _ ⟨s,member,rfl⟩
  have bound : s < d.size := by simpa using member
  obtain ⟨w,scalars,arrives⟩ := reduced.reached s bound
  refine ⟨?_,w,scalars,(leftQuotient_language scalars arrives).symm⟩
  by_cases isStart : s = d.start
  · rw [isStart]
    exact accepts
  · exact reduced.productive s bound isStart

theorem size_of_empty (wellFormed : d.WellFormed) (reduced : d.Reduced) (empty : ¬ ∃ w, w ∈ d.language) :
    d.size = 1 := by
  have onlyStart : ∀ s < d.size, s = d.start := by
    intro s bound
    by_contra other
    obtain ⟨w,scalars,arrives⟩ := reduced.reached s bound
    obtain ⟨v,member⟩ := reduced.productive s bound other
    rw [← leftQuotient_language scalars arrives] at member
    exact empty ⟨w ++ v,member⟩
  have bound := wellFormed.start_lt
  by_contra more
  have zero := onlyStart 0 (by omega)
  have one := onlyStart 1 (by omega)
  omega

theorem size_eq (wellFormed : d.WellFormed) (reduced : d.Reduced) : d.size = max 1 (residuals d.language).ncard := by
  by_cases accepts : ∃ w, w ∈ d.language
  · have injective : Set.InjOn d.languageFrom (Finset.range d.size : Set Nat) := by
      intro s sMember t tMember same
      exact reduced.distinct s (by simpa using sMember) t (by simpa using tMember) same
    rw [reduced.residuals_eq wellFormed accepts,injective.ncard_image,Set.ncard_coe_finset,
      Finset.card_range]
    exact (max_eq_right (Nat.one_le_of_lt wellFormed.start_lt)).symm
  · have none : residuals d.language = ∅ := by
      refine Set.eq_empty_of_forall_notMem ?_
      rintro _ ⟨⟨v,member⟩,w,_,rfl⟩
      exact accepts ⟨w ++ v,member⟩
    rw [reduced.size_of_empty wellFormed accepts,none,Set.ncard_empty]
    rfl

end Reduced

end Dfa

end LexPattern.Automaton
