import Mathlib
import LexPattern.Automaton.Dfa
import LexPattern.Proofs.Automaton.Alphabet

namespace LexPattern.Automaton.Dfa

structure WellFormed (d : Dfa) : Prop where
  segmented : Segmented d.segments
  start_lt : d.start < d.size
  inside : ∀ {s c t : Nat}, d.target? s c = some t → c < d.segments.size ∧ t < d.size

def acceptsFrom (d : Dfa) (s : Nat) (w : List CodePoint) : Bool :=
  match d.run? s w with
  | some t => d.isAccepting t
  | none => false

def languageFrom (d : Dfa) (s : Nat) : Language CodePoint := {w | (∀ x ∈ w, x.isScalar = true) ∧ d.acceptsFrom s w = true}

def language (d : Dfa) : Language CodePoint := d.languageFrom d.start

variable {d : Dfa} {s t : Nat} {u v w : List CodePoint}

theorem acceptsFrom_start : d.acceptsFrom d.start w = d.accepts w := rfl

theorem run?_append : d.run? s (u ++ v) = (d.run? s u).bind fun t => d.run? t v := by
  induction u generalizing s with
  | nil => rfl
  | cons c u ih =>
    rw [List.cons_append,run?,run?]
    cases d.step? s c with
    | none => rfl
    | some t => exact ih

theorem acceptsFrom_append : d.acceptsFrom s (u ++ v) = ((d.run? s u).map fun t => d.acceptsFrom t v).getD false := by
  unfold acceptsFrom
  rw [run?_append]
  cases d.run? s u <;> rfl

theorem acceptsFrom_cons {x : CodePoint} :
    d.acceptsFrom s (x :: w) = ((d.step? s x).map fun t => d.acceptsFrom t w).getD false := by
  unfold acceptsFrom
  rw [run?]
  cases d.step? s x <;> rfl

theorem mem_languageFrom_cons {x : CodePoint} : x :: w ∈ d.languageFrom s ↔
    x.isScalar = true ∧ ∃ t, d.step? s x = some t ∧ w ∈ d.languageFrom t := by
  change ((∀ y ∈ x :: w, y.isScalar = true) ∧ d.acceptsFrom s (x :: w) = true) ↔ _ ∧ ∃ t, _ ∧ (_ ∧ d.acceptsFrom t w = true)
  rw [List.forall_mem_cons,acceptsFrom_cons]
  cases d.step? s x with
  | none => simp
  | some t => simp [and_assoc]

theorem step?_eq_some_iff {x : CodePoint} :
    d.step? s x = some t ↔ ∃ c, segmentIndex? d.segments x = some c ∧ d.target? s c = some t := by
  unfold step?
  cases segmentIndex? d.segments x <;> simp

theorem source_lt {c : Nat} (leads : d.target? s c = some t) : s < d.size := by
  by_contra beyond
  rw [target?,Array.getElem?_eq_none (not_lt.mp beyond)] at leads
  cases leads

namespace WellFormed

theorem of_states (starts : ∀ s ∈ d.segments.toList, s.lo.isScalar = true ∧ s.lo ≤ s.hi)
    (order : d.segments.toList.Pairwise fun a b => a.hi < b.lo) (start_lt : d.start < d.size)
    (widths : ∀ state ∈ d.states, state.next.size ≤ d.segments.size)
    (targets : ∀ state ∈ d.states, ∀ target ∈ state.next, ∀ t ∈ target, t < d.size) : d.WellFormed where
  segmented := ⟨starts,order⟩
  start_lt := start_lt
  inside := by
    intro s c t leads
    unfold target? at leads
    split at leads
    · rename_i state atS
      have inStates := Array.mem_of_getElem? atS
      have atC := Option.join_eq_some_iff.mp leads
      have inRow := (Array.getElem?_eq_some_iff.mp atC).1
      exact ⟨inRow.trans_le (widths state inStates),targets state inStates _ (Array.mem_of_getElem? atC) t rfl⟩
    · cases leads

theorem step?_lt (wellFormed : d.WellFormed) {x : CodePoint} (leads : d.step? s x = some t) : t < d.size := by
  obtain ⟨c,_,target⟩ := step?_eq_some_iff.mp leads
  exact (wellFormed.inside target).2

theorem run?_lt (wellFormed : d.WellFormed) (bound : s < d.size) (leads : d.run? s w = some t) : t < d.size := by
  induction w generalizing s with
  | nil =>
    cases leads
    exact bound
  | cons x w ih =>
    rw [run?] at leads
    split at leads
    · rename_i q stepped
      exact ih (wellFormed.step?_lt stepped) leads
    · cases leads

end WellFormed

end LexPattern.Automaton.Dfa
