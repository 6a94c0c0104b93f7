import Mathlib
import LexPattern.Proofs.Automaton.Exploration
import LexPattern.Proofs.Automaton.LeastText

namespace LexPattern.Automaton

namespace Dfa

-- The edge on which the numbering meets state `j`: every edge before it leads to a smaller number.
structure Discovers (d : Dfa) (p c j : Nat) : Prop where
  leads : d.target? p c = some j
  first : ∀ {p' c' i : Nat}, p' < p ∨ p' = p ∧ c' < c → d.target? p' c' = some i → i < j

structure BreadthFirst (d : Dfa) : Prop where
  start : d.start = 0
  discovered : ∀ j < d.size, 0 < j → ∃ p c, p < j ∧ d.Discovers p c j

end Dfa

section Exploration

variable {σ : Type} [BEq σ] [Hashable σ] [LawfulBEq σ] [LawfulHashable σ] {m : System σ} {n n' : Numbering σ} {x : σ}
  {segments : Array Segment} {limit : Nat} {cs : List Nat} {row row' : Array (Option Nat)} {states : Array DfaState}

def Below (row : Array (Option Nat)) (bound : Nat) : Prop := ∀ c i : Nat, row[c]? = some (some i) → i < bound

theorem Below.push {entry : Option Nat} {bound more : Nat} (below : Below row bound) (grown : bound ≤ more)
    (last : ∀ i ∈ entry, i < more) : Below (row.push entry) more := by
  intro c i found
  rw [Array.getElem?_push] at found
  split at found
  · exact last i (Option.some.inj found)
  · exact (below c i found).trans_le grown

omit [LawfulBEq σ] [LawfulHashable σ] in
theorem Numbering.visit_number (lawful : n.Lawful) {i : Nat} (accepted : n.visit limit x = some (i,n')) :
    i < n.nodes.size ∧ n' = n ∨ i = n.nodes.size ∧ n'.nodes.size = n.nodes.size + 1 := by
  unfold visit at accepted
  split at accepted
  · rename_i found
    cases accepted
    have place := (List.getElem?_eq_some_iff.mp ((lawful x i).mp found)).1
    exact .inl ⟨by simpa using place,rfl⟩
  · split at accepted
    · cases accepted
      exact .inr ⟨rfl,by simp⟩
    · cases accepted

theorem System.row_ordered (lawful : n.Lawful) (below : Below row n.nodes.size)
    (accepted : m.row limit x cs row n = some (row',n')) :
    n.nodes.size ≤ n'.nodes.size ∧ Below row' n'.nodes.size ∧
      ∀ j, n.nodes.size ≤ j → j < n'.nodes.size → ∃ c : Nat, row'[c]? = some (some j) ∧
        ∀ c' < c, ∀ i, row'[c']? = some (some i) → i < j := by
  induction cs generalizing n row with
  | nil =>
    cases accepted
    exact ⟨le_rfl,below,fun j low high => absurd high (not_lt.mpr low)⟩
  | cons k cs ih =>
    rw [System.row] at accepted
    split at accepted
    · exact ih lawful (below.push le_rfl (by simp)) accepted
    · rename_i y leads
      split at accepted
      · cases accepted
      · rename_i i n₁ visited
        have lawful' := (Numbering.visit_eq_some lawful visited).1.lawful
        rcases Numbering.visit_number lawful visited with ⟨known,rfl⟩ | ⟨rfl,size⟩
        · exact ih lawful (below.push le_rfl (by simpa using known)) accepted
        · have pushed : Below (row.push (some n.nodes.size)) n₁.nodes.size := below.push (by omega) (by simp [size])
          obtain ⟨grown,below',later⟩ := ih lawful' pushed accepted
          obtain ⟨_,added,rows,_⟩ := row_eq_some lawful' accepted
          have kept : ∀ c ≤ row.size, row'[c]? = (row.push (some n.nodes.size))[c]? := by
            intro c bound
            rw [← Array.getElem?_toList,rows,List.getElem?_append_left (by simpa using Nat.lt_succ_of_le bound),
              Array.getElem?_toList]
          refine ⟨by omega,below',fun j low high => ?_⟩
          rcases Nat.eq_or_lt_of_le low with rfl | above
          · refine ⟨row.size,by rw [kept _ le_rfl]; simp,fun c before i found => ?_⟩
            rw [kept c before.le,Array.getElem?_push,if_neg before.ne] at found
            exact below c i found
          · exact later j (by omega) high

theorem target?_push {state : DfaState} (p c : Nat) :
    (Dfa.mk segments 0 (states.push state)).target? p c =
      if p = states.size then state.next[c]?.join else (Dfa.mk segments 0 states).target? p c := by
  unfold Dfa.target?
  rw [Array.getElem?_push]
  by_cases last : p = states.size
  · rw [if_pos last,if_pos last]
  · rw [if_neg last,if_neg last]

structure Ordered (segments : Array Segment) (states : Array DfaState) (count : Nat) : Prop where
  below : ∀ {p c i : Nat}, (Dfa.mk segments 0 states).target? p c = some i → i < count
  discovered : ∀ j < count, 0 < j → ∃ p c, p < j ∧ (Dfa.mk segments 0 states).Discovers p c j

theorem Ordered.step (ordered : Ordered segments states n.nodes.size) (lawful : n.Lawful)
    (next : n.nodes[states.size]? = some x) {state : DfaState} {width : Nat}
    (made : m.row limit x (List.range width) #[] n = some (state.next,n')) :
    Ordered segments (states.push state) n'.nodes.size := by
  have place : states.size < n.nodes.size := (Array.getElem?_eq_some_iff.mp next).1
  have empty : Below #[] n.nodes.size := by
    intro c i found
    simp at found
  obtain ⟨grown,below,fresh⟩ := System.row_ordered lawful empty made
  have older : ∀ {p c i : Nat}, p ≠ states.size → (Dfa.mk segments 0 (states.push state)).target? p c = some i →
      (Dfa.mk segments 0 states).target? p c = some i := by
    intro p c i other found
    rwa [target?_push,if_neg other] at found
  have newest : ∀ {c i : Nat}, (Dfa.mk segments 0 (states.push state)).target? states.size c = some i →
      state.next[c]? = some (some i) := by
    intro c i found
    rw [target?_push,if_pos rfl] at found
    exact Option.join_eq_some_iff.mp found
  refine ⟨?_,?_⟩
  · intro p c i found
    by_cases last : p = states.size
    · subst last
      exact below c i (newest found)
    · exact (ordered.below (older last found)).trans_le grown
  · intro j bound positive
    by_cases known : j < n.nodes.size
    · obtain ⟨p,c,smaller,leads,first⟩ := ordered.discovered j known positive
      have inStates : p < states.size := Dfa.source_lt leads
      refine ⟨p,c,smaller,by rwa [target?_push,if_neg inStates.ne],fun {p' c' i} before found => ?_⟩
      exact first before (older (by omega) found)
    · obtain ⟨c,leads,first⟩ := fresh j (not_lt.mp known) bound
      refine ⟨states.size,c,by omega,by rw [target?_push,if_pos rfl,leads]; rfl,?_⟩
      rintro p' c' i (before | ⟨rfl,before⟩) found
      · have old := ordered.below (older before.ne found)
        omega
      · exact first c' before i (newest found)

theorem System.explore_breadthFirst {width : Nat} (segments : Array Segment) (positive : 0 < limit)
    (accepted : m.explore width limit = some states) : (Dfa.mk segments 0 states).BreadthFirst := by
  have initial : Ordered segments #[] (Numbering.new m.start).nodes.size := by
    refine ⟨?_,?_⟩
    · intro p c i found
      simp [Dfa.target?] at found
    · intro j bound positive
      have one : j < 1 := bound
      omega
  obtain ⟨n,settled,ordered,_⟩ := explore_keeps (P := fun states n => Ordered segments states n.nodes.size)
    (fun settled ordered next made => ordered.step settled.lawful next made) initial positive accepted
  exact ⟨rfl,fun j bound positive => ordered.discovered j (bound.trans_le settled.size_le) positive⟩

end Exploration

namespace Dfa

variable {d : Dfa} {i j p c : Nat} {u v w : List CodePoint}

-- The text along the edges on which the states were met, by the lowest character of each segment.
inductive Discovered (d : Dfa) : Nat → List CodePoint → Prop where
  | start : Discovered d 0 []
  | next {p c j : Nat} {segment : Segment} {w : List CodePoint} (smaller : p < j) (edge : d.Discovers p c j)
      (atC : d.segments[c]? = some segment) (before : Discovered d p w) : Discovered d j (w ++ [segment.lo])

-- Of two states the one on the earlier edge is met first.
theorem Discovers.order {p' c' : Nat} (first : d.Discovers p c i) (second : d.Discovers p' c' j) (less : i < j) :
    p < p' ∨ p = p' ∧ c < c' := by
  rcases Nat.lt_trichotomy p p' with before | rfl | after
  · exact .inl before
  · rcases Nat.lt_trichotomy c c' with before | rfl | after
    · exact .inr ⟨rfl,before⟩
    · have same := Option.some.inj (first.leads.symm.trans second.leads)
      omega
    · have other := first.first (.inr ⟨rfl,after⟩) second.leads
      omega
  · have other := first.first (.inl after) second.leads
    omega

theorem Discovers.unique {p' c' : Nat} (first : d.Discovers p c j) (second : d.Discovers p' c' j) : p = p' ∧ c = c' := by
  have notBefore : ¬ (p < p' ∨ p = p' ∧ c < c') := fun before => lt_irrefl j (second.first before first.leads)
  have notAfter : ¬ (p' < p ∨ p' = p ∧ c' < c) := fun after => lt_irrefl j (first.first after second.leads)
  omega

namespace Discovered

theorem unique (first : d.Discovered j u) (second : d.Discovered j v) : u = v := by
  induction first generalizing v with
  | start =>
    cases second with
    | start => rfl
    | next smaller => omega
  | next smaller edge atC before ih =>
    cases second with
    | start => omega
    | next smaller' edge' atC' before' =>
      obtain ⟨rfl,rfl⟩ := edge.unique edge'
      rw [ih before',Option.some.inj (atC.symm.trans atC')]

-- Later numbers have later texts. The induction is on the way to the later state.
theorem rank_lt (wellFormed : d.WellFormed) (first : d.Discovered i u) (second : d.Discovered j v) (less : i < j) :
    rank u < rank v := by
  induction second generalizing i u with
  | start => omega
  | next smaller edge atC before ih =>
    cases first with
    | start => exact rank_nil_lt
    | next smaller' edge' atC' before' =>
      rcases edge'.order edge less with earlier | ⟨rfl,lower⟩
      · exact rank_snoc_lt (ih before' earlier)
      · rw [before'.unique before]
        exact rank_snoc_lt_of_last (wellFormed.segmented.lo_lt atC' atC lower)

theorem leads (wellFormed : d.WellFormed) (start : d.start = 0) (met : d.Discovered j w) : d.Leads w j := by
  induction met with
  | start =>
    rw [← start]
    exact leads_nil
  | next smaller edge atC before ih =>
    obtain ⟨segment,atC',scalar,stepped⟩ := wellFormed.step?_lowest edge.leads
    cases atC.symm.trans atC'
    exact leads_snoc.mpr ⟨_,ih,scalar,stepped⟩

end Discovered

namespace BreadthFirst

theorem exists_discovered (wellFormed : d.WellFormed) (breadthFirst : d.BreadthFirst) (bound : j < d.size) :
    ∃ w, d.Discovered j w := by
  induction j using Nat.strong_induction_on with
  | _ j ih =>
    rcases Nat.eq_zero_or_pos j with rfl | positive
    · exact ⟨[],.start⟩
    · obtain ⟨p,c,smaller,edge⟩ := breadthFirst.discovered j bound positive
      obtain ⟨w,before⟩ := ih p smaller (smaller.trans bound)
      obtain ⟨segment,atC,_⟩ := wellFormed.step?_lowest edge.leads
      exact ⟨w ++ [segment.lo],.next smaller edge atC before⟩

-- Whatever leads to a state comes no earlier than the text along which the state was met. The induction is on the
-- text: its last edge is no earlier than the edge on which the state was met.
theorem rank_le (wellFormed : d.WellFormed) (breadthFirst : d.BreadthFirst) (met : d.Discovered j w)
    (leads : d.Leads u j) : rank w ≤ rank u := by
  induction u using List.reverseRecOn generalizing j w with
  | nil =>
    have atStart := leads.unique leads_nil
    rw [breadthFirst.start] at atStart
    subst atStart
    rw [met.unique .start]
  | append_singleton u x ih =>
    obtain ⟨s,before,scalar,stepped⟩ := leads_snoc.mp leads
    obtain ⟨c,segment,atC,lowest,target⟩ := wellFormed.exists_segment stepped
    obtain ⟨v,metS⟩ := breadthFirst.exists_discovered wellFormed (before.lt wellFormed)
    have least := ih metS before
    cases met with
    | start => exact rank_nil_lt.le
    | @next p c₀ j segment₀ v₀ smaller edge atC₀ metP =>
      have notEarlier : ¬ (s < p ∨ s = p ∧ c < c₀) := fun earlier => lt_irrefl j (edge.first earlier target)
      rcases Nat.lt_trichotomy p s with less | rfl | more
      · exact (rank_snoc_lt ((metP.rank_lt wellFormed metS less).trans_le least)).le
      · rw [metP.unique metS]
        refine rank_snoc_le least (le_trans ?_ lowest)
        rcases Nat.eq_or_lt_of_le (show c₀ ≤ c by omega) with rfl | below
        · rw [Option.some.inj (atC₀.symm.trans atC)]
        · exact (wellFormed.segmented.lo_lt atC₀ atC below).le
      · omega

theorem leastTo (wellFormed : d.WellFormed) (breadthFirst : d.BreadthFirst) (met : d.Discovered j w) : d.LeastTo w j :=
  ⟨met.leads wellFormed breadthFirst.start,fun _ leads => breadthFirst.rank_le wellFormed met leads⟩

theorem exists_leastTo (wellFormed : d.WellFormed) (breadthFirst : d.BreadthFirst) (bound : j < d.size) :
    ∃ w, d.LeastTo w j := by
  obtain ⟨w,met⟩ := breadthFirst.exists_discovered wellFormed bound
  exact ⟨w,breadthFirst.leastTo wellFormed met⟩

theorem rank_lt (wellFormed : d.WellFormed) (breadthFirst : d.BreadthFirst) (first : d.LeastTo u i)
    (second : d.LeastTo v j) (less : i < j) : rank u < rank v := by
  obtain ⟨u',metI⟩ := breadthFirst.exists_discovered wellFormed (first.leads.lt wellFormed)
  obtain ⟨v',metJ⟩ := breadthFirst.exists_discovered wellFormed (second.leads.lt wellFormed)
  rw [first.unique (breadthFirst.leastTo wellFormed metI),second.unique (breadthFirst.leastTo wellFormed metJ)]
  exact metI.rank_lt wellFormed metJ less

end BreadthFirst

end Dfa

end LexPattern.Automaton
