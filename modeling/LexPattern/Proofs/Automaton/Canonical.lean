import Mathlib
import LexPattern.Proofs.Automaton.BreadthFirst
import LexPattern.Proofs.Automaton.Minimality

namespace LexPattern.Automaton

-- The first text that leaves a residual. Where nothing can follow, only the empty text counts.
structure Leader (l : Language CodePoint) (w : List CodePoint) : Prop where
  scalars : ∀ x ∈ w, x.isScalar = true
  alive : w = [] ∨ ∃ v, v ∈ l.leftQuotient w
  first : ∀ v : List CodePoint, (∀ x ∈ v, x.isScalar = true) → l.leftQuotient v = l.leftQuotient w → rank w ≤ rank v

namespace Dfa

-- What minimisation arrives at: a reduced automaton, numbered breadth first, in which no edge leads to a state that
-- accepts nothing.
structure Canonical (d : Dfa) : Prop where
  wellFormed : d.WellFormed
  reduced : d.Reduced
  breadthFirst : d.BreadthFirst
  trim : ∀ {s t : Nat} {x : CodePoint}, d.step? s x = some t → ∃ w, w ∈ d.languageFrom t

structure Agrees (d e : Dfa) : Prop where
  size : d.size = e.size
  start : d.start = e.start
  accept : ∀ s, d.isAccepting s = e.isAccepting s
  step : ∀ s x, d.step? s x = e.step? s x

def Full (d : Dfa) : Prop := ∀ state ∈ d.states, state.next.size = d.segments.size

-- The form of every compiled automaton: it is canonical, and its segments end at scalars or with the surrogates.
structure Finished (d : Dfa) : Prop where
  canonical : d.Canonical
  full : d.Full
  ends : ∀ s ∈ d.segments, s.hi.isScalar = true ∨ s.hi = CodePoint.surrogateLast

variable {d e : Dfa} {s t i j : Nat} {u v w : List CodePoint} {x : CodePoint}

theorem Finished.le_greatest (finished : d.Finished) : ∀ s ∈ d.segments, s.hi ≤ CodePoint.greatest := by
  intro s member
  rcases finished.ends s member with scalar | last
  · exact (CodePoint.isScalar_iff.mp scalar).2.1
  · rw [last]
    decide

section Leads

theorem Leads.leftQuotient_eq (leads : d.Leads w s) : d.language.leftQuotient w = d.languageFrom s :=
  leftQuotient_language leads.1 leads.2

theorem exists_leads (scalars : ∀ x ∈ w, x.isScalar = true) (alive : v ∈ d.language.leftQuotient w) :
    ∃ s, d.Leads w s := by
  obtain ⟨s,arrives⟩ := exists_run?_of_mem alive
  exact ⟨s,scalars,arrives⟩

theorem step?_lt_size (stepped : d.step? s x = some t) : s < d.size := by
  obtain ⟨_,_,target⟩ := step?_eq_some_iff.mp stepped
  exact source_lt target

theorem step?_isScalar (stepped : d.step? s x = some t) : x.isScalar = true := by
  obtain ⟨_,place,_⟩ := step?_eq_some_iff.mp stepped
  by_contra notScalar
  simp [segmentIndex?,notScalar] at place

theorem step?_eq_none (segmented : Segmented d.segments) (outside : ∀ segment ∈ d.segments, x ∉ segment) :
    d.step? s x = none := by
  refine Option.eq_none_iff_forall_ne_some.mpr fun t stepped => ?_
  obtain ⟨c,place,_⟩ := step?_eq_some_iff.mp stepped
  obtain ⟨_,segment,atC,inside⟩ := segmented.segmentIndex?_eq_some_iff.mp place
  exact outside segment (Array.mem_of_getElem? atC) inside

end Leads

section Uniqueness

namespace Canonical

theorem leads_inj (canonical : d.Canonical) (first : d.Leads u s) (second : d.Leads v t)
    (same : d.language.leftQuotient u = d.language.leftQuotient v) : s = t := by
  rw [first.leftQuotient_eq,second.leftQuotient_eq] at same
  exact canonical.reduced.distinct s (first.lt canonical.wellFormed) t (second.lt canonical.wellFormed) same

-- The least texts of the states are known from the language alone.
theorem leader_iff (canonical : d.Canonical) : Leader d.language w ↔ ∃ s, d.LeastTo w s := by
  constructor
  · rintro ⟨scalars,alive,first⟩
    have arrives : ∃ s, d.Leads w s := by
      rcases alive with rfl | ⟨v,follows⟩
      · exact ⟨d.start,leads_nil⟩
      · exact exists_leads scalars follows
    obtain ⟨s,leads⟩ := arrives
    refine ⟨s,leads,fun v other => first v other.1 ?_⟩
    rw [leads.leftQuotient_eq,other.leftQuotient_eq]
  · rintro ⟨s,leads,least⟩
    have alive : w = [] ∨ ∃ v, v ∈ d.language.leftQuotient w := by
      rcases List.eq_nil_or_concat w with empty | ⟨u,x,rfl⟩
      · exact .inl empty
      · rw [List.concat_eq_append] at leads ⊢
        obtain ⟨_,_,_,stepped⟩ := leads_snoc.mp leads
        rw [leads.leftQuotient_eq]
        exact .inr (canonical.trim stepped)
    refine ⟨leads.1,alive,fun v scalars same => ?_⟩
    rcases alive with rfl | ⟨follower,follows⟩
    · exact rank_nil_le
    · obtain ⟨t,other⟩ := exists_leads scalars (same ▸ follows)
      exact least v (canonical.leads_inj other leads same ▸ other)

theorem exists_leastTo (canonical : d.Canonical) (bound : i < d.size) : ∃ w, d.LeastTo w i :=
  canonical.breadthFirst.exists_leastTo canonical.wellFormed bound

-- A least text has the number that it has in any other automaton of the same form. The induction is on the number:
-- a smaller number elsewhere belongs to an earlier text here, and the reverse.
theorem leastTo_transfer (canonical : d.Canonical) (other : e.Canonical) (same : d.language = e.language)
    (least : d.LeastTo w i) : e.LeastTo w i := by
  induction i using Nat.strong_induction_on generalizing w with
  | _ i ih =>
    obtain ⟨j,elsewhere⟩ := other.leader_iff.mp (same ▸ canonical.leader_iff.mpr ⟨i,least⟩)
    rcases Nat.lt_trichotomy j i with smaller | rfl | larger
    · obtain ⟨u,earlier⟩ := canonical.exists_leastTo (smaller.trans (least.leads.lt canonical.wellFormed))
      rw [(ih j smaller earlier).unique elsewhere] at earlier
      exact absurd (earlier.leads.unique least.leads) smaller.ne
    · exact elsewhere
    · obtain ⟨u,earlier⟩ := other.exists_leastTo (larger.trans (elsewhere.leads.lt other.wellFormed))
      obtain ⟨k,here⟩ := canonical.leader_iff.mp (same ▸ other.leader_iff.mpr ⟨i,earlier⟩)
      have before := other.breadthFirst.rank_lt other.wellFormed earlier elsewhere larger
      have smaller : k < i := by
        rcases Nat.lt_trichotomy k i with less | rfl | more
        · exact less
        · exact absurd (here.unique least) (fun equal => before.ne (congrArg rank equal))
        · exact absurd (canonical.breadthFirst.rank_lt canonical.wellFormed least here more) before.not_gt
      exact absurd ((ih k smaller here).leads.unique earlier.leads) smaller.ne

theorem step?_transfer (canonical : d.Canonical) (other : e.Canonical) (same : d.language = e.language)
    (stepped : d.step? s x = some t) : e.step? s x = some t := by
  obtain ⟨w,least⟩ := canonical.exists_leastTo (step?_lt_size stepped)
  have elsewhere := canonical.leastTo_transfer other same least
  have leads : d.Leads (w ++ [x]) t := leads_snoc.mpr ⟨s,least.leads,step?_isScalar stepped,stepped⟩
  obtain ⟨v,follows⟩ := canonical.trim stepped
  rw [← leads.leftQuotient_eq,same] at follows
  obtain ⟨t',arrives⟩ := exists_leads leads.1 follows
  obtain ⟨s',before,_,stepped'⟩ := leads_snoc.mp arrives
  rw [before.unique elsewhere.leads] at stepped'
  -- The state reached there leaves the residual that `t` leaves, here and so there.
  obtain ⟨u,leastT⟩ := canonical.exists_leastTo (leads.lt canonical.wellFormed)
  have residual : e.language.leftQuotient (w ++ [x]) = e.language.leftQuotient u := by
    rw [← same,leads.leftQuotient_eq,leastT.leads.leftQuotient_eq]
  rw [stepped',other.leads_inj arrives (canonical.leastTo_transfer other same leastT).leads residual]

theorem size_eq (canonical : d.Canonical) (other : e.Canonical) (same : d.language = e.language) : d.size = e.size := by
  rw [canonical.reduced.size_eq canonical.wellFormed,other.reduced.size_eq other.wellFormed,same]

theorem isAccepting_eq (canonical : d.Canonical) (other : e.Canonical) (same : d.language = e.language) (s : Nat) :
    d.isAccepting s = e.isAccepting s := by
  by_cases bound : s < d.size
  · obtain ⟨w,least⟩ := canonical.exists_leastTo bound
    have elsewhere := canonical.leastTo_transfer other same least
    have accepted : w ∈ d.language ↔ w ∈ e.language := by rw [same]
    rw [mem_language,mem_language,least.leads.accepts_eq,elsewhere.leads.accepts_eq] at accepted
    exact Bool.eq_iff_iff.mpr ⟨fun held => (accepted.mp ⟨least.leads.1,held⟩).2,
      fun held => (accepted.mpr ⟨least.leads.1,held⟩).2⟩
  · have beyond := not_lt.mp bound
    have here : d.states[s]? = none := Array.getElem?_eq_none beyond
    rw [canonical.size_eq other same] at beyond
    have there : e.states[s]? = none := Array.getElem?_eq_none beyond
    rw [isAccepting,isAccepting,here,there]

theorem agrees (canonical : d.Canonical) (other : e.Canonical) (same : d.language = e.language) : d.Agrees e where
  size := canonical.size_eq other same
  start := canonical.breadthFirst.start.trans other.breadthFirst.start.symm
  accept := canonical.isAccepting_eq other same
  step := by
    intro s x
    refine Option.ext fun t => ⟨?_,?_⟩
    · exact canonical.step?_transfer other same
    · exact other.step?_transfer canonical same.symm

end Canonical

theorem target?_eq_step? (segmented : Segmented d.segments) {c : Nat} {segment : Segment}
    (atC : d.segments[c]? = some segment) : d.target? s c = d.step? s segment.lo := by
  rw [step?,segmented.segmentIndex?_lo atC]

theorem Full.getElem?_next (full : d.Full) {state : DfaState} (atS : d.states[s]? = some state) {c : Nat}
    (bound : c < d.segments.size) : state.next[c]? = some (d.target? s c) := by
  have inRow : c < state.next.size := full state (Array.mem_of_getElem? atS) ▸ bound
  simp [target?,atS,inRow]

theorem Agrees.accept_eq (agrees : d.Agrees e) {state state' : DfaState} (atS : d.states[s]? = some state)
    (atS' : e.states[s]? = some state') : state.accept = state'.accept := by
  simpa [isAccepting,atS,atS'] using agrees.accept s

theorem Agrees.eq (agrees : d.Agrees e) (segmented : Segmented d.segments) (same : d.segments = e.segments)
    (full : d.Full) (alsoFull : e.Full) : d = e := by
  obtain ⟨segments,start,states⟩ := d
  obtain ⟨segments',start',states'⟩ := e
  cases same
  cases agrees.start
  suffices equal : states = states' by rw [equal]
  refine Array.ext agrees.size fun s inD inE => ?_
  have atS : states[s]? = some states[s] := Array.getElem?_eq_getElem inD
  have atS' : states'[s]? = some states'[s] := Array.getElem?_eq_getElem inE
  have accept : states[s].accept = states'[s].accept := agrees.accept_eq atS atS'
  have next : states[s].next = states'[s].next := by
    have width : states[s].next.size = segments.size := full _ (Array.getElem_mem inD)
    have width' : states'[s].next.size = segments.size := alsoFull _ (Array.getElem_mem inE)
    refine Array.ext_getElem? fun c => ?_
    by_cases bound : c < segments.size
    · have atC : segments[c]? = some segments[c] := Array.getElem?_eq_getElem bound
      rw [full.getElem?_next atS bound,alsoFull.getElem?_next atS' bound,target?_eq_step? segmented atC,
        target?_eq_step? (d := ⟨segments,start,states'⟩) segmented atC,agrees.step]
    · rw [Array.getElem?_eq_none (width ▸ not_lt.mp bound),Array.getElem?_eq_none (width' ▸ not_lt.mp bound)]
  change DfaState.mk states[s].accept states[s].next = DfaState.mk states'[s].accept states'[s].next
  rw [accept,next]

end Uniqueness

end Dfa

theorem System.Listed.full {σ : Type} {m : System σ} {segments : Array Segment} {nodes : List σ}
    {states : Array DfaState} (listed : m.Listed segments.size nodes states) : (Dfa.mk segments 0 states).Full := by
  intro state member
  obtain ⟨i,bound,rfl⟩ := Array.mem_iff_getElem.mp member
  have inNodes : i < nodes.length := listed.size ▸ bound
  obtain ⟨state,atI,_,rowOf⟩ := listed.state i _ (List.getElem?_eq_getElem inNodes)
  rw [Array.getElem?_eq_getElem bound] at atI
  cases atI
  have length := rowOf.length_eq
  rwa [List.length_range,Array.length_toList,eq_comm] at length

namespace Dfa

variable {d e : Dfa} {s t i j : Nat} {x : CodePoint}

section Minimisation

theorem minimize_segments (wellFormed : d.WellFormed) : d.minimize.segments = d.segments := by
  obtain ⟨_,states,_,same⟩ := minimize_explored wellFormed
  rw [same]

theorem minimize_language (wellFormed : d.WellFormed) : d.minimize.language = d.language :=
  language_congr fun w _ => minimize_accepts wellFormed w

theorem minimize_full (wellFormed : d.WellFormed) : d.minimize.Full := by
  obtain ⟨nodes,states,same,listed⟩ := minimize_listed wellFormed
  rw [same]
  exact listed.full

theorem minimize_trim (wellFormed : d.WellFormed) (stepped : d.minimize.step? s x = some t) :
    ∃ w, w ∈ d.minimize.languageFrom t := by
  obtain ⟨nodes,states,same,listed⟩ := minimize_listed wellFormed
  rw [same] at stepped ⊢
  have inOrder := listed.wellFormed wellFormed.segmented
  obtain ⟨c,_,_,_,target⟩ := inOrder.exists_segment stepped
  obtain ⟨inWidth,tBound⟩ := inOrder.inside target
  obtain ⟨a,aBound,atS,_⟩ := exists_languageFrom wellFormed listed (source_lt target)
  obtain ⟨b,bBound,atT,language⟩ := exists_languageFrom wellFormed listed tBound
  have numbered := listed.target?_numbered atS inWidth
  rw [target,quotient_next wellFormed aBound inWidth] at numbered
  rw [language]
  split at numbered
  · cases numbered
  · rename_i alive
    cases numbered with
    | some atT' =>
      rw [Option.some.inj (atT'.symm.trans atT)] at alive
      exact exists_mem_languageFrom wellFormed bBound alive

theorem minimize_canonical (wellFormed : d.WellFormed) : d.minimize.Canonical where
  wellFormed := minimize_wellFormed wellFormed
  reduced := minimize_reduced wellFormed
  breadthFirst := by
    obtain ⟨positive,states,explored,same⟩ := minimize_explored wellFormed
    rw [same]
    exact System.explore_breadthFirst d.segments positive explored
  trim := minimize_trim wellFormed

theorem minimize_congr (wellFormed : d.WellFormed) (alsoWellFormed : e.WellFormed) (segments : d.segments = e.segments)
    (same : d.language = e.language) : d.minimize = e.minimize := by
  have canonical := minimize_canonical wellFormed
  have languages : d.minimize.language = e.minimize.language := by
    rw [minimize_language wellFormed,minimize_language alsoWellFormed,same]
  refine (canonical.agrees (minimize_canonical alsoWellFormed) languages).eq canonical.wellFormed.segmented ?_
    (minimize_full wellFormed) (minimize_full alsoWellFormed)
  rw [minimize_segments wellFormed,minimize_segments alsoWellFormed,segments]

theorem minimize_minimize (wellFormed : d.WellFormed) : d.minimize.minimize = d.minimize :=
  minimize_congr (minimize_wellFormed wellFormed) wellFormed (minimize_segments wellFormed) (minimize_language wellFormed)

-- Automata that accept the same texts are minimised to the same states with the same numbers, however their alphabets
-- are cut, and minimising once more changes nothing.
theorem minimize_unique (d e : Dfa) (wellFormed : d.WellFormed) (alsoWellFormed : e.WellFormed)
    (same : ∀ w : List CodePoint, (∀ x ∈ w, x.isScalar = true) → d.accepts w = e.accepts w) :
    d.minimize.size = e.minimize.size ∧ d.minimize.start = 0 ∧ e.minimize.start = 0 ∧
      (∀ i < d.minimize.size, d.minimize.isAccepting i = e.minimize.isAccepting i ∧
        ∀ x : CodePoint, x.isScalar = true → d.minimize.step? i x = e.minimize.step? i x) ∧
      d.minimize.minimize = d.minimize ∧ e.minimize.minimize = e.minimize := by
  have canonical := minimize_canonical wellFormed
  have alsoCanonical := minimize_canonical alsoWellFormed
  have languages : d.minimize.language = e.minimize.language := by
    rw [minimize_language wellFormed,minimize_language alsoWellFormed,language_congr same]
  have agrees := canonical.agrees alsoCanonical languages
  refine ⟨agrees.size,canonical.breadthFirst.start,alsoCanonical.breadthFirst.start,?_,
    minimize_minimize wellFormed,minimize_minimize alsoWellFormed⟩
  exact fun i _ => ⟨agrees.accept i,fun x _ => agrees.step i x⟩

-- Any text of two letters, once with one segment for both and once with a segment for each and a state for the last.
def joined : Dfa where
  segments := #[⟨0x61,0x62⟩]
  start := 0
  states := #[⟨true,#[some 0]⟩]

def parted : Dfa where
  segments := #[⟨0x61,0x61⟩,⟨0x62,0x62⟩]
  start := 1
  states := #[⟨true,#[some 0,some 1]⟩,⟨true,#[some 0,some 1]⟩]

theorem joined_wellFormed : joined.WellFormed := .of_states (by decide) (by decide) (by decide) (by decide) (by decide)

theorem parted_wellFormed : parted.WellFormed := .of_states (by decide) (by decide) (by decide) (by decide) (by decide)

theorem joined_accepts_eq_parted (w : List CodePoint) : joined.accepts w = parted.accepts w := by
  have fromEither : ∀ s < 2, joined.acceptsFrom 0 w = parted.acceptsFrom s w := by
    induction w with
    | nil => decide
    | cons x w ih =>
      intro s bound
      rw [acceptsFrom_cons,acceptsFrom_cons]
      by_cases isA : x = 0x61
      · have first : joined.step? 0 x = some 0 := by rw [isA]; cbv
        have second : parted.step? s x = some 0 := by rw [isA]; interval_cases s <;> cbv
        rw [first,second]
        exact ih 0 (by decide)
      by_cases isB : x = 0x62
      · have first : joined.step? 0 x = some 0 := by rw [isB]; cbv
        have second : parted.step? s x = some 1 := by rw [isB]; interval_cases s <;> cbv
        rw [first,second]
        exact ih 1 (by decide)
      · have outside : ∀ segment ∈ joined.segments ++ parted.segments, x ∉ segment := by
          simp only [joined,parted,Array.mem_append,List.mem_toArray,List.mem_cons,List.not_mem_nil,or_false,
            Interval.mem_def,forall_eq,or_imp,forall_and]
          change Int at x
          change ¬ x = 0x61 at isA
          change ¬ x = 0x62 at isB
          change ¬ (0x61 ≤ x ∧ x ≤ 0x62) ∧ ¬ (0x61 ≤ x ∧ x ≤ 0x61) ∧ ¬ (0x62 ≤ x ∧ x ≤ 0x62)
          omega
        rw [step?_eq_none joined_wellFormed.segmented fun segment member => outside segment (by simp [member]),
          step?_eq_none parted_wellFormed.segmented fun segment member => outside segment (by simp [member])]
        rfl
  exact fromEither 1 (by decide)

theorem minimize_unique_joined_parted : joined.WellFormed ∧ parted.WellFormed ∧
    (∀ w, joined.accepts w = parted.accepts w) ∧ joined.minimize.size = parted.minimize.size ∧
    ∀ i < joined.minimize.size, ∀ x : CodePoint, x.isScalar = true → joined.minimize.step? i x = parted.minimize.step? i x := by
  obtain ⟨size,_,_,states,_⟩ := minimize_unique joined parted joined_wellFormed parted_wellFormed fun w _ =>
    joined_accepts_eq_parted w
  exact ⟨joined_wellFormed,parted_wellFormed,joined_accepts_eq_parted,size,fun i bound => (states i bound).2⟩

end Minimisation

end Dfa

end LexPattern.Automaton
