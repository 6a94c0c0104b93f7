import Mathlib
import LexPattern.Automaton.Dot
import LexPattern.Proofs.Automaton.Canonical

namespace LexPattern

open CodePoint (Scalars)

namespace CodePoint

-- The last scalar up to such an end.
def settle (c : CodePoint) : CodePoint := if c = surrogateLast then surrogateFirst - 1 else c

variable {c u : CodePoint}

theorem settle_isScalar (ends : c ∈ Ends) : c.settle.isScalar = true := by
  unfold settle
  split
  · decide
  · rename_i notLast
    exact ends.resolve_right notLast

theorem le_settle_iff {x : CodePoint} (scalar : x.isScalar = true) : x ≤ c.settle ↔ x ≤ c := by
  unfold settle
  split
  · rename_i last
    have outside := (isScalar_iff.mp scalar).2.2
    rw [last]
    change Int at x
    change x ≤ 0xD800 - 1 ↔ x ≤ 0xDFFF
    omega
  · rfl

theorem settle_le : c.settle ≤ c := by
  unfold settle
  split
  · rename_i last
    rw [last]
    decide
  · exact Int.le_refl c

-- From the end of a segment, the step up leads to the next scalar.
theorem succ_below_of_ends (ends : c ∈ Ends) (scalar : u.isScalar = true) (below : c < u) :
    ∃ w, scalars.succ? c = some w ∧ w ∈ Scalars ∧ c < w ∧ w ≤ u := by
  rcases ends with inside | rfl
  · exact scalars_lawful.succ_below inside scalar below
  · exact ⟨surrogateLast + 1,by decide,mem_scalars.mpr (by decide),by decide,below⟩

end CodePoint

namespace Interval

variable {r a b : Interval CodePoint} {ivs ivs' : List (Interval CodePoint)} {T : Set CodePoint} {x : CodePoint}

def settle (r : Interval CodePoint) : Interval CodePoint := ⟨r.lo,r.hi.settle⟩

theorem mem_settle (scalar : x.isScalar = true) : x ∈ r.settle ↔ x ∈ r :=
  and_congr_right fun _ => CodePoint.le_settle_iff scalar

theorem covers_settle (scalar : x.isScalar = true) : Covers (ivs.map settle) x ↔ Covers ivs x := by
  simp only [Covers,List.mem_map,exists_exists_and_eq_and,mem_settle scalar]

theorem Rooted.settle_valid (rooted : r.Rooted Scalars T) (ends : T ⊆ CodePoint.Ends) : r.settle.Valid Scalars where
  order := (CodePoint.le_settle_iff rooted.lower).mpr rooted.order
  lower := rooted.lower
  upper := CodePoint.settle_isScalar (ends rooted.upper)

theorem Rooted.mono {T' : Set CodePoint} (rooted : r.Rooted Scalars T) (more : T ⊆ T') : r.Rooted Scalars T' :=
  ⟨rooted.order,rooted.lower,more rooted.upper⟩

theorem Apart.settle (apart : a.Apart Scalars b) : a.settle.Apart Scalars b.settle :=
  apart.mono CodePoint.settle_le (Int.le_refl _)

theorem apart_of_ends (ends : T ⊆ CodePoint.Ends) (rootedA : a.Rooted Scalars T) (rootedB : b.Rooted Scalars T)
    (separate : ¬ a.joins scalars b = true) : a.Apart Scalars b := by
  obtain ⟨w,stepped,inW,above,atMost⟩ := CodePoint.succ_below_of_ends (ends rootedA.upper) rootedB.lower
    (IntervalSet.before_of_not_joins separate)
  exact apart_of_succ stepped inW above atMost (IntervalSet.not_adjacent_of_not_joins separate)

-- Ranges whose ends settle differently can be read off the settled ones.
theorem eq_of_settle_eq (distinct : Set.InjOn CodePoint.settle T) (upper : ∀ r ∈ ivs, r.hi ∈ T)
    (upper' : ∀ r ∈ ivs', r.hi ∈ T) (same : ivs.map settle = ivs'.map settle) : ivs = ivs' := by
  induction ivs generalizing ivs' with
  | nil => exact (List.map_eq_nil_iff.mp same.symm).symm
  | cons r ivs ih =>
    cases ivs' with
    | nil => cases same
    | cons r' ivs' =>
      obtain ⟨heads,tails⟩ := List.cons.inj same
      obtain ⟨lo,hi⟩ := r
      obtain ⟨lo',hi'⟩ := r'
      obtain ⟨starts,settled⟩ := Interval.mk.inj heads
      have ends : hi = hi' := distinct (upper ⟨lo,hi⟩ (by simp)) (upper' ⟨lo',hi'⟩ (by simp)) settled
      rw [ends,ih (fun r member => upper r (by simp [member])) (fun r member => upper' r (by simp [member])) tails]
      exact congrArg (⟨·,hi'⟩ :: ivs') starts

end Interval

namespace CharClass

variable {rs rs' : List (Interval CodePoint)} {T : Set CodePoint}

theorem ofRanges_settled (ends : T ⊆ CodePoint.Ends) (rooted : ∀ r ∈ rs, r.Rooted Scalars T) :
    (∀ r ∈ (ofRanges rs).toList, r.hi ∈ T) ∧ Spread Scalars ((ofRanges rs).toList.map Interval.settle) ∧
      ∀ x ∈ Scalars, Covers ((ofRanges rs).toList.map Interval.settle) x ↔ Covers rs x := by
  have steady : scalars.Steady Scalars T := fun v _ => scalars_steady v trivial
  obtain ⟨kept,apart,covers⟩ := IntervalSet.ofList_keeps steady (Interval.apart_of_ends ends)
    (fun apart starts => apart.mono (Int.le_refl _) starts) rooted
  refine ⟨fun r member => (kept r member).upper,⟨?_,?_⟩,fun x scalar => ?_⟩
  · intro iv member
    obtain ⟨r,inClass,rfl⟩ := List.mem_map.mp member
    exact (kept r inClass).settle_valid ends
  · exact List.pairwise_map.mpr (apart.imp Interval.Apart.settle)
  · exact (Interval.covers_settle scalar).trans (covers x scalar)

theorem ofRanges_settle_eq (ends : T ⊆ CodePoint.Ends) (rooted : ∀ r ∈ rs, r.Rooted Scalars T)
    (rooted' : ∀ r ∈ rs', r.Rooted Scalars T) (same : ∀ x ∈ Scalars, Covers rs x ↔ Covers rs' x) :
    (ofRanges rs).toList.map Interval.settle = (ofRanges rs').toList.map Interval.settle := by
  obtain ⟨_,spread,covers⟩ := ofRanges_settled ends rooted
  obtain ⟨_,spread',covers'⟩ := ofRanges_settled ends rooted'
  refine spread.unique spread' fun x scalar => ?_
  rw [covers x scalar,covers' x scalar,same x scalar]

theorem ofRanges_eq (ends : T ⊆ CodePoint.Ends) (distinct : Set.InjOn CodePoint.settle T)
    (rooted : ∀ r ∈ rs, r.Rooted Scalars T) (rooted' : ∀ r ∈ rs', r.Rooted Scalars T)
    (same : ∀ x ∈ Scalars, Covers rs x ↔ Covers rs' x) : (ofRanges rs).toList = (ofRanges rs').toList :=
  Interval.eq_of_settle_eq distinct (ofRanges_settled ends rooted).1 (ofRanges_settled ends rooted').1
    (ofRanges_settle_eq ends rooted rooted' same)

end CharClass

namespace Automaton

def DfaState.rangesTo (state : DfaState) (segments : Array Segment) (target : Nat) : List Segment :=
  (state.segmentsTo target).filterMap (segments[·]?)

theorem Dot.graph_line_inj {name line line' : String} {start : Nat} {before after : List String} :
    Dot.graph name start (before ++ line :: after) = Dot.graph name start (before ++ line' :: after) ↔ line = line' := by
  unfold Dot.graph
  rw [String.append_left_inj,String.append_left_inj,String.append_left_inj,String.append_left_inj,String.append_right_inj,
    String.join_append,String.join_append,String.append_right_inj,String.join_cons,String.join_cons,String.append_left_inj]

theorem Dot.arrow_label_inj {name label label' : String} {source target : Nat} :
    Dot.arrow name source target label = Dot.arrow name source target label' ↔
      Dot.quoteLabel label = Dot.quoteLabel label' := by
  unfold Dot.arrow
  rw [String.append_left_inj,String.append_right_inj]

def DfaState.lines (state : DfaState) (segments : Array Segment) (i : Nat) : List String :=
  Dot.node "q" i state.accept :: state.targets.map fun target =>
    Dot.arrow "q" i target (state.labelTo segments target).render

namespace Dfa

variable {d e : Dfa} {s t c : Nat} {state state' : DfaState} {x : CodePoint}

def ends (d : Dfa) : Set CodePoint := {c | ∃ segment ∈ d.segments, segment.hi = c}

theorem mem_segmentsTo (atS : d.states[s]? = some state) : c ∈ state.segmentsTo t ↔ d.target? s c = some t := by
  rw [DfaState.segmentsTo,List.mem_filter,List.mem_range,beq_iff_eq,target?,atS]
  exact ⟨fun held => Option.join_eq_some_iff.mpr held.2,fun leads =>
    ⟨(Array.getElem?_eq_some_iff.mp (Option.join_eq_some_iff.mp leads)).1,Option.join_eq_some_iff.mp leads⟩⟩

theorem mem_rangesTo (atS : d.states[s]? = some state) {r : Segment} :
    r ∈ state.rangesTo d.segments t ↔ ∃ c, d.target? s c = some t ∧ d.segments[c]? = some r := by
  simp only [DfaState.rangesTo,List.mem_filterMap,mem_segmentsTo atS]

theorem rangesTo_rooted (segmented : Segmented d.segments) (atS : d.states[s]? = some state) :
    ∀ r ∈ state.rangesTo d.segments t, r.Rooted Scalars d.ends := by
  intro r member
  obtain ⟨c,_,atC⟩ := (mem_rangesTo atS).mp member
  have inSegments := Array.mem_of_getElem? atC
  obtain ⟨scalar,order⟩ := segmented.starts r (Array.mem_toList_iff.mpr inSegments)
  exact ⟨order,scalar,r,inSegments,rfl⟩

theorem covers_rangesTo (segmented : Segmented d.segments) (atS : d.states[s]? = some state) (scalar : x.isScalar = true) :
    Covers (state.rangesTo d.segments t) x ↔ d.step? s x = some t := by
  rw [step?_eq_some_iff]
  simp only [Covers,mem_rangesTo atS,segmented.segmentIndex?_eq_some_iff,scalar,true_and]
  constructor
  · rintro ⟨r,⟨c,leads,atC⟩,inside⟩
    exact ⟨c,⟨r,atC,inside⟩,leads⟩
  · rintro ⟨c,⟨r,atC,inside⟩,leads⟩
    exact ⟨r,⟨c,leads,atC⟩,inside⟩

theorem labelTo_contains (segmented : Segmented d.segments) (atS : d.states[s]? = some state)
    (scalar : x.isScalar = true) : (state.labelTo d.segments t).contains x = true ↔ d.step? s x = some t := by
  have starts : ∀ r ∈ state.rangesTo d.segments t, r.lo.isScalar = true ∧ r.lo ≤ r.hi := fun r member =>
    ⟨(rangesTo_rooted segmented atS r member).lower,(rangesTo_rooted segmented atS r member).order⟩
  exact (CharClass.contains_ofRanges starts scalar).trans (covers_rangesTo segmented atS scalar)

theorem mem_targets_iff (atS : d.states[s]? = some state) : t ∈ state.targets ↔ ∃ c, d.target? s c = some t := by
  rw [DfaState.targets,mem_sorted_distinct,List.mem_filterMap]
  simp only [target?,atS,id,exists_eq_right,Option.join_eq_some_iff,Array.mem_toList_iff,Array.mem_iff_getElem?]

theorem mem_targets (wellFormed : d.WellFormed) (atS : d.states[s]? = some state) :
    t ∈ state.targets ↔ ∃ x, d.step? s x = some t := by
  rw [mem_targets_iff atS]
  constructor
  · rintro ⟨c,leads⟩
    have atC := Array.getElem?_eq_getElem (wellFormed.inside leads).1
    exact ⟨_,(target?_eq_step? wellFormed.segmented atC).symm.trans leads⟩
  · rintro ⟨x,stepped⟩
    obtain ⟨c,_,leads⟩ := step?_eq_some_iff.mp stepped
    exact ⟨c,leads⟩

-- A segment that ends with the surrogates holds the scalar before them, so no other ends there.
theorem not_mem_ends_of_last (segmented : Segmented d.segments) (last : CodePoint.surrogateLast ∈ d.ends) :
    CodePoint.surrogateFirst - 1 ∉ d.ends := by
  rintro ⟨b,inB,bEnd⟩
  obtain ⟨a,inA,aEnd⟩ := last
  obtain ⟨i,atI⟩ := Array.mem_iff_getElem?.mp inA
  obtain ⟨j,atJ⟩ := Array.mem_iff_getElem?.mp inB
  obtain ⟨aScalar,aOrder⟩ := segmented.starts a (Array.mem_toList_iff.mpr inA)
  obtain ⟨_,bOrder⟩ := segmented.starts b (Array.mem_toList_iff.mpr inB)
  have below : a.lo ≤ CodePoint.surrogateFirst - 1 := by
    rw [aEnd,← CodePoint.le_settle_iff aScalar] at aOrder
    exact aOrder
  have inside : CodePoint.surrogateFirst - 1 ∈ a := ⟨below,by rw [aEnd]; decide⟩
  have inside' : CodePoint.surrogateFirst - 1 ∈ b := ⟨bEnd ▸ bOrder,by rw [bEnd]⟩
  have found := segmented.segmentIndex?_eq_some_iff.mpr ⟨by decide,a,atI,inside⟩
  have found' := segmented.segmentIndex?_eq_some_iff.mpr ⟨by decide,b,atJ,inside'⟩
  rw [Option.some.inj (found.symm.trans found'),atJ] at atI
  rw [← Option.some.inj atI,bEnd] at aEnd
  exact absurd aEnd (by decide)

-- So ends settle differently where both automata cut the alphabet after the surrogates, or neither does.
theorem settle_injOn (segmented : Segmented d.segments) (segmented' : Segmented e.segments)
    (alike : CodePoint.surrogateLast ∈ d.ends ↔ CodePoint.surrogateLast ∈ e.ends) :
    Set.InjOn CodePoint.settle (d.ends ∪ e.ends) := by
  have notBoth : CodePoint.surrogateLast ∈ d.ends ∪ e.ends → CodePoint.surrogateFirst - 1 ∉ d.ends ∪ e.ends := by
    rintro last (here | there)
    · exact not_mem_ends_of_last segmented (last.elim id alike.mpr) here
    · exact not_mem_ends_of_last segmented' (last.elim alike.mp id) there
  intro a inA b inB same
  unfold CodePoint.settle at same
  split at same
  · rename_i aLast
    split at same
    · rename_i bLast
      rw [aLast,bLast]
    · exact absurd (same ▸ inB) (notBoth (aLast ▸ inA))
  · split at same
    · rename_i bLast
      exact absurd (same ▸ inA) (notBoth (bLast ▸ inB))
    · exact same

theorem Finished.segmented (finished : d.Finished) : Segmented d.segments := finished.canonical.wellFormed.segmented

theorem Finished.ends_subset (finished : d.Finished) (alsoFinished : e.Finished) : d.ends ∪ e.ends ⊆ CodePoint.Ends := by
  rintro c (⟨segment,member,rfl⟩ | ⟨segment,member,rfl⟩)
  · exact finished.ends segment member
  · exact alsoFinished.ends segment member

section Drawing

variable (agrees : d.Agrees e) (finished : d.Finished) (alsoFinished : e.Finished)
  (atS : d.states[s]? = some state) (atS' : e.states[s]? = some state')
include agrees finished alsoFinished atS atS'

theorem targets_eq : state.targets = state'.targets := by
  refine (sorted_distinct_pairwise _).eq_of_mem_iff (sorted_distinct_pairwise _) fun t => ?_
  change t ∈ state.targets ↔ t ∈ state'.targets
  rw [mem_targets finished.canonical.wellFormed atS,mem_targets alsoFinished.canonical.wellFormed atS']
  simp only [agrees.step]

theorem labelTo_contains_eq (scalar : x.isScalar = true) :
    (state.labelTo d.segments t).contains x = (state'.labelTo e.segments t).contains x := by
  rw [Bool.eq_iff_iff,labelTo_contains finished.segmented atS scalar,labelTo_contains alsoFinished.segmented atS' scalar,
    agrees.step]

theorem rangesTo_alike (t : Nat) : (∀ r ∈ state.rangesTo d.segments t, r.Rooted Scalars (d.ends ∪ e.ends)) ∧
    (∀ r ∈ state'.rangesTo e.segments t, r.Rooted Scalars (d.ends ∪ e.ends)) ∧
    ∀ x ∈ Scalars, Covers (state.rangesTo d.segments t) x ↔ Covers (state'.rangesTo e.segments t) x := by
  refine ⟨fun r member => ?_,fun r member => ?_,fun x scalar => ?_⟩
  · exact (rangesTo_rooted finished.segmented atS r member).mono Set.subset_union_left
  · exact (rangesTo_rooted alsoFinished.segmented atS' r member).mono Set.subset_union_right
  · rw [covers_rangesTo finished.segmented atS scalar,covers_rangesTo alsoFinished.segmented atS' scalar,agrees.step]

theorem labelTo_settle_eq (t : Nat) : (state.labelTo d.segments t).toList.map Interval.settle =
    (state'.labelTo e.segments t).toList.map Interval.settle := by
  obtain ⟨rooted,rooted',same⟩ := rangesTo_alike agrees finished alsoFinished atS atS' t
  exact CharClass.ofRanges_settle_eq (finished.ends_subset alsoFinished) rooted rooted' same

theorem labelTo_eq (alike : CodePoint.surrogateLast ∈ d.ends ↔ CodePoint.surrogateLast ∈ e.ends) (t : Nat) :
    (state.labelTo d.segments t).toList = (state'.labelTo e.segments t).toList := by
  obtain ⟨rooted,rooted',same⟩ := rangesTo_alike agrees finished alsoFinished atS atS' t
  exact CharClass.ofRanges_eq (finished.ends_subset alsoFinished)
    (settle_injOn finished.segmented alsoFinished.segmented alike) rooted rooted' same

theorem stateLines_eq (alike : CodePoint.surrogateLast ∈ d.ends ↔ CodePoint.surrogateLast ∈ e.ends) :
    state.lines d.segments s = state'.lines e.segments s := by
  have render : ∀ t, (state.labelTo d.segments t).render = (state'.labelTo e.segments t).render := by
    intro t
    rw [CharClass.render,CharClass.render,labelTo_eq agrees finished alsoFinished atS atS' alike]
  simp only [DfaState.lines,agrees.accept_eq atS atS',render,targets_eq agrees finished alsoFinished atS atS']

end Drawing

theorem toDot_eq_graph :
    d.toDot = Dot.graph "q" d.start (d.states.toList.zipIdx.map fun (state,i) => state.lines d.segments i).flatten := rfl

-- Where both automata cut the alphabet after the surrogates, or neither does, they are drawn alike.
theorem Agrees.toDot_eq (agrees : d.Agrees e) (finished : d.Finished) (alsoFinished : e.Finished)
    (alike : CodePoint.surrogateLast ∈ d.ends ↔ CodePoint.surrogateLast ∈ e.ends) : d.toDot = e.toDot := by
  have lines : (d.states.toList.zipIdx.map fun (state,i) => state.lines d.segments i) =
      e.states.toList.zipIdx.map fun (state,i) => state.lines e.segments i := by
    refine List.ext_getElem (by simpa [Dfa.size] using agrees.size) fun i inD inE => ?_
    simp only [List.length_map,List.length_zipIdx,Array.length_toList] at inD inE
    simp only [List.getElem_map,List.getElem_zipIdx,Array.getElem_toList,Nat.zero_add]
    exact stateLines_eq agrees finished alsoFinished (Array.getElem?_eq_getElem inD) (Array.getElem?_eq_getElem inE) alike
  rw [toDot_eq_graph,toDot_eq_graph,lines,agrees.start]

end Dfa

end Automaton

end LexPattern
