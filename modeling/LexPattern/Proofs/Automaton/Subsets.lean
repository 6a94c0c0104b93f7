import Mathlib
import LexPattern.Proofs.Automaton.BreadthFirst
import LexPattern.Proofs.Automaton.Recognition

namespace LexPattern.Automaton

namespace Nfa

def graph (n : Nfa) : εNFA CodePoint Nat where
  step p
    | none => {q | ⟨p,none,q⟩ ∈ n.edges.toList}
    | some x => {q | ∃ c : CharClass, ⟨p,some c,q⟩ ∈ n.edges.toList ∧ c.contains x = true}
  start := {n.start}
  accept := {n.accept}

def move (n : Nfa) (states : Set Nat) (x : CodePoint) : Set Nat := ⋃ p ∈ states, n.graph.step p (some x)

def SilentlyClosed (n : Nfa) (states : Set Nat) : Prop := ∀ p ∈ states, n.graph.step p none ⊆ states

-- The sets in which the automaton may be after a text of scalars, for the texts that it can read to the end.
def reached (n : Nfa) : Set (Set Nat) :=
  {states | states.Nonempty ∧ ∃ w : List CodePoint, (∀ x ∈ w, x.isScalar = true) ∧ n.graph.eval w = states}

def ListsSilent (n : Nfa) (silent : Nat → List Nat) : Prop :=
  ∀ s t, t ∈ silent s ↔ ⟨s,none,t⟩ ∈ n.edges.toList

def members (list : List Nat) : Set Nat := {q | q ∈ list}

variable {n : Nfa} {p q : Nat} {w : List CodePoint} {x : CodePoint} {states : Set Nat}

section Sets

theorem mem_εClosure : q ∈ n.graph.εClosure states ↔ ∃ p ∈ states, Walk n.edges.toList p [] q := by
  simp only [Walk.nil_iff]
  constructor
  · intro found
    induction found with
    | base q member => exact ⟨q,member,.refl⟩
    | step r q leads _ ih =>
      obtain ⟨p,member,path⟩ := ih
      exact ⟨p,member,path.tail leads⟩
  · rintro ⟨p,member,path⟩
    induction path with
    | refl => exact εNFA.εClosure.base p member
    | tail _ leads ih => exact εNFA.εClosure.step _ _ leads ih

theorem mem_move : q ∈ n.move states x ↔ ∃ p ∈ states, ∃ c, ⟨p,some c,q⟩ ∈ n.edges.toList ∧ c.contains x = true := by
  simp only [move,Set.mem_iUnion,exists_prop]
  rfl

theorem stepSet_eq : n.graph.stepSet states x = n.graph.εClosure (n.move states x) := by
  ext q
  rw [εNFA.mem_stepSet_iff,mem_εClosure]
  simp only [mem_εClosure,mem_move]
  constructor
  · rintro ⟨p,member,t,⟨c,edge,held⟩,walk⟩
    exact ⟨t,⟨p,member,c,edge,held⟩,walk⟩
  · rintro ⟨t,⟨p,member,c,edge,held⟩,walk⟩
    exact ⟨p,member,t,⟨c,edge,held⟩,walk⟩

theorem eval_snoc : n.graph.eval (w ++ [x]) = n.graph.εClosure (n.move (n.graph.eval w) x) := by
  rw [εNFA.eval_append_singleton,stepSet_eq]

theorem mem_eval : q ∈ n.graph.eval w ↔ Walk n.edges.toList n.start w q := by
  induction w using List.reverseRecOn generalizing q with
  | nil =>
    rw [εNFA.eval_nil,mem_εClosure]
    exact ⟨fun ⟨_,rfl,walk⟩ => walk,fun walk => ⟨_,rfl,walk⟩⟩
  | append_singleton w x ih =>
    rw [eval_snoc,mem_εClosure,Walk.append_iff]
    simp only [mem_move,ih,Walk.single_iff]
    constructor
    · rintro ⟨t,⟨p,before,c,edge,held⟩,after⟩
      exact ⟨p,before,p,c,t,.stay p,edge,held,after⟩
    · rintro ⟨r,before,p,c,t,silently,edge,held,after⟩
      have arrives := before.append silently
      rw [List.append_nil] at arrives
      exact ⟨t,⟨p,arrives,c,edge,held⟩,after⟩

theorem holds_iff {list : List Nat} : Holds n w list ↔ members list = n.graph.eval w := by
  simp only [Set.ext_iff,mem_eval]
  rfl

theorem εClosure_isLeast : IsLeast {closed | states ⊆ closed ∧ n.SilentlyClosed closed} (n.graph.εClosure states) := by
  refine ⟨⟨εNFA.subset_εClosure _ _,fun p member q leads => εNFA.εClosure.step p q leads member⟩,?_⟩
  rintro closed ⟨included,stays⟩ q found
  induction found with
  | base q member => exact included member
  | step p q leads _ ih => exact stays p ih leads

theorem εClosure_nonempty_iff : (n.graph.εClosure states).Nonempty ↔ states.Nonempty := by
  constructor
  · rintro ⟨q,found⟩
    obtain ⟨p,member,_⟩ := mem_εClosure.mp found
    exact ⟨p,member⟩
  · rintro ⟨p,member⟩
    exact ⟨p,εNFA.εClosure.base p member⟩

end Sets

section Closure

variable {silent silent' : Nat → List Nat} {list list' : List Nat}

theorem members_closure (framed : Framed 0 n.size n.edges.toList) (listing : n.ListsSilent silent)
    (bounded : ∀ s ∈ list, s < n.size) :
    members (closure n.size silent list) = n.graph.εClosure (members list) := by
  ext q
  have inside : ∀ s, ∀ t ∈ silent s, t < n.size := fun s t leads => (framed.inside _ ((listing s t).mp leads)).2.2
  rw [mem_εClosure]
  refine (mem_closure inside bounded).trans ?_
  simp only [Walk.nil_iff,listing _ _]
  rfl

-- A closure depends on which states and edges there are, and not on the order in which they are visited.
theorem closure_congr (framed : Framed 0 n.size n.edges.toList) (listing : n.ListsSilent silent)
    (listing' : n.ListsSilent silent') (bounded : ∀ s ∈ list, s < n.size) (same : members list' = members list) :
    closure n.size silent' list' = closure n.size silent list := by
  have bounded' : ∀ s ∈ list', s < n.size := fun s member => bounded s (same.subset member)
  have found : (closure n.size silent' list').toFinset = (closure n.size silent list).toFinset := by
    ext q
    rw [List.mem_toFinset,List.mem_toFinset]
    change q ∈ members (closure n.size silent' list') ↔ q ∈ members (closure n.size silent list)
    rw [members_closure framed listing bounded,members_closure framed listing' bounded',same]
  rw [closure_eq_sort,found,← closure_eq_sort]

end Closure

end Nfa

namespace System

variable {σ : Type} {m : System σ} {segments : Array Segment} {nodes : List σ} {states : Array DfaState} {x y : σ}

theorem reachable_of_read? {w : List CodePoint} (reachable : m.Reachable segments.size x)
    (reads : m.read? segments x w = some y) : m.Reachable segments.size y := by
  induction w generalizing x with
  | nil =>
    cases reads
    exact reachable
  | cons c w ih =>
    rw [read?] at reads
    split at reads
    · rename_i z stepped
      obtain ⟨i,place,next⟩ := Option.bind_eq_some_iff.mp stepped
      exact ih (reachable.tail ⟨i,segmentIndex?_lt place,next⟩) reads
    · cases reads

theorem Listed.mem_of_reachable (listed : m.Listed segments.size nodes states)
    (reachable : m.Reachable segments.size x) : x ∈ nodes := by
  induction reachable with
  | refl => exact List.mem_of_getElem? listed.starts
  | tail _ leads ih =>
    obtain ⟨c,bound,next⟩ := leads
    obtain ⟨i,atI⟩ := List.mem_iff_getElem?.mp ih
    have numbered := listed.target?_numbered atI bound
    rw [next] at numbered
    generalize (Dfa.mk segments 0 states).target? i c = t at numbered
    cases numbered with
    | some atJ => exact List.mem_of_getElem? atJ

theorem getElem?_eq_some_getD {i : Nat} (fallback : σ) (bound : i < nodes.length) :
    nodes[i]? = some (nodes.getD i fallback) := by
  rw [List.getD_eq_getElem _ _ bound,List.getElem?_eq_getElem bound]

theorem Listed.bijOn [Inhabited σ] (listed : m.Listed segments.size nodes states) :
    Set.BijOn (fun i => nodes.getD i default) (Set.Iio nodes.length) {x | m.Reachable segments.size x} := by
  refine ⟨fun i bound => listed.reachable _ (List.mem_of_getElem? (getElem?_eq_some_getD _ bound)),?_,?_⟩
  · intro i bound j bound' same
    refine (List.getElem?_inj bound listed.distinct).mp ?_
    rw [getElem?_eq_some_getD default bound,getElem?_eq_some_getD default bound']
    exact congrArg some same
  · intro x reachable
    obtain ⟨i,atI⟩ := List.mem_iff_getElem?.mp (listed.mem_of_reachable reachable)
    have bound : i < nodes.length := (List.getElem?_eq_some_iff.mp atI).1
    exact ⟨i,bound,Option.some.inj ((getElem?_eq_some_getD _ bound).symm.trans atI)⟩

theorem explore_size_le [BEq σ] [Hashable σ] [LawfulBEq σ] [LawfulHashable σ] {width limit : Nat}
    (positive : 0 < limit) (accepted : m.explore width limit = some states) : states.size ≤ limit := by
  obtain ⟨n,settled,room,_⟩ := explore_keeps (P := fun _ n => n.nodes.size ≤ limit)
    (fun settled room _ made => (row_eq_some settled.lawful made).1.room room) positive positive accepted
  exact settled.size_le.trans room

end System

section Subsets

variable {n : Nfa} {list next : List Nat} {w : List CodePoint}

def Nfa.subsets (n : Nfa) : Set (List Nat) :=
  {list | (subsetSystem n (partition n.labels)).Reachable (partition n.labels).size list}

-- A set that is reached is not empty: it has grown from states that were moved to.
theorem next_ne_nil (framed : Framed 0 n.size n.edges.toList) {segments : Array Segment} {i : Nat}
    (leads : (subsetSystem n segments).next list i = some next) : next ≠ [] := by
  simp only [subsetSystem] at leads
  split at leads
  · cases leads
  · rename_i segment _
    split at leads
    · cases leads
    · rename_i some
      cases leads
      obtain ⟨t,member⟩ := List.isEmpty_eq_false_iff_exists_mem.mp (Bool.eq_false_iff.mpr some)
      have bounded : ∀ t ∈ list.flatMap fun s => readingTargets segment.lo (n.outgoing[s]?.getD #[]), t < n.size := by
        intro t member
        obtain ⟨s,_,moved⟩ := List.mem_flatMap.mp member
        obtain ⟨c,edge,_⟩ := (mem_reading_outgoing framed).mp moved
        exact (framed.inside _ edge).2.2
      exact List.ne_nil_of_mem ((mem_subset_closure framed bounded).mpr ⟨t,member,.stay t⟩)

namespace Nfa

theorem members_nonempty (framed : Framed 0 n.size n.edges.toList) (bound : n.start < n.size)
    (explored : list ∈ n.subsets) : (members list).Nonempty := by
  cases explored with
  | refl => exact ⟨n.start,(holds_start framed bound (partition n.labels) n.start).mpr (.stay n.start)⟩
  | tail _ leads =>
    obtain ⟨c,_,next⟩ := leads
    exact List.exists_mem_of_ne_nil _ (next_ne_nil framed next)

theorem exists_holds (framed : Framed 0 n.size n.edges.toList) (bound : n.start < n.size)
    (explored : list ∈ n.subsets) : ∃ w : List CodePoint, (∀ x ∈ w, x.isScalar = true) ∧ Holds n w list := by
  obtain ⟨w,scalars,reads⟩ := System.exists_read? (partition_segmented (labels_tidy framed)) explored
  have reading := (holds_start framed bound (partition n.labels)).read? framed w
  rw [reads] at reading
  exact ⟨w,scalars,reading⟩

theorem exists_mem_subsets (framed : Framed 0 n.size n.edges.toList) (bound : n.start < n.size)
    (readable : (n.graph.eval w).Nonempty) : ∃ list ∈ n.subsets, Holds n w list := by
  have reading := (holds_start framed bound (partition n.labels)).read? framed w
  split at reading
  · rename_i list reads
    exact ⟨list,System.reachable_of_read? .refl reads,reading⟩
  · obtain ⟨q,member⟩ := readable
    exact absurd (mem_eval.mp member) (reading q)

theorem finite_subsets : n.subsets.Finite := (stateSets n).finite_toSet.subset fun _ => subsetSystem_reachable

theorem members_injOn : Set.InjOn members n.subsets := by
  intro list explored list' explored' same
  obtain ⟨s,_,rfl⟩ := Finset.mem_image.mp (subsetSystem_reachable explored)
  obtain ⟨s',_,rfl⟩ := Finset.mem_image.mp (subsetSystem_reachable explored')
  have equal : s = s' := by
    ext q
    have asMember : q ∈ s.sort (· ≤ ·) ↔ q ∈ s'.sort (· ≤ ·) := Set.ext_iff.mp same q
    rwa [Finset.mem_sort,Finset.mem_sort] at asMember
  rw [equal]

theorem members_bijOn (framed : Framed 0 n.size n.edges.toList) (bound : n.start < n.size) :
    Set.BijOn members n.subsets n.reached := by
  refine ⟨?_,members_injOn,?_⟩
  · intro list explored
    obtain ⟨w,scalars,holds⟩ := exists_holds framed bound explored
    exact ⟨members_nonempty framed bound explored,w,scalars,(holds_iff.mp holds).symm⟩
  · rintro states ⟨nonempty,w,_,rfl⟩
    obtain ⟨list,explored,holds⟩ := exists_mem_subsets framed bound nonempty
    exact ⟨list,explored,holds_iff.mp holds⟩

end Nfa

end Subsets

namespace Dfa

open LexPattern.Core (Expr)

-- The states stand for the sets that are reached, each for one of them, in breadth first order over the segments. A
-- state accepts when its set holds the accepting one, and has a target for a character exactly when that moves some
-- state of the set.
structure Tracks (d : Dfa) (n : Nfa) (sets : Nat → Set Nat) : Prop where
  segments : d.segments = partition n.labels
  wellFormed : d.WellFormed
  numbered : d.BreadthFirst
  corresponds : Set.BijOn sets (Set.Iio d.size) n.reached
  start : sets d.start = n.graph.eval []
  accepting : ∀ s < d.size, d.isAccepting s = true ↔ n.accept ∈ sets s
  moves : ∀ s < d.size, ∀ x, (∃ t, d.step? s x = some t) ↔ (n.move (sets s) x).Nonempty
  target : ∀ s < d.size, ∀ x t, d.step? s x = some t → sets t = n.graph.εClosure (n.move (sets s) x)

variable {n : Nfa} {limit : Nat} {list : List Nat} {nodes : List (List Nat)} {states : Array DfaState} {i : Nat}
  {x : CodePoint}

theorem run?_single {d : Dfa} : d.run? i [x] = d.step? i x := by
  rw [run?]
  cases d.step? i x <;> rfl

theorem step?_subset (framed : Framed 0 n.size n.edges.toList) (bound : n.start < n.size)
    (listed : (subsetSystem n (partition n.labels)).Listed (partition n.labels).size nodes states)
    (atI : nodes[i]? = some list) :
    match (Dfa.mk (partition n.labels) 0 states).step? i x with
    | some t => ∃ next ∈ n.subsets, nodes[t]? = some next ∧
        Nfa.members next = n.graph.εClosure (n.move (Nfa.members list) x)
    | none => ¬ (n.move (Nfa.members list) x).Nonempty := by
  obtain ⟨w,_,holds⟩ := Nfa.exists_holds framed bound (listed.reachable list (List.mem_of_getElem? atI))
  have reading := holds.read? framed [x]
  have numbered := listed.read?_numbered atI [x]
  rw [run?_single] at numbered
  rw [Nfa.holds_iff.mp holds,← Nfa.εClosure_nonempty_iff,← Nfa.eval_snoc]
  generalize (Dfa.mk (partition n.labels) 0 states).step? i x = t at numbered ⊢
  generalize (subsetSystem n (partition n.labels)).read? (partition n.labels) list [x] = next at numbered reading
  cases numbered with
  | none =>
    rintro ⟨q,member⟩
    exact reading q (Nfa.mem_eval.mp member)
  | some atT => exact ⟨_,listed.reachable _ (List.mem_of_getElem? atT),atT,Nfa.holds_iff.mp reading⟩

theorem tracks_of_listed (framed : Framed 0 n.size n.edges.toList) (bound : n.start < n.size)
    (listed : (subsetSystem n (partition n.labels)).Listed (partition n.labels).size nodes states)
    (numbered : (Dfa.mk (partition n.labels) 0 states).BreadthFirst) :
    (Dfa.mk (partition n.labels) 0 states).Tracks n fun i => Nfa.members (nodes.getD i []) := by
  have size : (Dfa.mk (partition n.labels) 0 states).size = nodes.length := listed.size
  have atPlace : ∀ s < states.size, nodes[s]? = some (nodes.getD s []) := fun s inStates =>
    System.getElem?_eq_some_getD [] (listed.size ▸ inStates)
  refine ⟨rfl,listed.wellFormed (partition_segmented (labels_tidy framed)),numbered,?_,?_,?_,?_,?_⟩
  · rw [size]
    exact (Nfa.members_bijOn framed bound).comp listed.bijOn
  · change Nfa.members (nodes.getD 0 []) = _
    rw [List.getD_eq_getElem?_getD,listed.starts,Option.getD_some]
    exact Nfa.holds_iff.mp (holds_start framed bound (partition n.labels))
  · intro s inStates
    rw [listed.isAccepting_eq (atPlace s inStates)]
    exact List.contains_iff_mem
  · intro s inStates x
    have stepped := step?_subset (x := x) framed bound listed (atPlace s inStates)
    split at stepped
    · rename_i t leads
      obtain ⟨next,explored,_,same⟩ := stepped
      have nonempty := Nfa.members_nonempty framed bound explored
      rw [same,Nfa.εClosure_nonempty_iff] at nonempty
      exact iff_of_true ⟨t,leads⟩ nonempty
    · rename_i stops
      refine iff_of_false ?_ stepped
      rintro ⟨t,leads⟩
      rw [stops] at leads
      cases leads
  · intro s inStates x t leads
    have stepped := step?_subset (x := x) framed bound listed (atPlace s inStates)
    rw [leads] at stepped
    obtain ⟨next,_,atT,same⟩ := stepped
    change Nfa.members (nodes.getD t []) = _
    rw [List.getD_eq_getElem?_getD,atT,Option.getD_some]
    exact same

theorem Tracks.ncard_eq {d : Dfa} {sets : Nat → Set Nat} (tracks : d.Tracks n sets) : n.reached.ncard = d.size := by
  rw [← tracks.corresponds.ncard_eq,Set.ncard_Iio_nat]

theorem lt_ncard_of_explore_eq_none (framed : Framed 0 n.size n.edges.toList) (bound : n.start < n.size)
    (refused : (subsetSystem n (partition n.labels)).explore (partition n.labels).size limit = none) :
    limit < n.reached.ncard := by
  obtain ⟨met,distinct,many,explored⟩ := System.explore_eq_none refused
  have included : (met.toFinset : Set (List Nat)) ⊆ n.subsets := by
    intro list member
    exact explored list (List.mem_toFinset.mp member)
  have counted := Set.ncard_le_ncard included Nfa.finite_subsets
  rw [Set.ncard_coe_finset,List.toFinset_card_of_nodup distinct,(Nfa.members_bijOn framed bound).ncard_eq] at counted
  exact many.trans_le counted

theorem ofNfa_outcome (framed : Framed 0 n.size n.edges.toList) (bound : n.start < n.size) (limit : Int) :
    (n.reached.ncard ≤ inForce defaultLimit limit ∧ ∃ d sets, ofNfa limit n = .ok d ∧ d.Tracks n sets) ∨
      (inForce defaultLimit limit < n.reached.ncard ∧
        ofNfa limit n = .error ⟨.dfa,inForce defaultLimit limit⟩) := by
  have positive := bound_pos limit
  simp only [ofNfa]
  generalize inForce defaultLimit limit = most at positive
  cases explored : (subsetSystem n (partition n.labels)).explore (partition n.labels).size most with
  | none => exact .inr ⟨lt_ncard_of_explore_eq_none framed bound explored,rfl⟩
  | some states =>
    obtain ⟨nodes,listed⟩ := System.explore_listed positive explored
    have tracks := tracks_of_listed framed bound listed (System.explore_breadthFirst _ positive explored)
    refine .inl ⟨?_,_,_,rfl,tracks⟩
    rw [tracks.ncard_eq]
    exact System.explore_size_le positive explored

-- Determinisation succeeds exactly when no more sets are reached than the limit, and its states then stand for these
-- sets. Closing a set, over the silent edges as it lists them or in whatever other order, finds the least closed set
-- around it.
theorem ofNfa_counts_reached (nfaLimit limit : Int) (e : Expr) (n : Nfa) (wellFormed : e.WellFormed)
    (constructed : Nfa.ofExpr nfaLimit e = .ok n) :
    n.reached.Finite ∧
      (n.reached.ncard ≤ inForce defaultLimit limit →
        ∃ d sets, ofNfa limit n = .ok d ∧ d.size = n.reached.ncard ∧ d.Tracks n sets) ∧
      (inForce defaultLimit limit < n.reached.ncard → ofNfa limit n = .error ⟨.dfa,inForce defaultLimit limit⟩) ∧
      n.ListsSilent (fun s => silentTargets (n.outgoing[s]?.getD #[])) ∧
      ∀ silent list, n.ListsSilent silent → (∀ s ∈ list, s < n.size) →
        IsLeast {closed | Nfa.members list ⊆ closed ∧ n.SilentlyClosed closed}
          (Nfa.members (closure n.size silent list)) ∧
        ∀ silent' list', n.ListsSilent silent' → Nfa.members list' = Nfa.members list →
          closure n.size silent' list' = closure n.size silent list := by
  have recognises := Nfa.ofExpr?_recognises wellFormed (Nfa.ofExpr_eq_ok_iff.mp constructed)
  have framed := recognises.framed
  have outcome := ofNfa_outcome framed recognises.start_lt limit
  refine ⟨?_,?_,?_,fun s t => mem_silent_outgoing framed,?_⟩
  · rw [← (Nfa.members_bijOn framed recognises.start_lt).image_eq]
    exact Nfa.finite_subsets.image _
  · intro few
    rcases outcome with ⟨_,d,sets,determinised,tracks⟩ | ⟨many,_⟩
    · exact ⟨d,sets,determinised,tracks.ncard_eq.symm,tracks⟩
    · exact absurd few (not_le.mpr many)
  · intro many
    rcases outcome with ⟨few,_⟩ | ⟨_,refused⟩
    · exact absurd few (not_le.mpr many)
    · exact refused
  · intro silent list listing bounded
    refine ⟨?_,fun silent' list' listing' same => Nfa.closure_congr framed listing listing' bounded same⟩
    rw [Nfa.members_closure framed listing bounded]
    exact Nfa.εClosure_isLeast

def looping : Expr := .repetition 0 none true (.alternation [.literal [0x61],.empty])

theorem ofNfa_counts_reached_looping : looping.WellFormed ∧
    ∃ n d sets silent, Nfa.ofExpr 100 looping = .ok n ∧ n.reached.ncard ≤ 128 ∧ ofNfa 128 n = .ok d ∧
      d.size = n.reached.ncard ∧ d.Tracks n sets ∧ n.ListsSilent silent ∧
      IsLeast {closed | {0,6} ⊆ closed ∧ n.SilentlyClosed closed} (Nfa.members (closure n.size silent [6,0])) := by
  have wellFormed : looping.WellFormed := by
    simp only [looping,Expr.WellFormed,Expr.AllWellFormed]
    exact ⟨by decide,by decide,⟨by decide,trivial,trivial⟩⟩
  have constructs : ∃ n, Nfa.ofExpr? (inForce defaultLimit 100) looping = some n ∧ n.size = 7 :=
    Option.map_eq_some_iff.mp (by decide)
  obtain ⟨n,constructed,size⟩ := constructs
  have built := Nfa.ofExpr_eq_ok_iff.mpr constructed
  obtain ⟨d,determinised⟩ := ofNfa_isOk n (show 2 ^ n.size ≤ inForce defaultLimit 128 by rw [size]; decide)
  obtain ⟨_,accepts,refuses,listing,closes⟩ := ofNfa_counts_reached 100 128 looping n wellFormed built
  have few : n.reached.ncard ≤ 128 := by
    by_contra many
    rw [refuses (not_le.mp many)] at determinised
    cases determinised
  obtain ⟨d',sets,determinised',size',tracks⟩ := accepts few
  obtain ⟨least,_⟩ := closes _ [6,0] listing (by simp [size])
  have pair : Nfa.members [6,0] = {0,6} := by
    ext q
    simp [Nfa.members,or_comm]
  rw [pair] at least
  exact ⟨wellFormed,n,d',sets,_,built,few,determinised',size',tracks,listing,least⟩

end Dfa

end LexPattern.Automaton
