import Mathlib
import LexPattern.Automaton.Subset
import LexPattern.Proofs.Automaton.Construction
import LexPattern.Proofs.Automaton.Exploration
import LexPattern.Proofs.Grouping

namespace LexPattern.Automaton

section Closure

variable {size : Nat} {silent : Nat → List Nat} {pending states : List Nat} {seen : Std.HashSet Nat} {t : Nat}

theorem mem_of_mem_closeFrom (found : t ∈ closeFrom size silent pending seen) :
    t ∈ seen ∨ ∃ s ∈ pending, Relation.ReflTransGen (fun a b => b ∈ silent a) s t := by
  fun_induction closeFrom size silent pending seen with
  | case1 seen => exact .inl found
  | case2 seen s pending new ih =>
    rcases ih found with earlier | ⟨r,member,path⟩
    · rcases Std.HashSet.mem_insert.mp earlier with same | old
      · exact .inr ⟨s,List.mem_cons_self ..,eq_of_beq same ▸ .refl⟩
      · exact .inl old
    · rcases List.mem_append.mp member with next | later
      · exact .inr ⟨s,List.mem_cons_self ..,.head next path⟩
      · exact .inr ⟨r,List.mem_cons_of_mem _ later,path⟩
  | case3 seen s pending old ih =>
    rcases ih found with earlier | ⟨r,member,path⟩
    · exact .inl earlier
    · exact .inr ⟨r,List.mem_cons_of_mem _ member,path⟩

theorem mem_closeFrom_of_mem (earlier : t ∈ seen ∨ t ∈ pending ∧ t < size) : t ∈ closeFrom size silent pending seen := by
  fun_induction closeFrom size silent pending seen with
  | case1 seen => simpa using earlier
  | case2 seen s pending new ih =>
    apply ih
    rcases earlier with old | ⟨member,bound⟩
    · exact .inl (Std.HashSet.mem_insert.mpr (.inr old))
    · rcases List.mem_cons.mp member with rfl | later
      · exact .inl Std.HashSet.mem_insert_self
      · exact .inr ⟨List.mem_append_right _ later,bound⟩
  | case3 seen s pending old ih =>
    apply ih
    rcases earlier with found | ⟨member,bound⟩
    · exact .inl found
    · rcases List.mem_cons.mp member with rfl | later
      · exact .inl (by simpa [bound] using old)
      · exact .inr ⟨later,bound⟩

-- The states seen lead only to states seen or pending; in the end nothing is pending.
theorem closeFrom_closed (closed : ∀ s ∈ seen, ∀ t ∈ silent s, t < size → t ∈ seen ∨ t ∈ pending) :
    ∀ s ∈ closeFrom size silent pending seen, ∀ t ∈ silent s, t < size → t ∈ closeFrom size silent pending seen := by
  fun_induction closeFrom size silent pending seen with
  | case1 seen => simpa using closed
  | case2 seen s pending new ih =>
    apply ih
    intro a member b leads bound
    rcases Std.HashSet.mem_insert.mp member with same | old
    · cases eq_of_beq same
      exact .inr (List.mem_append_left _ leads)
    · rcases closed a old b leads bound with found | waiting
      · exact .inl (Std.HashSet.mem_insert.mpr (.inr found))
      · rcases List.mem_cons.mp waiting with rfl | later
        · exact .inl Std.HashSet.mem_insert_self
        · exact .inr (List.mem_append_right _ later)
  | case3 seen s pending old ih =>
    apply ih
    intro a member b leads bound
    rcases closed a member b leads bound with found | waiting
    · exact .inl found
    · rcases List.mem_cons.mp waiting with rfl | later
      · exact .inl (by simpa [bound] using old)
      · exact .inr later

theorem mem_closure (inside : ∀ s, ∀ t ∈ silent s, t < size) (bounded : ∀ s ∈ states, s < size) :
    t ∈ closure size silent states ↔ ∃ s ∈ states, Relation.ReflTransGen (fun a b => b ∈ silent a) s t := by
  rw [closure,List.mem_mergeSort,Std.HashSet.mem_toList]
  constructor
  · intro found
    rcases mem_of_mem_closeFrom found with earlier | path
    · simp at earlier
    · exact path
  · rintro ⟨s,member,path⟩
    induction path with
    | refl => exact mem_closeFrom_of_mem (.inr ⟨member,bounded s member⟩)
    | tail _ leads ih => exact closeFrom_closed (by simp) _ ih _ leads (inside _ _ leads)

theorem lt_of_mem_closeFrom (earlier : ∀ s ∈ seen, s < size) (found : t ∈ closeFrom size silent pending seen) :
    t < size := by
  fun_induction closeFrom size silent pending seen with
  | case1 seen => exact earlier t found
  | case2 seen s pending new ih =>
    refine ih (fun q member => ?_) found
    rcases Std.HashSet.mem_insert.mp member with same | old
    · exact eq_of_beq same ▸ new.1
    · exact earlier q old
  | case3 seen s pending old ih => exact ih earlier found

theorem lt_of_mem_closure (found : t ∈ closure size silent states) : t < size := by
  rw [closure,List.mem_mergeSort,Std.HashSet.mem_toList] at found
  exact lt_of_mem_closeFrom (by simp) found

-- A closure is a list in ascending order without repetitions, so it is fixed by its members.
theorem closure_eq_sort : closure size silent states = (closure size silent states).toFinset.sort (· ≤ ·) := by
  have distinct : (closure size silent states).Nodup := by
    refine (List.mergeSort_perm _ _).nodup_iff.mpr ?_
    exact Std.HashSet.distinct_toList.imp fun {a b} different same => by simp [same] at different
  exact ((List.toFinset_sort (· ≤ ·) distinct).mpr (mergeSort_pairwise_le _)).symm

end Closure

section Outgoing

variable {n : Nfa} {l : Language CodePoint} {e : Edge} {p q : Nat} {x : CodePoint}

theorem mem_outgoing (framed : Framed 0 n.size n.edges.toList) :
    e ∈ (n.outgoing[p]?.getD #[]).toList ↔ e ∈ n.edges.toList ∧ e.source = p := by
  have grouped : e ∈ (n.outgoing[p]?.getD #[]).toList ↔ p < n.size ∧ e ∈ n.edges.toList ∧ e.source = p := by
    rw [Nfa.outgoing,← Array.foldl_toList]
    exact grouped_iff (fun e (row : Array Edge) => e ∈ row.toList) (fun x y row => by simp) (by simp)
  rw [grouped]
  constructor
  · exact And.right
  · rintro ⟨member,rfl⟩
    exact ⟨(framed.inside e member).1.2,member,rfl⟩

theorem mem_silentTargets {edges : Array Edge} : q ∈ silentTargets edges ↔ ∃ p, ⟨p,none,q⟩ ∈ edges.toList := by
  simp only [silentTargets,List.mem_filterMap]
  constructor
  · rintro ⟨⟨p,label,q'⟩,member,found⟩
    cases label with
    | none =>
      cases found
      exact ⟨p,member⟩
    | some c => cases found
  · rintro ⟨p,member⟩
    exact ⟨⟨p,none,q⟩,member,rfl⟩

theorem mem_readingTargets {edges : Array Edge} :
    q ∈ readingTargets x edges ↔ ∃ p c, ⟨p,some c,q⟩ ∈ edges.toList ∧ c.contains x = true := by
  simp only [readingTargets,List.mem_filterMap]
  constructor
  · rintro ⟨⟨p,label,q'⟩,member,found⟩
    cases label with
    | none => cases found
    | some c =>
      dsimp only at found
      split at found
      · rename_i held
        cases found
        exact ⟨p,c,member,held⟩
      · cases found
  · rintro ⟨p,c,member,held⟩
    exact ⟨⟨p,some c,q⟩,member,by simp [held]⟩

theorem mem_silent_outgoing (framed : Framed 0 n.size n.edges.toList) :
    q ∈ silentTargets (n.outgoing[p]?.getD #[]) ↔ ⟨p,none,q⟩ ∈ n.edges.toList := by
  simp only [mem_silentTargets,mem_outgoing framed,exists_eq_right]

theorem mem_reading_outgoing (framed : Framed 0 n.size n.edges.toList) :
    q ∈ readingTargets x (n.outgoing[p]?.getD #[]) ↔ ∃ c, ⟨p,some c,q⟩ ∈ n.edges.toList ∧ c.contains x = true := by
  rw [mem_readingTargets]
  constructor
  · rintro ⟨p',c,found,held⟩
    obtain ⟨member,rfl⟩ := (mem_outgoing framed).mp found
    exact ⟨c,member,held⟩
  · rintro ⟨c,member,held⟩
    exact ⟨p,c,(mem_outgoing framed).mpr ⟨member,rfl⟩,held⟩

end Outgoing

section Subset

variable {n : Nfa} {l : Language CodePoint} {states : List Nat} {u w : List CodePoint} {x : CodePoint}

def Holds (n : Nfa) (u : List CodePoint) (states : List Nat) : Prop :=
  ∀ q, q ∈ states ↔ Walk n.edges.toList n.start u q

theorem mem_subset_closure (framed : Framed 0 n.size n.edges.toList) (bounded : ∀ s ∈ states, s < n.size) {q : Nat} :
    q ∈ closure n.size (fun s => silentTargets (n.outgoing[s]?.getD #[])) states ↔
      ∃ s ∈ states, Walk n.edges.toList s [] q := by
  rw [mem_closure ?_ bounded]
  · simp only [mem_silent_outgoing framed,Walk.nil_iff]
  · intro s t leads
    exact (framed.inside _ ((mem_silent_outgoing framed).mp leads)).2.2

theorem holds_start (framed : Framed 0 n.size n.edges.toList) (bound : n.start < n.size) (segments : Array Segment) :
    Holds n [] (subsetSystem n segments).start := by
  intro q
  have bounded : ∀ s ∈ [n.start], s < n.size := by simpa using bound
  change q ∈ closure n.size (fun s => silentTargets (n.outgoing[s]?.getD #[])) [n.start] ↔ _
  rw [mem_subset_closure framed bounded]
  simp

theorem mem_labels {c : CharClass} : c ∈ n.labels ↔ ∃ e ∈ n.edges.toList, e.label = some c := by
  simp only [Nfa.labels,List.mem_filterMap]

theorem labels_tidy (framed : Framed 0 n.size n.edges.toList) : ∀ c ∈ n.labels, c.Tidy := by
  intro c member
  obtain ⟨e,inEdges,labelled⟩ := mem_labels.mp member
  exact (framed.normal e inEdges c labelled).tidy

theorem Holds.walk_snoc (holds : Holds n u states) {q : Nat} :
    Walk n.edges.toList n.start (u ++ [x]) q ↔
      ∃ s ∈ states, ∃ c t, ⟨s,some c,t⟩ ∈ n.edges.toList ∧ c.contains x = true ∧ Walk n.edges.toList t [] q := by
  rw [Walk.append_iff]
  constructor
  · rintro ⟨r,before,last⟩
    obtain ⟨s,c,t,silently,edge,held,after⟩ := Walk.single_iff.mp last
    have arrives := before.append silently
    rw [List.append_nil] at arrives
    exact ⟨s,(holds s).mpr arrives,c,t,edge,held,after⟩
  · rintro ⟨s,member,c,t,edge,held,after⟩
    exact ⟨s,(holds s).mp member,.read edge held after⟩

theorem Holds.next (framed : Framed 0 n.size n.edges.toList) (holds : Holds n u states) {i : Nat}
    (place : segmentIndex? (partition n.labels) x = some i) :
    match (subsetSystem n (partition n.labels)).next states i with
    | some states' => Holds n (u ++ [x]) states'
    | none => ∀ q, ¬ Walk n.edges.toList n.start (u ++ [x]) q := by
  have tidy := labels_tidy framed
  obtain ⟨_,segment,atI,_⟩ := (partition_segmented tidy).segmentIndex?_eq_some_iff.mp place
  let moved := states.flatMap fun s => readingTargets segment.lo (n.outgoing[s]?.getD #[])
  have mem_moved : ∀ t, t ∈ moved ↔ ∃ s ∈ states, ∃ c, ⟨s,some c,t⟩ ∈ n.edges.toList ∧ c.contains x = true := by
    intro t
    simp only [moved,List.mem_flatMap,mem_reading_outgoing framed]
    refine exists_congr fun s => and_congr_right fun _ => exists_congr fun c => and_congr_right fun edge => ?_
    exact (partition_even tidy place atI (mem_labels.mpr ⟨_,edge,rfl⟩)).symm
  have walks : ∀ q, Walk n.edges.toList n.start (u ++ [x]) q ↔ ∃ t ∈ moved, Walk n.edges.toList t [] q := by
    intro q
    rw [holds.walk_snoc]
    constructor
    · rintro ⟨s,member,c,t,edge,held,after⟩
      exact ⟨t,(mem_moved t).mpr ⟨s,member,c,edge,held⟩,after⟩
    · rintro ⟨t,inMoved,after⟩
      obtain ⟨s,member,c,edge,held⟩ := (mem_moved t).mp inMoved
      exact ⟨s,member,c,t,edge,held,after⟩
  have next : (subsetSystem n (partition n.labels)).next states i = if moved.isEmpty then none else
      some (closure n.size (fun s => silentTargets (n.outgoing[s]?.getD #[])) moved) := by
    simp only [subsetSystem,atI]
    rfl
  rw [next]
  by_cases empty : moved.isEmpty = true
  · rw [if_pos empty]
    intro q walk
    obtain ⟨t,member,_⟩ := (walks q).mp walk
    rw [List.isEmpty_iff.mp empty] at member
    cases member
  · rw [if_neg empty]
    intro q
    rw [walks q]
    refine mem_subset_closure framed fun t member => ?_
    obtain ⟨s,_,c,edge,_⟩ := (mem_moved t).mp member
    exact (framed.inside _ edge).2.2

-- Reading a text from a set that is held leads to the set for the longer text, or nowhere when it is empty.
theorem Holds.read? (framed : Framed 0 n.size n.edges.toList) (holds : Holds n u states) (w : List CodePoint) :
    match (subsetSystem n (partition n.labels)).read? (partition n.labels) states w with
    | some states' => Holds n (u ++ w) states'
    | none => ∀ q, ¬ Walk n.edges.toList n.start (u ++ w) q := by
  induction w generalizing u states with
  | nil => simpa [System.read?] using holds
  | cons x w ih =>
    -- A walk on the whole text begins with a walk on the text up to this character.
    have stuck : (∀ q, ¬ Walk n.edges.toList n.start (u ++ [x]) q) →
        ∀ q, ¬ Walk n.edges.toList n.start (u ++ x :: w) q := by
      intro none q walk
      rw [List.append_cons,Walk.append_iff] at walk
      obtain ⟨r,before,_⟩ := walk
      exact none r before
    rw [System.read?]
    cases place : segmentIndex? (partition n.labels) x with
    | none =>
      refine stuck fun q walk => ?_
      obtain ⟨s,_,c,t,edge,held,_⟩ := holds.walk_snoc.mp walk
      rw [partition_complete (labels_tidy framed) place (mem_labels.mpr ⟨_,edge,rfl⟩)] at held
      cases held
    | some i =>
      have step := holds.next framed place
      rw [Option.bind_some]
      cases moved : (subsetSystem n (partition n.labels)).next states i with
      | none =>
        rw [moved] at step
        exact stuck step
      | some states' =>
        rw [moved] at step
        have later := ih step
        rw [← List.append_cons] at later
        exact later

theorem subsetSystem_accepts_iff (recognises : n.Recognises l) :
    (subsetSystem n (partition n.labels)).accepts (partition n.labels) w = true ↔ w ∈ l := by
  have reading := (holds_start recognises.framed recognises.start_lt (partition n.labels)).read? recognises.framed w
  rw [← recognises.walks,System.accepts,System.acceptsFrom]
  split
  · rename_i states found
    rw [found] at reading
    change states.contains n.accept = true ↔ _
    rw [List.contains_iff_mem,reading n.accept,List.nil_append]
  · rename_i found
    rw [found] at reading
    simpa using reading n.accept

def stateSets (n : Nfa) : Finset (List Nat) := (Finset.range n.size).powerset.image fun s => s.sort (· ≤ ·)

theorem card_stateSets_le : (stateSets n).card ≤ 2 ^ n.size := by
  refine Finset.card_image_le.trans ?_
  rw [Finset.card_powerset,Finset.card_range]

theorem closure_mem_stateSets {silent : Nat → List Nat} : closure n.size silent states ∈ stateSets n := by
  refine Finset.mem_image.mpr ⟨(closure n.size silent states).toFinset,?_,closure_eq_sort.symm⟩
  rw [Finset.mem_powerset]
  intro t member
  exact Finset.mem_range.mpr (lt_of_mem_closure (List.mem_toFinset.mp member))

theorem subsetSystem_reachable {segments : Array Segment} {width : Nat}
    (reachable : (subsetSystem n segments).Reachable width states) : states ∈ stateSets n := by
  induction reachable with
  | refl => exact closure_mem_stateSets
  | tail _ leads _ =>
    obtain ⟨c,_,next⟩ := leads
    simp only [subsetSystem] at next
    split at next
    · cases next
    · split at next
      · cases next
      · cases next
        exact closure_mem_stateSets

end Subset

namespace Dfa

variable {n : Nfa} {l : Language CodePoint} {limit : Int} {d : Dfa}

theorem ofNfa_listed (accepted : ofNfa limit n = .ok d) : ∃ nodes states,
    d = ⟨partition n.labels,0,states⟩ ∧
      (subsetSystem n (partition n.labels)).Listed (partition n.labels).size nodes states := by
  simp only [ofNfa] at accepted
  split at accepted
  · rename_i states explored
    cases accepted
    obtain ⟨nodes,listed⟩ := System.explore_listed (bound_pos limit) explored
    exact ⟨nodes,states,rfl,listed⟩
  · cases accepted

theorem ofNfa_recognises (recognises : n.Recognises l) (accepted : ofNfa limit n = .ok d) :
    d.WellFormed ∧ ∀ w, d.accepts w = true ↔ w ∈ l := by
  obtain ⟨nodes,states,rfl,listed⟩ := ofNfa_listed accepted
  refine ⟨listed.wellFormed (partition_segmented (labels_tidy recognises.framed)),fun w => ?_⟩
  rw [listed.accepts_eq,subsetSystem_accepts_iff recognises]

-- There are no more sets of states than subsets, so a limit of that many is never met.
theorem ofNfa_isOk (n : Nfa) (room : 2 ^ n.size ≤ inForce defaultLimit limit) : ∃ d, ofNfa limit n = .ok d := by
  have enough : ∃ states, (subsetSystem n (partition n.labels)).explore (partition n.labels).size
      (inForce defaultLimit limit) = some states :=
    System.explore_isSome (fun _ => subsetSystem_reachable) (card_stateSets_le.trans room)
  obtain ⟨states,explored⟩ := enough
  refine ⟨⟨partition n.labels,0,states⟩,?_⟩
  simp only [ofNfa,explored]

end Dfa

end LexPattern.Automaton
