import Mathlib
import LexPattern.Automaton.Exploration
import LexPattern.Proofs.Automaton.Dfa

namespace LexPattern.Automaton

namespace Numbering

section Growth

variable {σ : Type} [BEq σ] [Hashable σ] {n n' n'' : Numbering σ} {fresh wider : σ → Prop} {x : σ}
  {limit : Nat}

def Lawful (n : Numbering σ) : Prop := ∀ (x : σ) (i : Nat), n.number[x]? = some i ↔ n.nodes.toList[i]? = some x

-- More nodes may have got numbers, all of a certain kind.
structure Grows (limit : Nat) (fresh : σ → Prop) (n n' : Numbering σ) : Prop where
  lawful : n'.Lawful
  kept : n.nodes.toList <+: n'.nodes.toList
  source : ∀ y ∈ n'.nodes.toList, y ∈ n.nodes.toList ∨ fresh y
  room : n.nodes.size ≤ limit → n'.nodes.size ≤ limit

theorem Lawful.nodup (lawful : n.Lawful) : n.nodes.toList.Nodup := by
  rw [List.nodup_iff_injective_get]
  intro i j same
  have first := (lawful _ i).mpr (List.getElem?_eq_getElem i.isLt)
  have second := (lawful _ j).mpr (List.getElem?_eq_getElem j.isLt)
  have equal : n.nodes.toList[(i : Nat)] = n.nodes.toList[(j : Nat)] := same
  rw [equal,second] at first
  exact Fin.ext (Option.some.inj first).symm

theorem Grows.refl (lawful : n.Lawful) : Grows limit fresh n n :=
  ⟨lawful,List.prefix_refl _,fun _ member => .inl member,fun room => room⟩

theorem Grows.trans (first : Grows limit fresh n n') (second : Grows limit fresh n' n'') :
    Grows limit fresh n n'' where
  lawful := second.lawful
  kept := first.kept.trans second.kept
  source := by
    intro y member
    rcases second.source y member with earlier | isNew
    · exact first.source y earlier
    · exact .inr isNew
  room := fun room => second.room (first.room room)

theorem Grows.mono (grows : Grows limit fresh n n') (included : ∀ y, fresh y → wider y) : Grows limit wider n n' :=
  ⟨grows.lawful,grows.kept,fun y member => (grows.source y member).imp_right (included y),grows.room⟩

theorem visit_eq_none (lawful : n.Lawful) (refused : n.visit limit x = none) :
    x ∉ n.nodes.toList ∧ limit ≤ n.nodes.size := by
  unfold visit at refused
  split at refused
  · cases refused
  · rename_i missing
    split at refused
    · cases refused
    · rename_i full
      refine ⟨fun member => ?_,not_lt.mp full⟩
      obtain ⟨k,atK⟩ := List.mem_iff_getElem?.mp member
      rw [(lawful x k).mpr atK] at missing
      cases missing

end Growth

variable {σ : Type} [BEq σ] [Hashable σ] [LawfulBEq σ] [LawfulHashable σ] {n n' : Numbering σ} {x : σ} {i limit : Nat}

theorem Lawful.new (start : σ) : (Numbering.new start).Lawful := by
  intro x i
  simp only [Numbering.new,Std.HashMap.getElem?_insert,beq_iff_eq,Std.HashMap.getElem?_empty]
  by_cases same : start = x
  · cases i <;> simp [same]
  · cases i <;> simp [same]

theorem Lawful.push (lawful : n.Lawful) (missing : n.number[x]? = none) :
    Lawful ⟨n.nodes.push x,n.number.insert x n.nodes.size⟩ := by
  intro y j
  simp only [Std.HashMap.getElem?_insert,Array.toList_push]
  by_cases same : x = y
  · subst same
    rcases Nat.lt_trichotomy j n.nodes.size with before | rfl | after
    · rw [List.getElem?_append_left (by simpa using before),← lawful x j,missing]
      simp [before.ne']
    · simp
    · simp [after.ne,after]
  · rw [if_neg (by simpa using same),lawful y j]
    rcases Nat.lt_or_ge j n.nodes.size with before | after
    · rw [List.getElem?_append_left (by simpa using before)]
    · rw [List.getElem?_append_right (by simpa using after),List.getElem?_eq_none (by simpa using after)]
      simp [List.getElem?_singleton,same]

theorem visit_eq_some (lawful : n.Lawful) (accepted : n.visit limit x = some (i,n')) :
    Grows limit (· = x) n n' ∧ n'.nodes.toList[i]? = some x := by
  unfold visit at accepted
  split at accepted
  · rename_i found
    cases accepted
    exact ⟨.refl lawful,(lawful x i).mp found⟩
  · rename_i missing
    split at accepted
    · rename_i room
      cases accepted
      exact ⟨⟨lawful.push missing,by simp,by simp,fun _ => by simpa using room⟩,by simp⟩
    · cases accepted

end Numbering

namespace System

section Nodes

variable {σ : Type} {m : System σ} {width : Nat} {nodes more : List σ} {x y : σ}

def Reachable (m : System σ) (width : Nat) (x : σ) : Prop :=
  Relation.ReflTransGen (fun x y => ∃ c < width, m.next x c = some y) m.start x

def Numbered (nodes : List σ) : Option σ → Option Nat → Prop := Option.Rel fun y i => nodes[i]? = some y

def RowOf (m : System σ) (nodes : List σ) (x : σ) (segments : List Nat) (row : List (Option Nat)) : Prop :=
  List.Forall₂ (fun c t => Numbered nodes (m.next x c) t) segments row

def StateOf (m : System σ) (width : Nat) (nodes : List σ) (x : σ) (s : DfaState) : Prop :=
  s.accept = m.accept x ∧ m.RowOf nodes x (List.range width) s.next.toList

-- States for all reachable nodes, each of which is listed once.
structure Listed (m : System σ) (width : Nat) (nodes : List σ) (states : Array DfaState) : Prop where
  starts : nodes[0]? = some m.start
  distinct : nodes.Nodup
  reachable : ∀ x ∈ nodes, m.Reachable width x
  size : states.size = nodes.length
  state : ∀ (i : Nat) (x : σ), nodes[i]? = some x → ∃ s, states[i]? = some s ∧ m.StateOf width nodes x s

theorem Numbered.mono {target : Option σ} {t : Option Nat} (numbered : Numbered nodes target t) (kept : nodes <+: more) :
    Numbered more target t := by
  cases numbered with
  | none => exact .none
  | some atI =>
    refine .some ?_
    obtain ⟨rest,rfl⟩ := kept
    exact List.getElem?_append_left (List.getElem?_eq_some_iff.mp atI).1 ▸ atI

theorem RowOf.mono {segments : List Nat} {row : List (Option Nat)} (rowOf : m.RowOf nodes x segments row)
    (kept : nodes <+: more) : m.RowOf more x segments row :=
  List.Forall₂.imp (fun _ _ numbered => numbered.mono kept) rowOf

end Nodes

variable {σ : Type} [BEq σ] [Hashable σ] [LawfulBEq σ] [LawfulHashable σ] {m : System σ} {n n' : Numbering σ} {x : σ}
  {width limit : Nat} {segments : List Nat} {row row' : Array (Option Nat)}

theorem row_eq_some (lawful : n.Lawful) (accepted : m.row limit x segments row n = some (row',n')) :
    Numbering.Grows limit (fun y => ∃ c ∈ segments, m.next x c = some y) n n' ∧
      ∃ added, row'.toList = row.toList ++ added ∧ m.RowOf n'.nodes.toList x segments added := by
  induction segments generalizing n row with
  | nil =>
    cases accepted
    exact ⟨.refl lawful,[],by simp,.nil⟩
  | cons c segments ih =>
    rw [System.row] at accepted
    split at accepted
    · rename_i stops
      obtain ⟨grows,added,rows,rowOf⟩ := ih lawful accepted
      refine ⟨grows.mono fun y ⟨c,member,leads⟩ => ⟨c,List.mem_cons_of_mem _ member,leads⟩,none :: added,by simp [rows],?_⟩
      exact .cons (by rw [stops]; exact .none) rowOf
    · rename_i y leads
      split at accepted
      · cases accepted
      · rename_i i n₁ visited
        obtain ⟨first,place⟩ := Numbering.visit_eq_some lawful visited
        obtain ⟨later,added,rows,rowOf⟩ := ih first.lawful accepted
        refine ⟨?_,some i :: added,by simp [rows],.cons ?_ rowOf⟩
        · refine (first.mono ?_).trans (later.mono ?_)
          · rintro z rfl
            exact ⟨c,List.mem_cons_self ..,leads⟩
          · rintro z ⟨c',member,leads'⟩
            exact ⟨c',List.mem_cons_of_mem _ member,leads'⟩
        · have numbered : Numbered n₁.nodes.toList (some y) (some i) := .some place
          rw [leads]
          exact numbered.mono later.kept

theorem row_eq_none (lawful : n.Lawful) (refused : m.row limit x segments row n = none) :
    ∃ met : List σ, met.Nodup ∧ limit < met.length ∧
      ∀ y ∈ met, y ∈ n.nodes.toList ∨ ∃ c ∈ segments, m.next x c = some y := by
  induction segments generalizing n row with
  | nil => cases refused
  | cons c segments ih =>
    rw [System.row] at refused
    split at refused
    · obtain ⟨met,distinct,many,source⟩ := ih lawful refused
      refine ⟨met,distinct,many,fun y member => (source y member).imp_right ?_⟩
      rintro ⟨c',inSegments,leads⟩
      exact ⟨c',List.mem_cons_of_mem _ inSegments,leads⟩
    · rename_i y leads
      split at refused
      · rename_i full
        obtain ⟨isNew,tooMany⟩ := Numbering.visit_eq_none lawful full
        refine ⟨y :: n.nodes.toList,List.nodup_cons.mpr ⟨isNew,lawful.nodup⟩,?_,?_⟩
        · simpa using Nat.lt_succ_of_le tooMany
        · intro z member
          rcases List.mem_cons.mp member with rfl | earlier
          · exact .inr ⟨c,List.mem_cons_self ..,leads⟩
          · exact .inl earlier
      · rename_i i n₁ visited
        obtain ⟨first,place⟩ := Numbering.visit_eq_some lawful visited
        obtain ⟨met,distinct,many,source⟩ := ih first.lawful refused
        refine ⟨met,distinct,many,fun z member => ?_⟩
        rcases source z member with earlier | ⟨c',inSegments,leads'⟩
        · rcases first.source z earlier with old | rfl
          · exact .inl old
          · exact .inr ⟨c,List.mem_cons_self ..,leads⟩
        · exact .inr ⟨c',List.mem_cons_of_mem _ inSegments,leads'⟩

-- The first nodes have their states, and all nodes so far are reachable.
structure Settled (m : System σ) (width : Nat) (states : Array DfaState) (n : Numbering σ) : Prop where
  lawful : n.Lawful
  starts : n.nodes.toList[0]? = some m.start
  reachable : ∀ x ∈ n.nodes.toList, m.Reachable width x
  settled : ∀ (i : Nat) (s : DfaState), states[i]? = some s →
    ∃ x, n.nodes.toList[i]? = some x ∧ m.StateOf width n.nodes.toList x s

namespace Settled

variable {states : Array DfaState}

theorem new (m : System σ) (width : Nat) : m.Settled width #[] (.new m.start) where
  lawful := .new m.start
  starts := rfl
  reachable := by
    intro x member
    rw [show x = m.start by simpa [Numbering.new] using member]
    exact .refl
  settled := by simp

omit [LawfulBEq σ] [LawfulHashable σ] in
theorem size_le (settled : m.Settled width states n) : states.size ≤ n.nodes.size := by
  by_contra beyond
  have bound : n.nodes.size < states.size := not_le.mp beyond
  obtain ⟨x,atLast,_⟩ := settled.settled n.nodes.size _ (Array.getElem?_eq_getElem bound)
  simp at atLast

theorem step (settled : m.Settled width states n) (next : n.nodes[states.size]? = some x)
    (made : m.row limit x (List.range width) #[] n = some (row,n')) :
    m.Settled width (states.push ⟨m.accept x,row⟩) n' := by
  obtain ⟨grows,added,rows,rowOf⟩ := row_eq_some settled.lawful made
  have place : n.nodes.toList[states.size]? = some x := by simpa using next
  have stays : ∀ (i : Nat) (y : σ), n.nodes.toList[i]? = some y → n'.nodes.toList[i]? = some y := by
    intro i y atI
    obtain ⟨rest,equal⟩ := grows.kept
    rw [← equal,List.getElem?_append_left (List.getElem?_eq_some_iff.mp atI).1]
    exact atI
  refine ⟨grows.lawful,stays 0 _ settled.starts,?_,?_⟩
  · intro y member
    rcases grows.source y member with earlier | ⟨c,inRange,leads⟩
    · exact settled.reachable y earlier
    · have reachable := settled.reachable x (List.mem_of_getElem? place)
      exact reachable.tail ⟨c,List.mem_range.mp inRange,leads⟩
  · intro i s atI
    rw [Array.getElem?_push] at atI
    split at atI
    · rename_i last
      cases atI
      refine ⟨x,last ▸ stays _ x place,rfl,?_⟩
      simpa [rows] using rowOf
    · obtain ⟨y,atI',accept,rowOf'⟩ := settled.settled i s atI
      exact ⟨y,stays i y atI',accept,rowOf'.mono grows.kept⟩

omit [LawfulBEq σ] [LawfulHashable σ] in
theorem listed (settled : m.Settled width states n) (all : n.nodes.size ≤ states.size) :
    m.Listed width n.nodes.toList states where
  starts := settled.starts
  distinct := settled.lawful.nodup
  reachable := settled.reachable
  size := Nat.le_antisymm settled.size_le (by simpa using all)
  state := by
    intro i x atI
    have bound : i < states.size := by
      have := (List.getElem?_eq_some_iff.mp atI).1
      simp only [Array.length_toList] at this
      omega
    obtain ⟨y,atI',stateOf⟩ := settled.settled i _ (Array.getElem?_eq_getElem bound)
    rw [atI] at atI'
    cases atI'
    exact ⟨_,Array.getElem?_eq_getElem bound,stateOf⟩

end Settled

section Exploration

variable {fuel : Nat} {states states' : Array DfaState}

omit [LawfulBEq σ] [LawfulHashable σ] in
-- What each further row keeps holds in the end. The rounds end only when every node has its row, or run out.
theorem expand_keeps {P : Array DfaState → Numbering σ → Prop}
    (step : ∀ {states n x row n'}, P states n → n.nodes[states.size]? = some x →
      m.row limit x (List.range width) #[] n = some (row,n') → P (states.push ⟨m.accept x,row⟩) n')
    (held : P states n) (accepted : m.expand width limit fuel states n = some states') :
    ∃ n', P states' n' ∧ (n'.nodes.size ≤ states'.size ∨ states.size + fuel ≤ states'.size) := by
  induction fuel generalizing states n with
  | zero =>
    cases accepted
    exact ⟨n,held,.inr le_rfl⟩
  | succ fuel ih =>
    rw [expand] at accepted
    split at accepted
    · rename_i finished
      cases accepted
      exact ⟨n,held,.inl (Array.getElem?_eq_none_iff.mp finished)⟩
    · rename_i x next
      split at accepted
      · cases accepted
      · rename_i row n₁ made
        obtain ⟨n',kept,ended⟩ := ih (step held next made) accepted
        refine ⟨n',kept,ended.imp_right fun rounds => ?_⟩
        rw [Array.size_push] at rounds
        omega

theorem expand_eq_none (settled : m.Settled width states n) (refused : m.expand width limit fuel states n = none) :
    ∃ met : List σ, met.Nodup ∧ limit < met.length ∧ ∀ y ∈ met, m.Reachable width y := by
  induction fuel generalizing states n with
  | zero => cases refused
  | succ fuel ih =>
    rw [expand] at refused
    split at refused
    · cases refused
    · rename_i x next
      split at refused
      · rename_i full
        obtain ⟨met,distinct,many,source⟩ := row_eq_none settled.lawful full
        refine ⟨met,distinct,many,fun y member => ?_⟩
        rcases source y member with earlier | ⟨c,inRange,leads⟩
        · exact settled.reachable y earlier
        · have reachable := settled.reachable x (List.mem_of_getElem? (by simpa using next))
          exact reachable.tail ⟨c,List.mem_range.mp inRange,leads⟩
      · rename_i row n₁ made
        exact ih (settled.step next made) refused

-- A finished exploration keeps what its rows keep, and has given a row to every node. As many rounds as the limit
-- suffice, since no more nodes get a number.
theorem explore_keeps {P : Array DfaState → Numbering σ → Prop}
    (step : ∀ {states n x row n'}, m.Settled width states n → P states n → n.nodes[states.size]? = some x →
      m.row limit x (List.range width) #[] n = some (row,n') → P (states.push ⟨m.accept x,row⟩) n')
    (held : P #[] (.new m.start)) (positive : 0 < limit) (accepted : m.explore width limit = some states) :
    ∃ n, m.Settled width states n ∧ P states n ∧ n.nodes.size ≤ states.size := by
  let Q : Array DfaState → Numbering σ → Prop := fun states n =>
    (m.Settled width states n ∧ n.nodes.size ≤ limit) ∧ P states n
  have kept : ∀ {states n x row n'}, Q states n → n.nodes[states.size]? = some x →
      m.row limit x (List.range width) #[] n = some (row,n') → Q (states.push ⟨m.accept x,row⟩) n' := by
    rintro states n x row n' ⟨⟨settled,room⟩,held⟩ next made
    have grows := (row_eq_some settled.lawful made).1
    exact ⟨⟨settled.step next made,grows.room room⟩,step settled held next made⟩
  obtain ⟨n,⟨⟨settled,room⟩,held⟩,ended⟩ := expand_keeps kept ⟨⟨Settled.new m width,positive⟩,held⟩ accepted
  refine ⟨n,settled,held,ended.elim id fun rounds => ?_⟩
  rw [Array.size_empty,Nat.zero_add] at rounds
  exact room.trans rounds

theorem explore_listed (positive : 0 < limit) (accepted : m.explore width limit = some states) :
    ∃ nodes, m.Listed width nodes states := by
  obtain ⟨n,settled,_,all⟩ := explore_keeps (P := fun _ _ => True) (fun _ _ _ _ => trivial) trivial positive accepted
  exact ⟨_,settled.listed all⟩

theorem explore_eq_none (refused : m.explore width limit = none) :
    ∃ met : List σ, met.Nodup ∧ limit < met.length ∧ ∀ y ∈ met, m.Reachable width y :=
  expand_eq_none (Settled.new m width) refused

theorem explore_isSome {bound : Finset σ} (held : ∀ y, m.Reachable width y → y ∈ bound) (room : bound.card ≤ limit) :
    ∃ states, m.explore width limit = some states := by
  cases outcome : m.explore width limit with
  | some states => exact ⟨states,rfl⟩
  | none =>
    classical
    obtain ⟨met,distinct,many,reachable⟩ := explore_eq_none outcome
    have included : met.toFinset ⊆ bound := fun y member => held y (reachable y (List.mem_toFinset.mp member))
    have counted := Finset.card_le_card included
    rw [List.toFinset_card_of_nodup distinct] at counted
    omega

end Exploration

section Reading

variable {σ : Type}

def read? (m : System σ) (segments : Array Segment) (x : σ) : List CodePoint → Option σ
  | [] => some x
  | c :: cs =>
    match (segmentIndex? segments c).bind (m.next x) with
    | some y => m.read? segments y cs
    | none => none

def acceptsFrom (m : System σ) (segments : Array Segment) (x : σ) (w : List CodePoint) : Bool :=
  match m.read? segments x w with
  | some y => m.accept y
  | none => false

def accepts (m : System σ) (segments : Array Segment) (w : List CodePoint) : Bool := m.acceptsFrom segments m.start w

variable {m : System σ} {nodes : List σ} {states : Array DfaState} {segments : Array Segment} {i : Nat} {x : σ}

theorem acceptsFrom_cons {c : CodePoint} {w : List CodePoint} : m.acceptsFrom segments x (c :: w) =
    (((segmentIndex? segments c).bind (m.next x)).map fun y => m.acceptsFrom segments y w).getD false := by
  unfold acceptsFrom
  rw [read?]
  cases (segmentIndex? segments c).bind (m.next x) <;> rfl

theorem read?_append (u v : List CodePoint) :
    m.read? segments x (u ++ v) = (m.read? segments x u).bind fun y => m.read? segments y v := by
  induction u generalizing x with
  | nil => rfl
  | cons c u ih =>
    rw [List.cons_append,read?,read?]
    cases (segmentIndex? segments c).bind (m.next x) with
    | none => rfl
    | some y => exact ih

-- A node that segments lead to is reached by reading the lowest character of each.
theorem exists_read? (segmented : Segmented segments) (reachable : m.Reachable segments.size x) :
    ∃ w : List CodePoint, (∀ c ∈ w, c.isScalar = true) ∧ m.read? segments m.start w = some x := by
  induction reachable with
  | refl => exact ⟨[],by simp,rfl⟩
  | @tail y z _ leads ih =>
    obtain ⟨w,scalars,arrives⟩ := ih
    obtain ⟨c,bound,next⟩ := leads
    have atC : segments[c]? = some segments[c] := Array.getElem?_eq_getElem bound
    have scalar := (segmented.starts segments[c] (Array.mem_toList_iff.mpr (Array.getElem_mem bound))).1
    refine ⟨w ++ [segments[c].lo],?_,?_⟩
    · intro k member
      rcases List.mem_append.mp member with earlier | last
      · exact scalars k earlier
      · rwa [List.mem_singleton.mp last]
    · rw [read?_append,arrives,Option.bind_some,read?,segmented.segmentIndex?_lo atC,Option.bind_some,next]
      rfl

namespace Listed

theorem isAccepting_eq (listed : m.Listed segments.size nodes states) (atI : nodes[i]? = some x) :
    (Dfa.mk segments 0 states).isAccepting i = m.accept x := by
  obtain ⟨s,atI',accept,_⟩ := listed.state i x atI
  simp only [Dfa.isAccepting,atI',accept]

theorem target?_numbered (listed : m.Listed segments.size nodes states) (atI : nodes[i]? = some x) {c : Nat}
    (bound : c < segments.size) : Numbered nodes (m.next x c) ((Dfa.mk segments 0 states).target? i c) := by
  obtain ⟨s,atI',_,rowOf⟩ := listed.state i x atI
  have length := rowOf.length_eq
  rw [List.length_range,Array.length_toList] at length
  have inRow : c < s.next.size := length ▸ bound
  have numbered := (List.forall₂_iff_get.mp rowOf).2 c (by simpa using bound) (by simpa using inRow)
  simpa [Dfa.target?,atI',inRow] using numbered

theorem read?_numbered (listed : m.Listed segments.size nodes states) (atI : nodes[i]? = some x) (w : List CodePoint) :
    Numbered nodes (m.read? segments x w) ((Dfa.mk segments 0 states).run? i w) := by
  induction w generalizing i x with
  | nil => exact .some atI
  | cons c w ih =>
    rw [read?,Dfa.run?,Dfa.step?]
    cases place : segmentIndex? segments c with
    | none => exact .none
    | some k =>
      have numbered := listed.target?_numbered atI (segmentIndex?_lt place)
      simp only [Option.bind_some]
      cases target : m.next x k with
      | none =>
        rw [target] at numbered
        generalize (Dfa.mk segments 0 states).target? i k = t at numbered ⊢
        cases numbered
        exact .none
      | some y =>
        rw [target] at numbered
        generalize (Dfa.mk segments 0 states).target? i k = t at numbered ⊢
        cases numbered with
        | some atJ => exact ih atJ

theorem acceptsFrom_eq (listed : m.Listed segments.size nodes states) (atI : nodes[i]? = some x) (w : List CodePoint) :
    (Dfa.mk segments 0 states).acceptsFrom i w = m.acceptsFrom segments x w := by
  have numbered := listed.read?_numbered atI w
  unfold Dfa.acceptsFrom acceptsFrom
  generalize (Dfa.mk segments 0 states).run? i w = reached at numbered ⊢
  generalize m.read? segments x w = node at numbered ⊢
  cases numbered with
  | none => rfl
  | some atJ => exact listed.isAccepting_eq atJ

theorem accepts_eq (listed : m.Listed segments.size nodes states) (w : List CodePoint) :
    (Dfa.mk segments 0 states).accepts w = m.accepts segments w :=
  listed.acceptsFrom_eq listed.starts w

theorem wellFormed (listed : m.Listed segments.size nodes states) (segmented : Segmented segments) :
    (Dfa.mk segments 0 states).WellFormed where
  segmented := segmented
  start_lt := by
    have bound := (List.getElem?_eq_some_iff.mp listed.starts).1
    rw [← listed.size] at bound
    exact bound
  inside := by
    intro s c t leads
    unfold Dfa.target? at leads
    split at leads
    · rename_i state atS
      have inStates : s < nodes.length := listed.size ▸ (Array.getElem?_eq_some_iff.mp atS).1
      obtain ⟨state',atS',_,rowOf⟩ := listed.state s _ (List.getElem?_eq_getElem inStates)
      cases atS.symm.trans atS'
      have length := rowOf.length_eq
      rw [List.length_range,Array.length_toList] at length
      have inRow : c < state.next.size := by
        by_contra beyond
        rw [Array.getElem?_eq_none (not_lt.mp beyond)] at leads
        cases leads
      have bound : c < segments.size := length ▸ inRow
      have numbered := listed.target?_numbered (List.getElem?_eq_getElem inStates) bound
      have target : (Dfa.mk segments 0 states).target? s c = some t := by simpa [Dfa.target?,atS] using leads
      rw [target] at numbered
      refine ⟨bound,?_⟩
      generalize m.next nodes[s] c = y at numbered
      cases numbered with
      | some atT =>
        change t < states.size
        rw [listed.size]
        exact (List.getElem?_eq_some_iff.mp atT).1
    · cases leads

theorem exists_run? (listed : m.Listed segments.size nodes states) (segmented : Segmented segments)
    (atI : nodes[i]? = some x) :
    ∃ w : List CodePoint, (∀ c ∈ w, c.isScalar = true) ∧ (Dfa.mk segments 0 states).run? 0 w = some i := by
  obtain ⟨w,scalars,arrives⟩ := exists_read? segmented (listed.reachable x (List.mem_of_getElem? atI))
  refine ⟨w,scalars,?_⟩
  have numbered := listed.read?_numbered listed.starts w
  rw [arrives] at numbered
  generalize (Dfa.mk segments 0 states).run? 0 w = reached at numbered ⊢
  cases numbered with
  | some atJ =>
    have bound := (List.getElem?_eq_some_iff.mp atJ).1
    rw [(List.getElem?_inj bound listed.distinct).mp (atJ.trans atI.symm)]

end Listed

end Reading

end System

end LexPattern.Automaton
