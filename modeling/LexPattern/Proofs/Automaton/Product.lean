import Mathlib
import LexPattern.Automaton.Product
import LexPattern.Proofs.Automaton.Exploration

namespace LexPattern.Automaton

-- A finer alphabet: each of its segments stands for its characters in the coarser one, and it reads no fewer.
structure Refines (fine coarse : Array Segment) : Prop where
  lowest : ∀ {x : CodePoint} {i : Nat} {s : Segment}, segmentIndex? fine x = some i → fine[i]? = some s →
    segmentIndex? coarse s.lo = segmentIndex? coarse x
  missing : ∀ {x : CodePoint}, segmentIndex? fine x = none → segmentIndex? coarse x = none

theorem refines_of_subset {ranges : List (Interval CodePoint)} {used : CharClass} {segments : Array Segment}
    (ranged : ∀ r ∈ ranges, Ranged r) (uses : Uses used ranges) (segmented : Segmented segments)
    (included : ∀ s ∈ segments, s ∈ ranges) : Refines (segmentsBetween used (cuts ranges)).toArray segments where
  lowest := by
    intro x i s found atI
    obtain ⟨startScalar,even⟩ := segments_even ranged uses found (by simpa using atI)
    have scalar := ((segmentIndex?_eq_some_iff_first segments_ascend).mp found).1
    refine Option.ext fun j => ?_
    rw [segmented.segmentIndex?_eq_some_iff,segmented.segmentIndex?_eq_some_iff]
    simp only [startScalar,scalar,true_and]
    exact exists_congr fun t => and_congr_right fun atJ => (even t (included t (Array.mem_of_getElem? atJ))).symm
  missing := by
    intro x missing
    cases found : segmentIndex? segments x with
    | none => rfl
    | some j =>
      obtain ⟨scalar,t,atJ,inT⟩ := segmented.segmentIndex?_eq_some_iff.mp found
      exact absurd ⟨t,included t (Array.mem_of_getElem? atJ),inT⟩ (segments_complete ranged uses scalar missing)

section Pairs

variable {a b : Dfa} {segments : Array Segment} {p q : Nat × Nat} {c : Nat}

theorem pairSystem_next_eq_some_iff : (pairSystem a b segments).next p c = some q ↔
    ∃ s, segments[c]? = some s ∧ (∃ i, segmentIndex? a.segments s.lo = some i ∧ a.target? p.1 i = some q.1) ∧
      ∃ j, segmentIndex? b.segments s.lo = some j ∧ b.target? p.2 j = some q.2 := by
  obtain ⟨s,t⟩ := p
  obtain ⟨s',t'⟩ := q
  simp only [pairSystem,bind,Option.bind_eq_some_iff,pure,Array.getElem?_map]
  cases segments[c]? with
  | none => simp
  | some segment =>
    simp only [Option.map_some,Option.join_some,Option.some.injEq,Prod.mk.injEq,exists_eq_left',exists_eq_right_right]
    constructor
    · rintro ⟨i,placeA,j,placeB,leadsA,leadsB⟩
      exact ⟨⟨i,placeA,leadsA⟩,j,placeB,leadsB⟩
    · rintro ⟨⟨i,placeA,leadsA⟩,j,placeB,leadsB⟩
      exact ⟨i,placeA,j,placeB,leadsA,leadsB⟩

theorem pairSystem_step (inA : Refines segments a.segments) (inB : Refines segments b.segments) (s t : Nat)
    (x : CodePoint) : (segmentIndex? segments x).bind ((pairSystem a b segments).next (s,t)) =
      (a.step? s x).bind fun s' => (b.step? t x).map fun t' => (s',t') := by
  cases found : segmentIndex? segments x with
  | none =>
    rw [Dfa.step?,inA.missing found]
    rfl
  | some i =>
    have bound := segmentIndex?_lt found
    have atI : segments[i]? = some segments[i] := Array.getElem?_eq_getElem bound
    have readA : a.step? s segments[i].lo = a.step? s x := by rw [Dfa.step?,Dfa.step?,inA.lowest found atI]
    have readB : b.step? t segments[i].lo = b.step? t x := by rw [Dfa.step?,Dfa.step?,inB.lowest found atI]
    refine Option.ext fun q => ?_
    rw [Option.bind_some,pairSystem_next_eq_some_iff,atI]
    simp only [Option.some.injEq,exists_eq_left',← Dfa.step?_eq_some_iff,readA,readB,Option.bind_eq_some_iff,
      Option.map_eq_some_iff]
    constructor
    · rintro ⟨readsA,readsB⟩
      exact ⟨q.1,readsA,q.2,readsB,rfl⟩
    · rintro ⟨s',readsA,t',readsB,rfl⟩
      exact ⟨readsA,readsB⟩

theorem pairSystem_acceptsFrom (inA : Refines segments a.segments) (inB : Refines segments b.segments) (s t : Nat)
    (w : List CodePoint) :
    (pairSystem a b segments).acceptsFrom segments (s,t) w = (a.acceptsFrom s w && b.acceptsFrom t w) := by
  induction w generalizing s t with
  | nil => rfl
  | cons x w ih =>
    rw [System.acceptsFrom_cons,Dfa.acceptsFrom_cons,Dfa.acceptsFrom_cons,pairSystem_step inA inB]
    cases a.step? s x with
    | none => rfl
    | some s' =>
      cases b.step? t x with
      | none => simp
      | some t' => exact ih s' t'

theorem pairSystem_reachable (aWellFormed : a.WellFormed) (bWellFormed : b.WellFormed)
    (reachable : (pairSystem a b segments).Reachable segments.size p) :
    p ∈ Finset.range a.size ×ˢ Finset.range b.size := by
  induction reachable with
  | refl => simpa using ⟨aWellFormed.start_lt,bWellFormed.start_lt⟩
  | tail _ leads =>
    obtain ⟨c,_,next⟩ := leads
    obtain ⟨_,_,⟨_,_,leadsA⟩,_,_,leadsB⟩ := pairSystem_next_eq_some_iff.mp next
    simpa using ⟨(aWellFormed.inside leadsA).2,(bWellFormed.inside leadsB).2⟩

end Pairs

namespace Dfa

def common (a b : Dfa) : Array Segment := partition ((a.segments ++ b.segments).toList.map fun s => .ofRanges [s])

-- No segment ends at the last of the words, after which there is no cut.
def Cuttable (d : Dfa) : Prop := ∀ s ∈ d.segments, s.hi < 0x7FFFFFFF

variable {a b : Dfa}

theorem Cuttable.of_le_greatest (ends : ∀ s ∈ a.segments, s.hi ≤ CodePoint.greatest) : a.Cuttable :=
  fun s member => Int.lt_of_le_of_lt (ends s member) (by decide)

theorem common_eq : a.common b = (segmentsBetween (.ofRanges (a.segments ++ b.segments).toList)
    (cuts (a.segments ++ b.segments).toList)).toArray := by
  have alone : ∀ r : Segment, (CharClass.ofRanges [r]).toList = [r] := fun r => by
    simp [CharClass.ofRanges,CharClass.toList,IntervalSet.ofList,IntervalSet.sweep,IntervalSet.coalesce]
  have ranges : ((a.segments ++ b.segments).toList.map fun s => CharClass.ofRanges [s]).flatMap CharClass.toList =
      (a.segments ++ b.segments).toList := by
    simp only [List.flatMap_map,alone,List.flatMap_singleton']
  rw [common,partition,ranges]

theorem ranged_segments (aWellFormed : a.WellFormed) (bWellFormed : b.WellFormed) (aEnds : a.Cuttable)
    (bEnds : b.Cuttable) : ∀ r ∈ (a.segments ++ b.segments).toList, Ranged r := by
  intro r member
  rw [Array.toList_append,List.mem_append] at member
  rcases member with inA | inB
  · obtain ⟨scalar,order⟩ := aWellFormed.segmented.starts r inA
    exact ⟨scalar,order,aEnds r (Array.mem_toList_iff.mp inA)⟩
  · obtain ⟨scalar,order⟩ := bWellFormed.segmented.starts r inB
    exact ⟨scalar,order,bEnds r (Array.mem_toList_iff.mp inB)⟩

theorem common_refines (aWellFormed : a.WellFormed) (bWellFormed : b.WellFormed) (aEnds : a.Cuttable)
    (bEnds : b.Cuttable) : Refines (a.common b) a.segments ∧ Refines (a.common b) b.segments := by
  have ranged := ranged_segments aWellFormed bWellFormed aEnds bEnds
  rw [common_eq]
  exact ⟨refines_of_subset ranged (uses_ofRanges ranged) aWellFormed.segmented fun s member => by simp [member],
    refines_of_subset ranged (uses_ofRanges ranged) bWellFormed.segmented fun s member => by simp [member]⟩

-- There is room for all pairs, so the product is what the exploration of the pairs finds.
theorem inter_listed (aWellFormed : a.WellFormed) (bWellFormed : b.WellFormed) : ∃ nodes states,
    (pairSystem a b (a.common b)).explore (a.common b).size (a.size * b.size) = some states ∧
      a.inter b = ⟨a.common b,0,states⟩ ∧ (pairSystem a b (a.common b)).Listed (a.common b).size nodes states := by
  have room : (Finset.range a.size ×ˢ Finset.range b.size).card ≤ a.size * b.size := by
    rw [Finset.card_product,Finset.card_range,Finset.card_range]
  have held : ∀ p, (pairSystem a b (a.common b)).Reachable (a.common b).size p →
      p ∈ Finset.range a.size ×ˢ Finset.range b.size := fun _ => pairSystem_reachable aWellFormed bWellFormed
  obtain ⟨states,explored⟩ := System.explore_isSome held room
  have positive : 0 < a.size * b.size :=
    Nat.mul_pos (Nat.zero_lt_of_lt aWellFormed.start_lt) (Nat.zero_lt_of_lt bWellFormed.start_lt)
  obtain ⟨nodes,listed⟩ := System.explore_listed positive explored
  refine ⟨nodes,states,explored,?_,listed⟩
  unfold inter
  dsimp only
  rw [← common,explored]

theorem inter_accepts_eq (aWellFormed : a.WellFormed) (bWellFormed : b.WellFormed) (aEnds : a.Cuttable)
    (bEnds : b.Cuttable) (w : List CodePoint) : (a.inter b).accepts w = (a.accepts w && b.accepts w) := by
  obtain ⟨nodes,states,_,same,listed⟩ := inter_listed aWellFormed bWellFormed
  obtain ⟨inA,inB⟩ := common_refines aWellFormed bWellFormed aEnds bEnds
  rw [same,listed.accepts_eq]
  exact pairSystem_acceptsFrom inA inB a.start b.start w

theorem inter_size_le (aWellFormed : a.WellFormed) (bWellFormed : b.WellFormed) : (a.inter b).size ≤ a.size * b.size := by
  obtain ⟨nodes,states,_,same,listed⟩ := inter_listed aWellFormed bWellFormed
  have included : nodes.toFinset ⊆ Finset.range a.size ×ˢ Finset.range b.size := fun p member =>
    pairSystem_reachable aWellFormed bWellFormed (listed.reachable p (List.mem_toFinset.mp member))
  have counted := Finset.card_le_card included
  rw [List.toFinset_card_of_nodup listed.distinct,Finset.card_product,Finset.card_range,Finset.card_range] at counted
  rw [same]
  exact listed.size.trans_le counted

theorem common_segmented (aWellFormed : a.WellFormed) (bWellFormed : b.WellFormed)
    (aEnds : ∀ s ∈ a.segments, s.hi ≤ CodePoint.greatest) (bEnds : ∀ s ∈ b.segments, s.hi ≤ CodePoint.greatest) :
    Segmented (a.common b) ∧ ∀ s ∈ a.common b, s.hi ≤ CodePoint.greatest := by
  have ranged := ranged_segments aWellFormed bWellFormed (.of_le_greatest aEnds) (.of_le_greatest bEnds)
  have ends : ∀ r ∈ (a.segments ++ b.segments).toList, r.hi ≤ CodePoint.greatest := by
    intro r member
    rw [Array.toList_append,List.mem_append,Array.mem_toList_iff,Array.mem_toList_iff] at member
    exact member.elim (aEnds r) (bEnds r)
  rw [common_eq]
  exact ⟨segments_segmented ranged ends,fun s member => segments_le_greatest ranged ends (List.mem_toArray.mp member)⟩

theorem inter_wellFormed (aWellFormed : a.WellFormed) (bWellFormed : b.WellFormed)
    (aEnds : ∀ s ∈ a.segments, s.hi ≤ CodePoint.greatest) (bEnds : ∀ s ∈ b.segments, s.hi ≤ CodePoint.greatest) :
    (a.inter b).WellFormed := by
  obtain ⟨nodes,states,_,same,listed⟩ := inter_listed aWellFormed bWellFormed
  rw [same]
  exact listed.wellFormed (common_segmented aWellFormed bWellFormed aEnds bEnds).1

-- The product accepts what both automata accept. It is found with room for all pairs of states, wherever the segments
-- end.
theorem inter_accepts_iff (a b : Dfa) (aWellFormed : a.WellFormed) (bWellFormed : b.WellFormed)
    (aEnds : a.Cuttable) (bEnds : b.Cuttable) :
    (∃ states, (pairSystem a b (a.common b)).explore (a.common b).size (a.size * b.size) = some states ∧
      a.inter b = ⟨a.common b,0,states⟩) ∧
    (a.inter b).size ≤ a.size * b.size ∧
    ∀ w : List CodePoint, (∀ x ∈ w, x.isScalar = true) →
      ((a.inter b).accepts w = true ↔ a.accepts w = true ∧ b.accepts w = true) := by
  obtain ⟨_,states,explored,same,_⟩ := inter_listed aWellFormed bWellFormed
  refine ⟨⟨states,explored,same⟩,inter_size_le aWellFormed bWellFormed,fun w _ => ?_⟩
  rw [inter_accepts_eq aWellFormed bWellFormed aEnds bEnds,Bool.and_eq_true]

-- Two automata whose segments end at different places among the surrogates and past the last scalar.
def early : Dfa where
  segments := #[⟨0xD700,0xD900⟩,⟨0xE000,0x110005⟩]
  start := 0
  states := #[⟨false,#[some 1,none]⟩,⟨true,#[some 0,some 1]⟩]

def late : Dfa where
  segments := #[⟨0xD7FF,0xDABC⟩,⟨0xE005,0x110009⟩]
  start := 0
  states := #[⟨true,#[some 0,some 0]⟩]

theorem inter_accepts_iff_early_late : early.WellFormed ∧ late.WellFormed ∧ early.Cuttable ∧ late.Cuttable ∧
    (early.inter late).size ≤ 2 ∧ ∀ w : List CodePoint, (∀ x ∈ w, x.isScalar = true) →
      ((early.inter late).accepts w = true ↔ early.accepts w = true ∧ late.accepts w = true) := by
  have earlyWellFormed : early.WellFormed := .of_states (by decide) (by decide) (by decide) (by decide) (by decide)
  have lateWellFormed : late.WellFormed := .of_states (by decide) (by decide) (by decide) (by decide) (by decide)
  have earlyEnds : early.Cuttable := by
    unfold Cuttable
    decide
  have lateEnds : late.Cuttable := by
    unfold Cuttable
    decide
  obtain ⟨_,size,accepts⟩ := inter_accepts_iff early late earlyWellFormed lateWellFormed earlyEnds lateEnds
  exact ⟨earlyWellFormed,lateWellFormed,earlyEnds,lateEnds,size,accepts⟩

end Dfa

end LexPattern.Automaton
