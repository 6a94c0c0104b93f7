import Mathlib
import LexPattern.Automaton.Minimal
import LexPattern.Proofs.Automaton.Exploration
import LexPattern.Proofs.Automaton.Refinement
import LexPattern.Proofs.Automaton.Residual
import LexPattern.Proofs.Grouping

namespace LexPattern.Automaton

section Completion

variable {d : Dfa} {s t c : Nat} {w : List CodePoint} {cs : List Nat}

namespace Complete

theorem mem_invert {size width : Nat} {delta : Nat → Nat → Nat} :
    s ∈ ((invert size width delta)[c]?.bind (·[t]?)).getD [] ↔ c < width ∧ t < size ∧ s < size ∧ delta s c = t := by
  by_cases bound : c < width
  · have row : (invert size width delta)[c]? = some ((List.range size).foldl
        (fun into s => into.modify (delta s c) (s :: ·)) (Array.replicate size [])) := by simp [invert,bound]
    have grouped : s ∈ ((List.range size).foldl (fun into s => into.modify (delta s c) (s :: ·))
        (Array.replicate size []))[t]?.getD [] ↔ t < size ∧ s ∈ List.range size ∧ delta s c = t :=
      grouped_iff (fun s (row : List Nat) => s ∈ row) (fun x y row => by simp [or_comm]) (by simp)
    rw [row,Option.bind_some,grouped,List.mem_range]
    simp [bound]
  · simp [invert,bound]

theorem ofDfa_delta_lt (wellFormed : d.WellFormed) : (ofDfa d).delta s c < d.size + 1 := by
  change (d.target? s c).getD d.size < d.size + 1
  cases leads : d.target? s c with
  | none => exact Nat.lt_succ_self _
  | some t => exact Nat.lt_succ_of_lt (wellFormed.inside leads).2

theorem ofDfa_lawful (wellFormed : d.WellFormed) : (ofDfa d).Lawful where
  inside := fun s _ c _ => ofDfa_delta_lt wellFormed
  sources := by
    intro c bound targets s
    simp only [preimage,List.mem_flatMap]
    constructor
    · rintro ⟨t,member,found⟩
      obtain ⟨_,_,sBound,rfl⟩ := mem_invert.mp found
      exact ⟨sBound,member⟩
    · rintro ⟨sBound,member⟩
      exact ⟨_,member,mem_invert.mpr ⟨bound,ofDfa_delta_lt wellFormed,sBound,rfl⟩⟩

theorem follow_dead : (ofDfa d).follow d.size cs = d.size := by
  induction cs with
  | nil => rfl
  | cons c cs ih =>
    have stays : (ofDfa d).delta d.size c = d.size := by simp [ofDfa,Dfa.target?,Dfa.size]
    change (ofDfa d).follow ((ofDfa d).delta d.size c) cs = d.size
    rw [stays,ih]

end Complete

namespace Dfa

def indices? (d : Dfa) : List CodePoint → Option (List Nat)
  | [] => some []
  | x :: w => (segmentIndex? d.segments x).bind fun c => (d.indices? w).map (c :: ·)

theorem indices?_lt (found : d.indices? w = some cs) : ∀ c ∈ cs, c < d.segments.size := by
  induction w generalizing cs with
  | nil =>
    cases found
    simp
  | cons x w ih =>
    obtain ⟨c,place,later⟩ := Option.bind_eq_some_iff.mp found
    obtain ⟨cs',found',rfl⟩ := Option.map_eq_some_iff.mp later
    exact List.forall_mem_cons.mpr ⟨segmentIndex?_lt place,ih found'⟩

theorem exists_indices? (segmented : Segmented d.segments) (bounds : ∀ c ∈ cs, c < d.segments.size) :
    ∃ w : List CodePoint, (∀ x ∈ w, x.isScalar = true) ∧ d.indices? w = some cs := by
  induction cs with
  | nil => exact ⟨[],by simp,rfl⟩
  | cons c cs ih =>
    obtain ⟨bound,later⟩ := List.forall_mem_cons.mp bounds
    obtain ⟨w,scalars,found⟩ := ih later
    have atC : d.segments[c]? = some d.segments[c] := Array.getElem?_eq_getElem bound
    have scalar := (segmented.starts d.segments[c] (Array.mem_toList_iff.mpr (Array.getElem_mem bound))).1
    refine ⟨d.segments[c].lo :: w,List.forall_mem_cons.mpr ⟨scalar,scalars⟩,?_⟩
    rw [indices?,segmented.segmentIndex?_lo atC,found]
    rfl

theorem isAccepting_size : d.isAccepting d.size = false := by simp [isAccepting,size]

theorem acceptsFrom_eq_follow :
    d.acceptsFrom s w = ((d.indices? w).map fun cs => d.isAccepting ((Complete.ofDfa d).follow s cs)).getD false := by
  induction w generalizing s with
  | nil => rfl
  | cons x w ih =>
    rw [acceptsFrom_cons,step?,indices?]
    cases place : segmentIndex? d.segments x with
    | none => rfl
    | some c =>
      have next : ∀ cs, (Complete.ofDfa d).follow s (c :: cs) =
          (Complete.ofDfa d).follow ((d.target? s c).getD d.size) cs := fun _ => rfl
      simp only [Option.bind_some,Option.map_map,Function.comp_def,next]
      cases leads : d.target? s c with
      | none =>
        simp only [Option.getD_none,Complete.follow_dead,isAccepting_size]
        cases d.indices? w <;> rfl
      | some t => exact ih

theorem acceptsFrom_size : d.acceptsFrom d.size w = false := by
  rw [acceptsFrom_eq_follow]
  cases d.indices? w with
  | none => rfl
  | some cs => rw [Option.map_some,Complete.follow_dead,isAccepting_size,Option.getD_some]

theorem acceptsFrom_of_alike (alike : (Complete.ofDfa d).Alike d.isAccepting s t) :
    d.acceptsFrom s w = d.acceptsFrom t w := by
  rw [acceptsFrom_eq_follow,acceptsFrom_eq_follow]
  cases found : d.indices? w with
  | none => rfl
  | some cs => rw [Option.map_some,Option.map_some,alike cs (indices?_lt found)]

-- States that accept the same texts are those that no segments tell apart.
theorem alike_iff (wellFormed : d.WellFormed) :
    (Complete.ofDfa d).Alike d.isAccepting s t ↔ d.languageFrom s = d.languageFrom t := by
  constructor
  · intro alike
    ext w
    exact and_congr_right fun _ => by rw [acceptsFrom_of_alike alike]
  · intro same cs bounds
    obtain ⟨w,scalars,found⟩ := exists_indices? wellFormed.segmented bounds
    have agree : w ∈ d.languageFrom s ↔ w ∈ d.languageFrom t := by rw [same]
    have accepted : d.acceptsFrom s w = true ↔ d.acceptsFrom t w = true :=
      ⟨fun held => (agree.mp ⟨scalars,held⟩).2,fun held => (agree.mpr ⟨scalars,held⟩).2⟩
    rw [acceptsFrom_eq_follow,acceptsFrom_eq_follow,found] at accepted
    exact Bool.eq_iff_iff.mpr accepted

end Dfa

end Completion

section Quotient

variable {d : Dfa} {s t c : Nat} {w : List CodePoint}

namespace Dfa

def classes (d : Dfa) : Refinement := (Complete.ofDfa d).refine ((Complete.ofDfa d).initial d.isAccepting)

def quotient (d : Dfa) : System Nat := (Complete.ofDfa d).quotient d d.classes

theorem classes_valid (wellFormed : d.WellFormed) : d.classes.Valid (d.size + 1) := by
  have lawful := Complete.ofDfa_lawful wellFormed
  exact ((Complete.initial_invariant d.isAccepting lawful).refine lawful).1.valid

-- Two states share a block exactly when they accept the same texts.
theorem blockIndex_classes_iff (wellFormed : d.WellFormed) (sBound : s < d.size + 1) (tBound : t < d.size + 1) :
    d.classes.blockIndex s = d.classes.blockIndex t ↔ d.languageFrom s = d.languageFrom t := by
  have lawful := Complete.ofDfa_lawful wellFormed
  obtain ⟨invariant,done⟩ := (Complete.initial_invariant d.isAccepting lawful).refine lawful
  rw [← alike_iff wellFormed]
  exact invariant.blockIndex_eq_iff lawful done sBound tBound

def representative (d : Dfa) (b : Nat) : Nat := (d.classes.block b).head?.getD d.size

theorem representative_spec (wellFormed : d.WellFormed) (bound : s < d.size + 1) :
    d.representative (d.classes.blockIndex s) < d.size + 1 ∧
      d.languageFrom (d.representative (d.classes.blockIndex s)) = d.languageFrom s := by
  have valid := classes_valid wellFormed
  have member : s ∈ d.classes.block (d.classes.blockIndex s) := valid.mem_block.mpr ⟨bound,rfl⟩
  obtain ⟨first,rest,shape⟩ := List.exists_cons_of_ne_nil (List.ne_nil_of_mem member)
  have isFirst : d.representative (d.classes.blockIndex s) = first := by simp [representative,shape]
  have firstMember : first ∈ d.classes.block (d.classes.blockIndex s) := by simp [shape]
  obtain ⟨firstBound,index⟩ := valid.mem_block.mp firstMember
  rw [isFirst]
  exact ⟨firstBound,(blockIndex_classes_iff wellFormed firstBound bound).mp index⟩

theorem quotient_accept (wellFormed : d.WellFormed) (bound : s < d.size + 1) :
    d.quotient.accept (d.classes.blockIndex s) = d.isAccepting s := by
  obtain ⟨_,same⟩ := representative_spec wellFormed bound
  exact (alike_iff wellFormed).mpr same [] (by simp)

theorem quotient_next (wellFormed : d.WellFormed) (bound : s < d.size + 1) (inWidth : c < d.segments.size) :
    d.quotient.next (d.classes.blockIndex s) c =
      if d.classes.blockIndex ((d.target? s c).getD d.size) = d.classes.blockIndex d.size then none
      else some (d.classes.blockIndex ((d.target? s c).getD d.size)) := by
  obtain ⟨_,same⟩ := representative_spec wellFormed bound
  have alike := ((alike_iff wellFormed).mpr same).step inWidth
  have target : d.classes.blockIndex ((Complete.ofDfa d).delta (d.representative (d.classes.blockIndex s)) c) =
      d.classes.blockIndex ((d.target? s c).getD d.size) :=
    (blockIndex_classes_iff wellFormed (Complete.ofDfa_delta_lt wellFormed) (Complete.ofDfa_delta_lt wellFormed)).mpr
      ((alike_iff wellFormed).mp alike)
  rw [← target]
  rfl

theorem quotient_acceptsFrom (wellFormed : d.WellFormed) (bound : s < d.size + 1) (w : List CodePoint) :
    d.quotient.acceptsFrom d.segments (d.classes.blockIndex s) w = d.acceptsFrom s w := by
  induction w generalizing s with
  | nil => exact quotient_accept wellFormed bound
  | cons x w ih =>
    rw [System.acceptsFrom_cons,acceptsFrom_cons,step?]
    cases place : segmentIndex? d.segments x with
    | none => rfl
    | some c =>
      have target : (d.target? s c).getD d.size < d.size + 1 := Complete.ofDfa_delta_lt wellFormed
      -- A missing target counts as the dead state, from which nothing is accepted.
      have completed : ((d.target? s c).map fun t => d.acceptsFrom t w).getD false =
          d.acceptsFrom ((d.target? s c).getD d.size) w := by
        cases d.target? s c with
        | none => exact acceptsFrom_size.symm
        | some t => rfl
      rw [Option.bind_some,quotient_next wellFormed bound (segmentIndex?_lt place),completed]
      split
      · rename_i dead
        have same := (blockIndex_classes_iff wellFormed target (Nat.lt_succ_self _)).mp dead
        rw [acceptsFrom_of_alike ((alike_iff wellFormed).mpr same),acceptsFrom_size]
        rfl
      · exact ih target

-- Only the start can be the dead block, and all blocks reached hold states.
theorem quotient_reachable (wellFormed : d.WellFormed) {b : Nat} (reachable : d.quotient.Reachable d.segments.size b) :
    (∃ s < d.size + 1, d.classes.blockIndex s = b) ∧
      (b = d.quotient.start ∨ b ≠ d.classes.blockIndex d.size) := by
  induction reachable with
  | refl => exact ⟨⟨d.start,Nat.lt_succ_of_lt wellFormed.start_lt,rfl⟩,.inl rfl⟩
  | @tail a b _ leads ih =>
    obtain ⟨⟨s,bound,rfl⟩,_⟩ := ih
    obtain ⟨c,inWidth,next⟩ := leads
    rw [quotient_next wellFormed bound inWidth] at next
    split at next
    · cases next
    · rename_i alive
      cases next
      exact ⟨⟨_,Complete.ofDfa_delta_lt wellFormed,rfl⟩,.inr alive⟩

-- There is room for all blocks, so the result is what the exploration of the quotient finds.
theorem minimize_explored (wellFormed : d.WellFormed) : 0 < d.classes.blocks.size ∧ ∃ states,
    d.quotient.explore d.segments.size d.classes.blocks.size = some states ∧ d.minimize = ⟨d.segments,0,states⟩ := by
  have valid := classes_valid wellFormed
  have held : ∀ b, d.quotient.Reachable d.segments.size b → b ∈ Finset.range d.classes.blocks.size := by
    intro b reachable
    obtain ⟨⟨s,bound,rfl⟩,_⟩ := quotient_reachable wellFormed reachable
    exact Finset.mem_range.mpr (valid.blockIndex_lt bound)
  obtain ⟨states,explored⟩ := System.explore_isSome held (Finset.card_range _).le
  refine ⟨Nat.zero_lt_of_lt (valid.blockIndex_lt (Nat.lt_succ_self d.size)),states,explored,?_⟩
  unfold minimize
  dsimp only
  split
  · rename_i states' explored'
    cases explored.symm.trans explored'
    rfl
  · rename_i refused
    cases explored.symm.trans refused

theorem minimize_listed (wellFormed : d.WellFormed) : ∃ nodes states,
    d.minimize = ⟨d.segments,0,states⟩ ∧ d.quotient.Listed d.segments.size nodes states := by
  obtain ⟨positive,states,explored,same⟩ := minimize_explored wellFormed
  obtain ⟨nodes,listed⟩ := System.explore_listed positive explored
  exact ⟨nodes,states,same,listed⟩

theorem minimize_wellFormed (wellFormed : d.WellFormed) : d.minimize.WellFormed := by
  obtain ⟨nodes,states,same,listed⟩ := minimize_listed wellFormed
  rw [same]
  exact listed.wellFormed wellFormed.segmented

theorem minimize_accepts (wellFormed : d.WellFormed) (w : List CodePoint) : d.minimize.accepts w = d.accepts w := by
  obtain ⟨nodes,states,same,listed⟩ := minimize_listed wellFormed
  rw [same,listed.accepts_eq]
  exact quotient_acceptsFrom wellFormed (Nat.lt_succ_of_lt wellFormed.start_lt) w

-- Each state stands for a block, and accepts what the states of the block accept.
theorem exists_languageFrom (wellFormed : d.WellFormed) {nodes : List Nat} {states : Array DfaState}
    (listed : d.quotient.Listed d.segments.size nodes states) {i : Nat} (bound : i < states.size) :
    ∃ s < d.size + 1, nodes[i]? = some (d.classes.blockIndex s) ∧
      (Dfa.mk d.segments 0 states).languageFrom i = d.languageFrom s := by
  have inNodes : i < nodes.length := listed.size ▸ bound
  have atI := List.getElem?_eq_getElem inNodes
  obtain ⟨⟨s,sBound,index⟩,_⟩ := quotient_reachable wellFormed (listed.reachable _ (List.getElem_mem inNodes))
  rw [← index] at atI
  refine ⟨s,sBound,atI,?_⟩
  ext w
  refine and_congr_right fun _ => ?_
  rw [listed.acceptsFrom_eq atI,quotient_acceptsFrom wellFormed sBound]

theorem languageFrom_eq_dead (nothing : ¬ ∃ w, w ∈ d.languageFrom s) : d.languageFrom s = d.languageFrom d.size := by
  ext w
  refine iff_of_false (fun member => nothing ⟨w,member⟩) ?_
  rintro ⟨_,accepted⟩
  rw [acceptsFrom_size] at accepted
  cases accepted

-- Only the dead block accepts nothing.
theorem exists_mem_languageFrom (wellFormed : d.WellFormed) (bound : s < d.size + 1)
    (alive : d.classes.blockIndex s ≠ d.classes.blockIndex d.size) : ∃ w, w ∈ d.languageFrom s := by
  by_contra nothing
  exact alive ((blockIndex_classes_iff wellFormed bound (Nat.lt_succ_self _)).mpr (languageFrom_eq_dead nothing))

theorem minimize_reduced (wellFormed : d.WellFormed) : d.minimize.Reduced := by
  obtain ⟨nodes,states,same,listed⟩ := minimize_listed wellFormed
  have place : ∀ {i j b : Nat}, i < states.size → nodes[i]? = some b → nodes[j]? = some b → i = j := by
    intro i j b bound atI atJ
    exact (List.getElem?_inj (listed.size ▸ bound) listed.distinct).mp (atI.trans atJ.symm)
  rw [same]
  constructor
  · intro i bound
    obtain ⟨s,_,atI,_⟩ := exists_languageFrom wellFormed listed bound
    exact listed.exists_run? wellFormed.segmented atI
  · intro i iBound j jBound equal
    obtain ⟨s,sBound,atI,sLanguage⟩ := exists_languageFrom wellFormed listed iBound
    obtain ⟨t,tBound,atJ,tLanguage⟩ := exists_languageFrom wellFormed listed jBound
    rw [sLanguage,tLanguage,← blockIndex_classes_iff wellFormed sBound tBound] at equal
    exact place iBound atI (equal ▸ atJ)
  · intro i bound notStart
    obtain ⟨s,sBound,atI,sLanguage⟩ := exists_languageFrom wellFormed listed bound
    rw [sLanguage]
    -- The dead block is listed only as the start.
    rcases (quotient_reachable wellFormed (listed.reachable _ (List.mem_of_getElem? atI))).2 with isStart | alive
    · exact absurd (place bound atI (isStart ▸ listed.starts)) notStart
    · exact exists_mem_languageFrom wellFormed sBound alive

-- Minimisation keeps the language, and the result has a state for each residual that is not empty, or only its
-- start when there is none. No automaton with the same language has fewer states.
theorem minimize_is_least (d : Dfa) (wellFormed : d.WellFormed) :
    d.minimize.WellFormed ∧
      (∀ w : List CodePoint, (∀ x ∈ w, x.isScalar = true) → d.minimize.accepts w = d.accepts w) ∧
      ((residuals d.language).Finite ∧ d.minimize.size = max 1 (residuals d.language).ncard) ∧
      ∀ e : Dfa, e.WellFormed →
        (∀ w : List CodePoint, (∀ x ∈ w, x.isScalar = true) → e.accepts w = d.accepts w) →
          d.minimize.size ≤ e.size := by
  have keeps : ∀ w : List CodePoint, (∀ x ∈ w, x.isScalar = true) → d.minimize.accepts w = d.accepts w :=
    fun w _ => minimize_accepts wellFormed w
  have size := (minimize_reduced wellFormed).size_eq (minimize_wellFormed wellFormed)
  rw [language_congr keeps] at size
  refine ⟨minimize_wellFormed wellFormed,keeps,⟨residuals_finite wellFormed,size⟩,fun e inOrder same => ?_⟩
  rw [size,← language_congr same]
  exact ncard_residuals_le inOrder

-- Two states after an `a` that accept the same, and a state that accepts nothing.
def wasteful : Dfa where
  segments := #[⟨0x61,0x61⟩,⟨0x62,0x63⟩]
  start := 0
  states := #[⟨false,#[some 1,some 3]⟩,⟨true,#[some 2,none]⟩,⟨true,#[some 1,some 3]⟩,⟨false,#[some 3,some 3]⟩]

theorem minimize_is_least_wasteful : wasteful.WellFormed ∧
    (∀ w : List CodePoint, (∀ x ∈ w, x.isScalar = true) → wasteful.minimize.accepts w = wasteful.accepts w) ∧
    wasteful.minimize.size = max 1 (residuals wasteful.language).ncard ∧
    ∀ e : Dfa, e.WellFormed →
      (∀ w : List CodePoint, (∀ x ∈ w, x.isScalar = true) → e.accepts w = wasteful.accepts w) →
        wasteful.minimize.size ≤ e.size := by
  have wellFormed : wasteful.WellFormed := .of_states (by decide) (by decide) (by decide) (by decide) (by decide)
  obtain ⟨_,keeps,⟨_,size⟩,least⟩ := minimize_is_least wasteful wellFormed
  exact ⟨wellFormed,keeps,size,least⟩

end Dfa

end Quotient

end LexPattern.Automaton
