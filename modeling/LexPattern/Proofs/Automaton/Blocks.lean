import Mathlib
import LexPattern.Automaton.Minimal

namespace LexPattern.Automaton

namespace Refinement

def block (r : Refinement) (b : Nat) : List Nat := r.blocks[b]?.getD []

-- Nonempty blocks divide the states below `size`, each state knows its block, and the marks tell which blocks
-- wait.
structure Valid (size : Nat) (r : Refinement) : Prop where
  sized : r.blockOf.size = size
  exact : ∀ b s : Nat, s ∈ r.block b ↔ r.blockOf[s]? = some b
  nonempty : ∀ b < r.blocks.size, r.block b ≠ []
  distinct : ∀ b, (r.block b).Nodup
  marks : r.inWork.size = r.blocks.size
  marked : ∀ b : Nat, r.inWork[b]? = some true ↔ b ∈ r.work
  once : r.work.Nodup

variable {size y : Nat} {r : Refinement} {inside : Nat → Bool}

theorem block_of_le {b : Nat} (beyond : r.blocks.size ≤ b) : r.block b = [] := by
  rw [block,Array.getElem?_eq_none beyond]
  rfl

namespace Valid

variable {s b : Nat}

theorem blockOf_eq (valid : r.Valid size) (bound : s < size) : r.blockOf[s]? = some (r.blockIndex s) := by
  have inBounds : s < r.blockOf.size := valid.sized ▸ bound
  simp [blockIndex,inBounds]

theorem mem_block (valid : r.Valid size) : s ∈ r.block b ↔ s < size ∧ r.blockIndex s = b := by
  rw [valid.exact]
  constructor
  · intro found
    have bound : s < size := valid.sized ▸ (Array.getElem?_eq_some_iff.mp found).1
    rw [valid.blockOf_eq bound] at found
    exact ⟨bound,Option.some.inj found⟩
  · rintro ⟨bound,rfl⟩
    exact valid.blockOf_eq bound

theorem blockIndex_lt (valid : r.Valid size) (bound : s < size) : r.blockIndex s < r.blocks.size := by
  by_contra beyond
  have member : s ∈ r.block (r.blockIndex s) := valid.mem_block.mpr ⟨bound,rfl⟩
  rw [block_of_le (not_lt.mp beyond)] at member
  cases member

theorem lt_of_mem_work (valid : r.Valid size) (waits : b ∈ r.work) : b < r.blocks.size := by
  rw [← valid.marks]
  exact (Array.getElem?_eq_some_iff.mp ((valid.marked b).mpr waits)).1

end Valid

theorem getElem?_foldl_set {places : List Nat} {values : Array Nat} {value i : Nat} :
    (places.foldl (fun values s => values.setIfInBounds s value) values)[i]? =
      if i ∈ places ∧ i < values.size then some value else values[i]? := by
  induction places generalizing values with
  | nil => simp
  | cons place places ih =>
    rw [List.foldl_cons,ih,Array.size_setIfInBounds,Array.getElem?_setIfInBounds]
    grind

theorem size_foldl_set {places : List Nat} {values : Array Nat} {value : Nat} :
    (places.foldl (fun values s => values.setIfInBounds s value) values).size = values.size := by
  induction places generalizing values with
  | nil => rfl
  | cons place places ih => rw [List.foldl_cons,ih,Array.size_setIfInBounds]

def cutAt (inside : Nat → Bool) (r : Refinement) (y chosen : Nat) : Refinement where
  blocks := (r.blocks.setIfInBounds y ((r.block y).filter inside)).push ((r.block y).filter fun s => !inside s)
  blockOf := ((r.block y).filter fun s => !inside s).foldl (fun blockOf s => blockOf.setIfInBounds s r.blocks.size)
    r.blockOf
  work := r.work ++ [chosen]
  inWork := (r.inWork.push false).setIfInBounds chosen true

-- A block of both kinds of states is cut; of the halves the one that waits is the new one when the block was
-- waiting already.
structure Cuttable (inside : Nat → Bool) (r : Refinement) (y chosen : Nat) : Prop where
  within : y < r.blocks.size
  kept : ∃ s ∈ r.block y, inside s = true
  moved : ∃ s ∈ r.block y, inside s = false
  half : chosen = r.blocks.size ∨ chosen = y ∧ r.inWork[y]? ≠ some true

-- All that a split can do.
theorem split_cases (inside : Nat → Bool) (r : Refinement) (y : Nat) :
    (r.split inside y = r ∧ ∀ s ∈ r.block y, ∀ t ∈ r.block y, inside s = inside t) ∨
      ∃ chosen, Cuttable inside r y chosen ∧ r.split inside y = r.cutAt inside y chosen := by
  unfold split
  split
  · rename_i missing
    refine .inl ⟨rfl,?_⟩
    simp [block,missing]
  · rename_i block found
    have same : r.block y = block := by simp [Refinement.block,found]
    have within : y < r.blocks.size := (Array.getElem?_eq_some_iff.mp found).1
    dsimp only
    split
    · rename_i even
      refine .inl ⟨rfl,?_⟩
      rw [same]
      simp only [Bool.or_eq_true,List.isEmpty_iff,List.filter_eq_nil_iff] at even
      intro s inS t inT
      rcases even with outside | all
      · have sOut : inside s = false := by simpa using outside s inS
        have tOut : inside t = false := by simpa using outside t inT
        rw [sOut,tOut]
      · have sIn : inside s = true := by simpa using all s inS
        have tIn : inside t = true := by simpa using all t inT
        rw [sIn,tIn]
    · rename_i both
      simp only [Bool.or_eq_true,List.isEmpty_iff,List.filter_eq_nil_iff,not_or,not_forall] at both
      obtain ⟨⟨s,inS,sHeld⟩,⟨t,inT,tHeld⟩⟩ := both
      generalize choice : (if r.inWork[y]?.getD false = true then r.blocks.size
        else if (block.filter inside).length ≤ (block.filter fun s => !inside s).length then y
        else r.blocks.size) = chosen
      have half : chosen = r.blocks.size ∨ chosen = y ∧ r.inWork[y]? ≠ some true := by
        split at choice
        · exact .inl choice.symm
        · rename_i unmarked
          split at choice
          · exact .inr ⟨choice.symm,fun marked => unmarked (by rw [marked]; rfl)⟩
          · exact .inl choice.symm
      refine .inr ⟨chosen,⟨within,⟨s,same ▸ inS,by simpa using sHeld⟩,⟨t,same ▸ inT,by simpa using tHeld⟩,half⟩,?_⟩
      rw [cutAt,same]

section Cut

variable {chosen : Nat}

theorem block_cutAt (within : y < r.blocks.size) (b : Nat) : (r.cutAt inside y chosen).block b =
    if b = r.blocks.size then (r.block y).filter (fun s => !inside s)
    else if b = y then (r.block y).filter inside else r.block b := by
  simp only [block,cutAt,Array.getElem?_push,Array.size_setIfInBounds,Array.getElem?_setIfInBounds]
  by_cases last : b = r.blocks.size
  · simp [last]
  · by_cases here : b = y
    · subst here
      simp [last,within]
    · simp [last,here,Ne.symm here]

theorem blockOf_cutAt (valid : r.Valid size) (s : Nat) : (r.cutAt inside y chosen).blockOf[s]? =
    if r.blockOf[s]? = some y ∧ inside s = false then some r.blocks.size else r.blockOf[s]? := by
  rw [cutAt,getElem?_foldl_set]
  refine if_congr ?_ rfl rfl
  rw [List.mem_filter,Bool.not_eq_true',valid.exact]
  constructor
  · exact And.left
  · intro member
    exact ⟨member,(Array.getElem?_eq_some_iff.mp member.1).1⟩

theorem marked_cutAt (valid : r.Valid size) (cuttable : Cuttable inside r y chosen) (b : Nat) :
    (r.cutAt inside y chosen).inWork[b]? = some true ↔ b ∈ r.work ∨ b = chosen := by
  have inBounds : chosen < r.inWork.size + 1 := by
    rw [valid.marks]
    rcases cuttable.half with rfl | ⟨rfl,_⟩
    · exact Nat.lt_succ_self _
    · exact Nat.lt_succ_of_lt cuttable.within
  simp only [cutAt,Array.getElem?_setIfInBounds,Array.size_push,inBounds,if_true,Array.getElem?_push]
  by_cases here : chosen = b
  · simp [here]
  · rw [if_neg here]
    by_cases last : b = r.inWork.size
    · have absent : b ∉ r.work := by
        intro waits
        have := valid.lt_of_mem_work waits
        rw [last,valid.marks] at this
        exact lt_irrefl _ this
      rw [if_pos last]
      simp [absent,Ne.symm here]
    · rw [if_neg last,valid.marked b]
      simp [Ne.symm here]

theorem Valid.cutAt (valid : r.Valid size) (cuttable : Cuttable inside r y chosen) :
    (r.cutAt inside y chosen).Valid size where
  sized := by rw [Refinement.cutAt,size_foldl_set,valid.sized]
  exact := by
    intro b s
    rw [block_cutAt cuttable.within,blockOf_cutAt valid]
    have beyond : r.blockOf[s]? ≠ some r.blocks.size := by
      rw [Ne,← valid.exact,block_of_le le_rfl]
      exact List.not_mem_nil
    by_cases last : b = r.blocks.size
    · subst last
      rw [if_pos rfl,List.mem_filter,Bool.not_eq_true',valid.exact]
      by_cases leaves : r.blockOf[s]? = some y ∧ inside s = false
      · simp [leaves]
      · simp [leaves,beyond]
    · rw [if_neg last]
      by_cases here : b = y
      · subst here
        rw [if_pos rfl,List.mem_filter,valid.exact]
        by_cases old : r.blockOf[s]? = some b
        · cases inside s <;> simp [old,Ne.symm last]
        · simp [old]
      · rw [if_neg here,valid.exact]
        by_cases leaves : r.blockOf[s]? = some y ∧ inside s = false
        · simp [leaves,Ne.symm last,Ne.symm here]
        · rw [if_neg leaves]
  nonempty := by
    intro b bound
    rw [block_cutAt cuttable.within]
    simp only [Refinement.cutAt,Array.size_push,Array.size_setIfInBounds] at bound
    obtain ⟨s,inS,sHeld⟩ := cuttable.kept
    obtain ⟨t,inT,tHeld⟩ := cuttable.moved
    split
    · exact List.ne_nil_of_mem (List.mem_filter.mpr ⟨inT,by simp [tHeld]⟩)
    · split
      · exact List.ne_nil_of_mem (List.mem_filter.mpr ⟨inS,sHeld⟩)
      · exact valid.nonempty b (by omega)
  distinct := by
    intro b
    rw [block_cutAt cuttable.within]
    split
    · exact (valid.distinct y).filter _
    · split
      · exact (valid.distinct y).filter _
      · exact valid.distinct b
  marks := by simp [Refinement.cutAt,valid.marks]
  marked := by
    intro b
    rw [marked_cutAt valid cuttable]
    simp [Refinement.cutAt]
  once := by
    have isNew : chosen ∉ r.work := by
      intro waits
      rcases cuttable.half with rfl | ⟨rfl,unmarked⟩
      · exact lt_irrefl _ (valid.lt_of_mem_work waits)
      · exact unmarked ((valid.marked _).mpr waits)
    refine List.nodup_append.mpr ⟨valid.once,by simp,fun b waits c last same => ?_⟩
    rw [same,List.mem_singleton.mp last] at waits
    exact isNew waits

theorem blockIndex_cutAt (valid : r.Valid size) {s : Nat} (bound : s < size) :
    (r.cutAt inside y chosen).blockIndex s =
      if r.blockIndex s = y ∧ inside s = false then r.blocks.size else r.blockIndex s := by
  rw [blockIndex,blockOf_cutAt valid,valid.blockOf_eq bound]
  by_cases leaves : r.blockIndex s = y ∧ inside s = false
  · simp [leaves]
  · simp [leaves]

theorem mem_work_cutAt {b : Nat} : b ∈ (r.cutAt inside y chosen).work ↔ b ∈ r.work ∨ b = chosen := by
  simp [cutAt]

end Cut

theorem Valid.split (valid : r.Valid size) (inside : Nat → Bool) (y : Nat) : (r.split inside y).Valid size := by
  rcases split_cases inside r y with ⟨same,_⟩ | ⟨chosen,cuttable,cut⟩
  · rwa [same]
  · rw [cut]
    exact valid.cutAt cuttable

theorem Valid.take (valid : r.Valid size) {work : List Nat} (first : r.work = y :: work) :
    Refinement.Valid size {r with work := work,inWork := r.inWork.setIfInBounds y false} := by
  have once := valid.once
  rw [first,List.nodup_cons] at once
  refine ⟨valid.sized,valid.exact,valid.nonempty,valid.distinct,by simpa using valid.marks,?_,once.2⟩
  intro b
  simp only [Array.getElem?_setIfInBounds]
  by_cases here : y = b
  · subst here
    simp [once.1]
  · rw [if_neg here,valid.marked,first,List.mem_cons]
    exact or_iff_right (Ne.symm here)

-- A split only ever parts states, and only those on different sides.
theorem blockIndex_split_eq_iff (valid : r.Valid size) {s t : Nat} (sBound : s < size) (tBound : t < size) :
    (r.split inside y).blockIndex s = (r.split inside y).blockIndex t ↔
      r.blockIndex s = r.blockIndex t ∧ (r.blockIndex s = y → inside s = inside t) := by
  have sIndex := valid.blockIndex_lt sBound
  have tIndex := valid.blockIndex_lt tBound
  rcases split_cases inside r y with ⟨same,even⟩ | ⟨chosen,cuttable,cut⟩
  · rw [same]
    constructor
    · intro equal
      refine ⟨equal,fun here => even s ?_ t ?_⟩
      · exact valid.mem_block.mpr ⟨sBound,here⟩
      · exact valid.mem_block.mpr ⟨tBound,equal ▸ here⟩
    · exact And.left
  · rw [cut,blockIndex_cutAt valid sBound,blockIndex_cutAt valid tBound]
    grind

-- A state whose block waits stays in a block that waits.
theorem waits_split (valid : r.Valid size) {s : Nat} (bound : s < size) (waits : r.blockIndex s ∈ r.work) :
    (r.split inside y).blockIndex s ∈ (r.split inside y).work := by
  rcases split_cases inside r y with ⟨same,_⟩ | ⟨chosen,cuttable,cut⟩
  · rwa [same]
  · rw [cut,mem_work_cutAt,blockIndex_cutAt valid bound]
    split
    · rename_i moves
      -- The block was waiting, so the half that leaves it is the one to wait.
      rcases cuttable.half with rfl | ⟨_,unmarked⟩
      · exact .inr rfl
      · exact absurd ((valid.marked y).mpr (moves.1 ▸ waits)) unmarked
    · exact .inl waits

-- Of two states that a split parts, one is in a block that waits.
theorem parted_waits (valid : r.Valid size) {s t : Nat} (sBound : s < size) (tBound : t < size)
    (together : r.blockIndex s = r.blockIndex t)
    (parted : (r.split inside y).blockIndex s ≠ (r.split inside y).blockIndex t) :
    (r.split inside y).blockIndex s ∈ (r.split inside y).work ∨
      (r.split inside y).blockIndex t ∈ (r.split inside y).work := by
  rcases split_cases inside r y with ⟨same,_⟩ | ⟨chosen,cuttable,cut⟩
  · rw [same] at parted
    exact absurd together parted
  · rw [cut] at parted ⊢
    rw [blockIndex_cutAt valid sBound,blockIndex_cutAt valid tBound] at parted ⊢
    simp only [mem_work_cutAt]
    rcases cuttable.half with rfl | ⟨rfl,_⟩ <;> grind

theorem blockIndex_split_of_ne (valid : r.Valid size) {s : Nat} (bound : s < size) (elsewhere : r.blockIndex s ≠ y) :
    (r.split inside y).blockIndex s = r.blockIndex s := by
  rcases split_cases inside r y with ⟨same,_⟩ | ⟨chosen,_,cut⟩
  · rw [same]
  · rw [cut,blockIndex_cutAt valid bound,if_neg fun here => elsewhere here.1]

-- Once every block with states on both sides has been split, no block has any.
theorem splitAll_even {ys : List Nat} (valid : r.Valid size)
    (listed : ∀ s < size, ∀ t < size, r.blockIndex s = r.blockIndex t → inside s ≠ inside t → r.blockIndex s ∈ ys) :
    ∀ s < size, ∀ t < size, (r.splitAll inside ys).blockIndex s = (r.splitAll inside ys).blockIndex t →
      inside s = inside t := by
  induction ys generalizing r with
  | nil =>
    intro s sBound t tBound together
    by_contra parted
    exact absurd (listed s sBound t tBound together parted) List.not_mem_nil
  | cons y ys ih =>
    refine ih (valid.split inside y) fun s sBound t tBound together parted => ?_
    obtain ⟨before,evenHere⟩ := (blockIndex_split_eq_iff valid sBound tBound).mp together
    have elsewhere : r.blockIndex s ≠ y := fun here => parted (evenHere here)
    rw [blockIndex_split_of_ne valid sBound elsewhere]
    exact (List.mem_cons.mp (listed s sBound t tBound before parted)).resolve_left elsewhere

end Refinement

end LexPattern.Automaton
