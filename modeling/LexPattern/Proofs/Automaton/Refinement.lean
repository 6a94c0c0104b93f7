import Mathlib
import LexPattern.Proofs.Automaton.Blocks
import LexPattern.Proofs.SortedList

namespace LexPattern.Automaton

namespace Complete

structure Lawful (m : Complete) : Prop where
  inside : ∀ s < m.size, ∀ c < m.width, m.delta s c < m.size
  sources : ∀ c < m.width, ∀ (targets : List Nat) (s : Nat),
    s ∈ m.preimage c targets ↔ s < m.size ∧ m.delta s c ∈ targets

def follow (m : Complete) (s : Nat) (cs : List Nat) : Nat := cs.foldl m.delta s

-- No sequence of segments tells the states apart.
def Alike (m : Complete) (accept : Nat → Bool) (s t : Nat) : Prop :=
  ∀ cs : List Nat, (∀ c ∈ cs, c < m.width) → accept (m.follow s cs) = accept (m.follow t cs)

-- What holds while a splitter is used: `cs` are the segments with which it has not been used yet.
structure Invariant (m : Complete) (accept : Nat → Bool) (splitter cs : List Nat) (r : Refinement) : Prop where
  valid : r.Valid m.size
  agrees : ∀ s < m.size, ∀ t < m.size, r.blockIndex s = r.blockIndex t → accept s = accept t
  keeps : ∀ s < m.size, ∀ t < m.size, m.Alike accept s t → r.blockIndex s = r.blockIndex t
  saturated : ∀ s < m.size, ∀ t < m.size, m.Alike accept s t → (s ∈ splitter ↔ t ∈ splitter)
  awaits : ∀ s < m.size, ∀ t < m.size, ∀ c < m.width, r.blockIndex s = r.blockIndex t →
    r.blockIndex (m.delta s c) ≠ r.blockIndex (m.delta t c) →
      r.blockIndex (m.delta s c) ∈ r.work ∨ r.blockIndex (m.delta t c) ∈ r.work ∨
        c ∈ cs ∧ ¬ (m.delta s c ∈ splitter ↔ m.delta t c ∈ splitter)

variable {m : Complete} {accept : Nat → Bool} {splitter cs : List Nat} {r : Refinement} {inside : Nat → Bool}
  {s t c y : Nat}

theorem Alike.step (alike : m.Alike accept s t) (bound : c < m.width) :
    m.Alike accept (m.delta s c) (m.delta t c) := by
  intro cs bounds
  exact alike (c :: cs) (List.forall_mem_cons.mpr ⟨bound,bounds⟩)

theorem refine_of_done (done : r.work = []) : m.refine r = r := by
  rw [Complete.refine]
  split
  · rfl
  · rename_i y work first
    rw [done] at first
    cases first

theorem refine_of_first {work : List Nat} (first : r.work = y :: work) : m.refine r =
    m.refine (m.refineBy (r.block y) {r with work := work,inWork := r.inWork.setIfInBounds y false}) := by
  rw [Complete.refine]
  split
  · rename_i done
    rw [done] at first
    cases first
  · rename_i y' work' first'
    rw [first] at first'
    cases first'
    rfl

namespace Invariant

-- Splitting a block by where a segment leads keeps the invariant.
theorem split (lawful : m.Lawful) (invariant : m.Invariant accept splitter cs r) (bound : c < m.width)
    (sides : ∀ s, inside s = true ↔ m.delta s c ∈ splitter) (y : Nat) :
    m.Invariant accept splitter cs (r.split inside y) where
  valid := invariant.valid.split inside y
  agrees := by
    intro s sBound t tBound together
    exact invariant.agrees s sBound t tBound ((Refinement.blockIndex_split_eq_iff invariant.valid sBound tBound).mp together).1
  keeps := by
    intro s sBound t tBound alike
    refine (Refinement.blockIndex_split_eq_iff invariant.valid sBound tBound).mpr
      ⟨invariant.keeps s sBound t tBound alike,fun _ => ?_⟩
    rw [Bool.eq_iff_iff,sides,sides]
    exact invariant.saturated _ (lawful.inside s sBound c bound) _ (lawful.inside t tBound c bound) (alike.step bound)
  saturated := invariant.saturated
  awaits := by
    intro s sBound t tBound d dBound together parted
    have valid := invariant.valid
    have sTarget := lawful.inside s sBound d dBound
    have tTarget := lawful.inside t tBound d dBound
    have before := ((Refinement.blockIndex_split_eq_iff valid sBound tBound).mp together).1
    by_cases targets : r.blockIndex (m.delta s d) = r.blockIndex (m.delta t d)
    · -- The targets were together until now, so this split has put one half of their block to wait.
      exact (Refinement.parted_waits valid sTarget tTarget targets parted).imp_right .inl
    · rcases invariant.awaits s sBound t tBound d dBound before targets with waits | waits | left
      · exact .inl (Refinement.waits_split valid sTarget waits)
      · exact .inr (.inl (Refinement.waits_split valid tTarget waits))
      · exact .inr (.inr left)

theorem splitAll (lawful : m.Lawful) (invariant : m.Invariant accept splitter cs r) (bound : c < m.width)
    (sides : ∀ s, inside s = true ↔ m.delta s c ∈ splitter) (ys : List Nat) :
    m.Invariant accept splitter cs (r.splitAll inside ys) := by
  induction ys generalizing r with
  | nil => exact invariant
  | cons y ys ih => exact ih (invariant.split lawful bound sides y)

theorem refineOn (lawful : m.Lawful) (invariant : m.Invariant accept splitter (c :: cs) r) (bound : c < m.width) :
    m.Invariant accept splitter cs (m.refineOn splitter (.ofList splitter) r c) := by
  let inside : Nat → Bool := fun s => (Std.HashSet.ofList splitter).contains (m.delta s c)
  have sides : ∀ s, inside s = true ↔ m.delta s c ∈ splitter := by
    intro s
    simp [inside]
  let touched := (((m.preimage c splitter).map r.blockIndex).mergeSort (· ≤ ·)).eraseReps
  change m.Invariant accept splitter cs (r.splitAll inside touched)
  have next := invariant.splitAll lawful bound sides touched
  -- A block with states on both sides holds a source of the splitter.
  have listed : ∀ s < m.size, ∀ t < m.size, r.blockIndex s = r.blockIndex t → inside s ≠ inside t →
      r.blockIndex s ∈ touched := by
    intro s sBound t tBound together parted
    rw [mem_sorted_distinct,List.mem_map]
    by_cases held : inside s = true
    · exact ⟨s,(lawful.sources c bound splitter s).mpr ⟨sBound,(sides s).mp held⟩,rfl⟩
    · have other : inside t = true := by
        cases tHeld : inside t with
        | true => rfl
        | false => exact absurd ((Bool.eq_false_iff.mpr held).trans tHeld.symm) parted
      exact ⟨t,(lawful.sources c bound splitter t).mpr ⟨tBound,(sides t).mp other⟩,together.symm⟩
  have even := Refinement.splitAll_even invariant.valid listed
  refine ⟨next.valid,next.agrees,next.keeps,next.saturated,?_⟩
  intro s sBound t tBound d dBound together parted
  rcases next.awaits s sBound t tBound d dBound together parted with waits | waits | ⟨left,differs⟩
  · exact .inl waits
  · exact .inr (.inl waits)
  · rcases List.mem_cons.mp left with rfl | later
    · have same := even s sBound t tBound together
      rw [Bool.eq_iff_iff,sides,sides] at same
      exact absurd same differs
    · exact .inr (.inr ⟨later,differs⟩)

theorem foldl_refineOn (lawful : m.Lawful) (invariant : m.Invariant accept splitter cs r)
    (bounds : ∀ c ∈ cs, c < m.width) :
    m.Invariant accept splitter [] (cs.foldl (m.refineOn splitter (.ofList splitter)) r) := by
  induction cs generalizing r with
  | nil => exact invariant
  | cons c cs ih =>
    obtain ⟨bound,later⟩ := List.forall_mem_cons.mp bounds
    exact ih (invariant.refineOn lawful bound) later

-- Between two splitters nothing is left to do with the last one.
theorem finish (invariant : m.Invariant accept splitter [] r) : m.Invariant accept [] [] r where
  valid := invariant.valid
  agrees := invariant.agrees
  keeps := invariant.keeps
  saturated := by simp
  awaits := by
    intro s sBound t tBound c bound together parted
    rcases invariant.awaits s sBound t tBound c bound together parted with waits | waits | ⟨left,_⟩
    · exact .inl waits
    · exact .inr (.inl waits)
    · cases left

theorem take (lawful : m.Lawful) (invariant : m.Invariant accept [] [] r) {work : List Nat} (first : r.work = y :: work) :
    m.Invariant accept (r.block y) (List.range m.width)
      {r with work := work,inWork := r.inWork.setIfInBounds y false} := by
  have valid := invariant.valid
  refine ⟨valid.take first,invariant.agrees,invariant.keeps,?_,?_⟩
  · intro s sBound t tBound alike
    rw [valid.mem_block,valid.mem_block,invariant.keeps s sBound t tBound alike]
    simp [sBound,tBound]
  · intro s sBound t tBound c bound together parted
    have sTarget := lawful.inside s sBound c bound
    have tTarget := lawful.inside t tBound c bound
    change r.blockIndex (m.delta s c) ≠ r.blockIndex (m.delta t c) at parted
    change r.blockIndex (m.delta s c) ∈ work ∨ r.blockIndex (m.delta t c) ∈ work ∨ _
    -- Where the block taken was the one that waited, its states are told from all others.
    have told : r.blockIndex (m.delta s c) = y ∨ r.blockIndex (m.delta t c) = y →
        ¬ (m.delta s c ∈ r.block y ↔ m.delta t c ∈ r.block y) := by
      simp only [valid.mem_block,sTarget,tTarget,true_and]
      grind
    rcases invariant.awaits s sBound t tBound c bound together parted with waits | waits | ⟨left,_⟩
    · rw [first] at waits
      rcases List.mem_cons.mp waits with here | later
      · exact .inr (.inr ⟨List.mem_range.mpr bound,told (.inl here)⟩)
      · exact .inl later
    · rw [first] at waits
      rcases List.mem_cons.mp waits with here | later
      · exact .inr (.inr ⟨List.mem_range.mpr bound,told (.inr here)⟩)
      · exact .inr (.inl later)
    · cases left

theorem refine (lawful : m.Lawful) (invariant : m.Invariant accept [] [] r) :
    m.Invariant accept [] [] (m.refine r) ∧ (m.refine r).work = [] := by
  induction r using Complete.refine.induct m with
  | case1 r done =>
    rw [refine_of_done done]
    exact ⟨invariant,done⟩
  | case2 r y work first taken ih =>
    have next := (invariant.take lawful first).foldl_refineOn lawful fun c member => List.mem_range.mp member
    rw [refine_of_first first]
    exact ih next.finish

-- When no block waits, the blocks are the classes of like states.
theorem blockIndex_eq_iff (lawful : m.Lawful) (invariant : m.Invariant accept [] [] r) (done : r.work = [])
    (sBound : s < m.size) (tBound : t < m.size) : r.blockIndex s = r.blockIndex t ↔ m.Alike accept s t := by
  constructor
  · intro together cs bounds
    induction cs generalizing s t with
    | nil => exact invariant.agrees s sBound t tBound together
    | cons c cs ih =>
      obtain ⟨bound,later⟩ := List.forall_mem_cons.mp bounds
      refine ih (lawful.inside s sBound c bound) (lawful.inside t tBound c bound) ?_ later
      by_contra parted
      have waiting := invariant.awaits s sBound t tBound c bound together parted
      simp [done] at waiting
  · exact invariant.keeps s sBound t tBound

end Invariant

section Initial

def writeBlocks (k : Nat) (blocks : List (List Nat)) (values : Array Nat) : Array Nat :=
  (blocks.zipIdx k).foldl (fun values (block,i) => block.foldl (fun values s => values.setIfInBounds s i) values) values

theorem writeBlocks_cons {k : Nat} {block : List Nat} {blocks : List (List Nat)} {values : Array Nat} :
    writeBlocks k (block :: blocks) values =
      writeBlocks (k + 1) blocks (block.foldl (fun values s => values.setIfInBounds s k) values) := by
  rw [writeBlocks,List.zipIdx_cons]
  rfl

theorem writeBlocks_of_not_mem {blocks : List (List Nat)} {values : Array Nat} {k : Nat}
    (absent : ∀ block ∈ blocks, s ∉ block) : (writeBlocks k blocks values)[s]? = values[s]? := by
  induction blocks generalizing values k with
  | nil => rfl
  | cons first blocks ih =>
    obtain ⟨here,later⟩ := List.forall_mem_cons.mp absent
    rw [writeBlocks_cons,ih later,Refinement.getElem?_foldl_set,if_neg fun held => here held.1]

theorem writeBlocks_of_mem {blocks : List (List Nat)} (disjoint : blocks.Pairwise List.Disjoint) {values : Array Nat}
    {k j : Nat} (bound : s < values.size) {block : List Nat} (atJ : blocks[j]? = some block) (member : s ∈ block) :
    (writeBlocks k blocks values)[s]? = some (k + j) := by
  induction blocks generalizing values k j with
  | nil => cases atJ
  | cons first blocks ih =>
    obtain ⟨apart,others⟩ := List.pairwise_cons.mp disjoint
    rw [writeBlocks_cons]
    cases j with
    | zero =>
      cases atJ
      rw [writeBlocks_of_not_mem fun other inBlocks inOther => apart other inBlocks member inOther,
        Refinement.getElem?_foldl_set,if_pos ⟨member,bound⟩]
      rfl
    | succ j =>
      rw [ih others (by rwa [Refinement.size_foldl_set]) atJ]
      congr 1
      omega

theorem size_writeBlocks {blocks : List (List Nat)} {values : Array Nat} {k : Nat} :
    (writeBlocks k blocks values).size = values.size := by
  induction blocks generalizing values k with
  | nil => rfl
  | cons first blocks ih => rw [writeBlocks_cons,ih,Refinement.size_foldl_set]

def side (m : Complete) (accept : Nat → Bool) : Bool → List Nat
  | true => (List.range m.size).filter accept
  | false => (List.range m.size).filter fun s => !accept s

def sides (m : Complete) (accept : Nat → Bool) : List (List Nat) :=
  [m.side accept true,m.side accept false].filter fun side => !side.isEmpty

theorem mem_side {b : Bool} : s ∈ m.side accept b ↔ s < m.size ∧ accept s = b := by
  cases b <;> simp [side]

theorem mem_sides {block : List Nat} : block ∈ m.sides accept ↔ block ≠ [] ∧ ∃ b, block = m.side accept b := by
  simp only [sides,List.mem_filter,List.mem_cons,List.not_mem_nil,or_false,Bool.not_eq_true',List.isEmpty_eq_false_iff]
  constructor
  · rintro ⟨rfl | rfl,nonempty⟩
    · exact ⟨nonempty,true,rfl⟩
    · exact ⟨nonempty,false,rfl⟩
  · rintro ⟨nonempty,b,rfl⟩
    cases b
    · exact ⟨.inr rfl,nonempty⟩
    · exact ⟨.inl rfl,nonempty⟩

theorem sides_disjoint : (m.sides accept).Pairwise List.Disjoint := by
  refine List.Pairwise.filter _ ?_
  simp only [List.pairwise_cons,List.mem_singleton,forall_eq,List.not_mem_nil,false_implies,implies_true,and_true,
    List.Pairwise.nil]
  intro s inTrue inFalse
  rw [mem_side] at inTrue inFalse
  rw [inTrue.2] at inFalse
  cases inFalse.2

theorem initial_eq : m.initial accept = ⟨(m.sides accept).toArray,
    writeBlocks 0 (m.sides accept) (Array.replicate m.size 0),List.range (m.sides accept).length,
    Array.replicate (m.sides accept).length true⟩ := rfl

theorem initial_block (b : Nat) : (m.initial accept).block b = (m.sides accept)[b]?.getD [] := by
  rw [initial_eq,Refinement.block,List.getElem?_toArray]

theorem initial_blockOf_size : (m.initial accept).blockOf.size = m.size := by
  rw [initial_eq,size_writeBlocks,Array.size_replicate]

theorem exists_side (accept : Nat → Bool) (bound : s < m.size) : ∃ j : Nat, (m.sides accept)[j]? = some (m.side accept (accept s)) := by
  have member : s ∈ m.side accept (accept s) := mem_side.mpr ⟨bound,rfl⟩
  exact List.mem_iff_getElem?.mp (mem_sides.mpr ⟨List.ne_nil_of_mem member,_,rfl⟩)

theorem initial_blockOf {j : Nat} {block : List Nat} (atJ : (m.sides accept)[j]? = some block) (member : s ∈ block) :
    (m.initial accept).blockOf[s]? = some j := by
  obtain ⟨_,b,rfl⟩ := mem_sides.mp (List.mem_of_getElem? atJ)
  have bound : s < (Array.replicate m.size 0).size := by simpa using (mem_side.mp member).1
  rw [initial_eq,writeBlocks_of_mem sides_disjoint bound atJ member,Nat.zero_add]

theorem initial_valid (m : Complete) (accept : Nat → Bool) : (m.initial accept).Valid m.size where
  sized := initial_blockOf_size
  exact := by
    intro b s
    rw [initial_block]
    constructor
    · intro member
      cases atB : (m.sides accept)[b]? with
      | none =>
        rw [atB] at member
        cases member
      | some block =>
        rw [atB] at member
        exact initial_blockOf atB member
    · intro found
      have bound : s < m.size := initial_blockOf_size ▸ (Array.getElem?_eq_some_iff.mp found).1
      obtain ⟨j,atJ⟩ := exists_side accept bound
      have member : s ∈ m.side accept (accept s) := mem_side.mpr ⟨bound,rfl⟩
      rw [initial_blockOf atJ member] at found
      cases found
      rwa [atJ]
  nonempty := by
    intro b bound
    rw [initial_eq,List.size_toArray] at bound
    rw [initial_block,List.getElem?_eq_getElem bound]
    exact (mem_sides.mp (List.getElem_mem bound)).1
  distinct := by
    intro b
    rw [initial_block]
    cases atB : (m.sides accept)[b]? with
    | none => exact List.nodup_nil
    | some block =>
      obtain ⟨_,side,rfl⟩ := mem_sides.mp (List.mem_of_getElem? atB)
      cases side <;> exact List.nodup_range.filter _
  marks := by simp [initial_eq]
  marked := by
    intro b
    simp [initial_eq,Array.getElem?_replicate]
  once := List.nodup_range

-- In the beginning all blocks wait, and nothing but acceptance has been told apart.
theorem initial_invariant (accept : Nat → Bool) (lawful : m.Lawful) : m.Invariant accept [] [] (m.initial accept) where
  valid := initial_valid m accept
  agrees := by
    intro s sBound t tBound together
    obtain ⟨j,atJ⟩ := exists_side accept sBound
    have sMember : s ∈ m.side accept (accept s) := mem_side.mpr ⟨sBound,rfl⟩
    have sIndex := initial_blockOf atJ sMember
    rw [(initial_valid m accept).blockOf_eq sBound] at sIndex
    have tMember : t ∈ (m.initial accept).block j :=
      (initial_valid m accept).mem_block.mpr ⟨tBound,together.symm.trans (Option.some.inj sIndex)⟩
    rw [initial_block,atJ] at tMember
    exact (mem_side.mp tMember).2.symm
  keeps := by
    intro s sBound t tBound alike
    have same : accept s = accept t := alike [] (by simp)
    obtain ⟨j,atJ⟩ := exists_side accept sBound
    have sIndex := initial_blockOf atJ (mem_side.mpr ⟨sBound,rfl⟩)
    have tIndex := initial_blockOf atJ (mem_side.mpr ⟨tBound,same.symm⟩)
    rw [(initial_valid m accept).blockOf_eq sBound] at sIndex
    rw [(initial_valid m accept).blockOf_eq tBound] at tIndex
    exact Option.some.inj (sIndex.trans tIndex.symm)
  saturated := by simp
  awaits := by
    intro s sBound t tBound c bound _ _
    left
    have inBlocks := (initial_valid m accept).blockIndex_lt (lawful.inside s sBound c bound)
    simp only [initial_eq,List.size_toArray] at inBlocks
    exact List.mem_range.mpr inBlocks

end Initial

end Complete

end LexPattern.Automaton
