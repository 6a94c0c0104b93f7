import Mathlib
import LexPattern.Proofs.Automaton.Minimality

namespace LexPattern.Automaton

namespace Refinement

theorem splitsLeft_add_length {blocks : List (List Nat)} (nonempty : ∀ block ∈ blocks, block ≠ []) :
    splitsLeft blocks + blocks.length = blocks.flatten.length := by
  induction blocks with
  | nil => rfl
  | cons block blocks ih =>
    obtain ⟨first,others⟩ := List.forall_mem_cons.mp nonempty
    have counted := ih others
    have positive := List.length_pos_iff.mpr first
    simp only [splitsLeft,List.length_cons,List.flatten_cons,List.length_append]
    omega

end Refinement

namespace Complete

-- A moment of the work: the blocks, the splitter in use and the segment it is used with, the blocks still to be split
-- for that segment, and the segments still to come.
structure Moment where
  state : Refinement
  splitter : List Nat
  segment : Nat
  touched : List Nat
  later : List Nat

def leadsInto (m : Complete) (splitter : List Nat) (c s : Nat) : Bool := splitter.contains (m.delta s c)

def touchedBy (m : Complete) (splitter : List Nat) (r : Refinement) (c : Nat) : List Nat :=
  (((m.preimage c splitter).map r.blockIndex).mergeSort (· ≤ ·)).eraseReps

def next? (m : Complete) : Moment → Option Moment
  | ⟨r,splitter,c,y :: ys,cs⟩ => some ⟨r.split (m.leadsInto splitter c) y,splitter,c,ys,cs⟩
  | ⟨r,splitter,_,[],c :: cs⟩ => some ⟨r,splitter,c,m.touchedBy splitter r c,cs⟩
  | ⟨r,_,c,[],[]⟩ =>
    match r.work with
    | [] => none
    | y :: work =>
      some ⟨{r with work := work,inWork := r.inWork.setIfInBounds y false},r.block y,c,[],List.range m.width⟩

def after? (m : Complete) : Nat → Moment → Option Moment
  | 0,a => some a
  | k + 1,a => (m.next? a).bind (m.after? k)

def Moment.start (r : Refinement) : Moment := ⟨r,[],0,[],[]⟩

variable {m : Complete} {a b : Moment} {r : Refinement} {splitter : List Nat} {c k : Nat}

theorem next?_done (done : r.work = []) : m.next? ⟨r,splitter,c,[],[]⟩ = none := by simp only [next?,done]

theorem next?_take {y : Nat} {work : List Nat} (first : r.work = y :: work) : m.next? ⟨r,splitter,c,[],[]⟩ =
    some ⟨{r with work := work,inWork := r.inWork.setIfInBounds y false},r.block y,c,[],List.range m.width⟩ := by
  simp only [next?,first]

section Bound

-- The blocks are in order, and only segments of the automaton are to come. The blocks to be split differ, and each holds
-- a state that the segment leads into the splitter.
structure Moment.Proper (m : Complete) (a : Moment) : Prop where
  valid : a.state.Valid m.size
  segments : ∀ c ∈ a.later, c < m.width
  distinct : a.touched.Nodup
  leading : ∀ y ∈ a.touched, ∃ s ∈ a.state.block y, m.leadsInto a.splitter a.segment s = true

-- The steps that can still come: a splitter meets every segment, and a segment touches no more blocks than there are
-- states.
def Moment.stepsLeft (m : Complete) (a : Moment) : Nat :=
  a.state.prospect * (1 + m.width * (m.size + 1)) + a.later.length * (m.size + 1) + a.touched.length

theorem touchedBy_nodup : (m.touchedBy splitter r c).Nodup := (sorted_distinct_pairwise _).imp ne_of_lt

theorem exists_leading (lawful : m.Lawful) (valid : r.Valid m.size) (bound : c < m.width) {y : Nat}
    (touched : y ∈ m.touchedBy splitter r c) : ∃ s ∈ r.block y, m.leadsInto splitter c s = true := by
  obtain ⟨s,source,rfl⟩ := List.mem_map.mp (mem_sorted_distinct.mp touched)
  obtain ⟨inside,leads⟩ := (lawful.sources c bound splitter s).mp source
  exact ⟨s,valid.mem_block.mpr ⟨inside,rfl⟩,List.contains_iff_mem.mpr leads⟩

theorem length_touchedBy_le (lawful : m.Lawful) (bound : c < m.width) : (m.touchedBy splitter r c).length ≤ m.size := by
  have included : (m.touchedBy splitter r c).toFinset ⊆ (Finset.range m.size).image r.blockIndex := by
    intro b member
    obtain ⟨s,source,rfl⟩ := List.mem_map.mp (mem_sorted_distinct.mp (List.mem_toFinset.mp member))
    exact Finset.mem_image_of_mem _ (Finset.mem_range.mpr ((lawful.sources c bound splitter s).mp source).1)
  calc (m.touchedBy splitter r c).length
      = (m.touchedBy splitter r c).toFinset.card := (List.toFinset_card_of_nodup touchedBy_nodup).symm
    _ ≤ ((Finset.range m.size).image r.blockIndex).card := Finset.card_le_card included
    _ ≤ (Finset.range m.size).card := Finset.card_image_le
    _ = m.size := Finset.card_range _

-- A step keeps everything in order and is counted among those that could come.
theorem next?_proper (lawful : m.Lawful) (proper : a.Proper m) (stepped : m.next? a = some b) :
    b.Proper m ∧ b.stepsLeft m < a.stepsLeft m := by
  obtain ⟨valid,segments,distinct,leading⟩ := proper
  fun_cases next? m a with
  | case1 r splitter c y ys cs =>
    cases stepped
    obtain ⟨fresh,others⟩ := List.nodup_cons.mp distinct
    refine ⟨⟨valid.split _ y,segments,others,fun z later => ?_⟩,?_⟩
    · -- No other block loses a state.
      obtain ⟨s,member,leads⟩ := leading z (List.mem_cons_of_mem y later)
      obtain ⟨inside,rfl⟩ := valid.mem_block.mp member
      have elsewhere : r.blockIndex s ≠ y := fun here => fresh (here ▸ later)
      exact ⟨s,(valid.split _ y).mem_block.mpr ⟨inside,Refinement.blockIndex_split_of_ne valid inside elsewhere⟩,leads⟩
    · simp only [Moment.stepsLeft,Refinement.prospect_split,List.length_cons]
      omega
  | case2 r splitter c' c cs =>
    cases stepped
    obtain ⟨bound,later⟩ := List.forall_mem_cons.mp segments
    refine ⟨⟨valid,later,touchedBy_nodup,fun y => exists_leading lawful valid bound⟩,?_⟩
    -- The blocks that the segment brings are no more than what it was counted for.
    have few : (m.touchedBy splitter r c).length ≤ m.size := length_touchedBy_le lawful bound
    simp only [Moment.stepsLeft,List.length_cons,List.length_nil,Nat.add_mul]
    omega
  | case3 r splitter c done =>
    rw [next?_done done] at stepped
    cases stepped
  | case4 r splitter c y work first =>
    rw [next?_take first] at stepped
    cases stepped
    refine ⟨⟨valid.take first,fun c member => List.mem_range.mp member,.nil,nofun⟩,?_⟩
    -- One splitter less waits, which pays for this step and for all its segments.
    simp only [Moment.stepsLeft,Refinement.prospect,first,List.length_cons,List.length_nil,List.length_range,
      ← Nat.add_assoc,Nat.add_one_mul (_ + _)]
    omega

-- After any number of steps everything is still in order, and what is left has become that much less.
theorem after?_proper (lawful : m.Lawful) (proper : a.Proper m) (ran : m.after? k a = some b) :
    b.Proper m ∧ k + b.stepsLeft m ≤ a.stepsLeft m := by
  induction k generalizing a with
  | zero =>
    cases ran
    exact ⟨proper,by omega⟩
  | succ k ih =>
    obtain ⟨next,stepped,later⟩ := Option.bind_eq_some_iff.mp ran
    obtain ⟨properNext,less⟩ := next?_proper lawful proper stepped
    obtain ⟨properLast,most⟩ := ih properNext later
    exact ⟨properLast,by omega⟩

theorem start_proper (valid : r.Valid m.size) : (Moment.start r).Proper m :=
  ⟨valid,nofun,.nil,nofun⟩

theorem initial_prospect (accept : Nat → Bool) : (m.initial accept).prospect = m.size := by
  have nonempty : ∀ block ∈ m.sides accept, block ≠ [] := fun block member => (mem_sides.mp member).1
  have whole : (m.sides accept).flatten = m.side accept true ++ m.side accept false := by
    rw [sides,List.flatten_filter_not_isEmpty]
    simp
  change splitsLeft (m.sides accept) + (List.range (m.sides accept).length).length = m.size
  rw [List.length_range,Refinement.splitsLeft_add_length nonempty,whole,List.length_append]
  exact List.length_eq_length_filter_add accept |>.symm.trans List.length_range

end Bound

section Outcome

def Reaches (m : Complete) (a b : Moment) : Prop := ∃ k, m.after? k a = some b

theorem after?_add {j : Nat} : m.after? (j + k) a = (m.after? j a).bind (m.after? k) := by
  induction j generalizing a with
  | zero => rw [Nat.zero_add,after?,Option.bind_some]
  | succ j ih =>
    rw [Nat.add_right_comm,after?,after?,Option.bind_assoc]
    exact congrArg _ (funext fun _ => ih)

theorem Reaches.refl (a : Moment) : m.Reaches a a := ⟨0,rfl⟩

theorem Reaches.trans {d : Moment} (one : m.Reaches a b) (two : m.Reaches b d) : m.Reaches a d := by
  obtain ⟨j,ran⟩ := one
  obtain ⟨k,ran'⟩ := two
  exact ⟨j + k,by rw [after?_add,ran,Option.bind_some,ran']⟩

theorem Reaches.step (stepped : m.next? a = some b) : m.Reaches a b :=
  ⟨1,by rw [after?,stepped]; rfl⟩

theorem refineOn_eq : m.refineOn splitter (.ofList splitter) r c =
    r.splitAll (m.leadsInto splitter c) (m.touchedBy splitter r c) := by
  have sides : (fun s => (Std.HashSet.ofList splitter).contains (m.delta s c)) = m.leadsInto splitter c :=
    funext fun s => Std.HashSet.contains_ofList
  rw [refineOn,sides]
  rfl

theorem reaches_splitAll (m : Complete) (r : Refinement) (splitter : List Nat) (c : Nat) (ys cs : List Nat) :
    m.Reaches ⟨r,splitter,c,ys,cs⟩ ⟨r.splitAll (m.leadsInto splitter c) ys,splitter,c,[],cs⟩ := by
  induction ys generalizing r with
  | nil => exact .refl _
  | cons y ys ih => exact (Reaches.step rfl).trans (ih _)

theorem reaches_refineOn (m : Complete) (r : Refinement) (splitter : List Nat) (c : Nat) (cs : List Nat) :
    ∃ c', m.Reaches ⟨r,splitter,c,[],cs⟩ ⟨cs.foldl (m.refineOn splitter (.ofList splitter)) r,splitter,c',[],[]⟩ := by
  induction cs generalizing r c with
  | nil => exact ⟨c,.refl _⟩
  | cons d cs ih =>
    obtain ⟨c',reached⟩ := ih (m.refineOn splitter (.ofList splitter) r d) d
    have turned : m.Reaches ⟨r,splitter,c,[],d :: cs⟩ ⟨r,splitter,d,m.touchedBy splitter r d,cs⟩ := .step rfl
    have used := turned.trans (reaches_splitAll m r splitter d _ cs)
    rw [← refineOn_eq] at used
    exact ⟨c',used.trans reached⟩

theorem reaches_refine (m : Complete) (r : Refinement) (splitter : List Nat) (c : Nat) :
    ∃ last, m.Reaches ⟨r,splitter,c,[],[]⟩ last ∧ m.next? last = none ∧ last.state = m.refine r := by
  induction r using Complete.refine.induct m generalizing splitter c with
  | case1 r done =>
    exact ⟨⟨r,splitter,c,[],[]⟩,.refl _,next?_done done,(refine_of_done done).symm⟩
  | case2 r y work first taken ih =>
    have takes : m.next? ⟨r,splitter,c,[],[]⟩ = some ⟨taken,r.block y,c,[],List.range m.width⟩ := next?_take first
    obtain ⟨c',used⟩ := reaches_refineOn m taken (r.block y) c (List.range m.width)
    obtain ⟨last,reached,ended,same⟩ := ih (r.block y) c'
    exact ⟨last,((Reaches.step takes).trans used).trans reached,ended,same.trans (refine_of_first first).symm⟩

end Outcome

end Complete

namespace Dfa

open Complete

-- Refinement ends within a number of steps that depends on the states and segments only. All the time the blocks divide
-- the states and the dead one, each state knows its block, the marks tell which blocks wait, and no block that is to be
-- split lacks states led into the splitter. In the end two states share a block exactly when no sequence of segments
-- tells them apart in the completed automaton.
theorem refine_terminates (d : Dfa) (wellFormed : d.WellFormed) :
    (∀ k a, (ofDfa d).after? k (.start ((ofDfa d).initial d.isAccepting)) = some a →
      k ≤ (d.size + 1) * (1 + d.segments.size * (d.size + 2)) ∧ a.state.Valid (d.size + 1) ∧
        ∀ y ∈ a.touched, ∃ s ∈ a.state.block y, (ofDfa d).leadsInto a.splitter a.segment s = true) ∧
    ∃ k last, (ofDfa d).after? k (.start ((ofDfa d).initial d.isAccepting)) = some last ∧ (ofDfa d).next? last = none ∧
      last.state = (ofDfa d).refine ((ofDfa d).initial d.isAccepting) ∧
      ∀ s ≤ d.size, ∀ t ≤ d.size, (∃ b, s ∈ last.state.block b ∧ t ∈ last.state.block b) ↔
        (ofDfa d).Alike d.isAccepting s t := by
  have lawful := ofDfa_lawful wellFormed
  have start := initial_invariant d.isAccepting lawful
  constructor
  · intro k a ran
    obtain ⟨proper,most⟩ := after?_proper lawful (start_proper start.valid) ran
    have total : (Moment.start ((ofDfa d).initial d.isAccepting)).stepsLeft (ofDfa d) =
        (d.size + 1) * (1 + d.segments.size * (d.size + 2)) := by
      simp only [Moment.stepsLeft,Moment.start,initial_prospect,List.length_nil]
      simp [ofDfa]
    exact ⟨by omega,proper.valid,proper.leading⟩
  · obtain ⟨last,⟨k,ran⟩,ended,same⟩ := reaches_refine (ofDfa d) ((ofDfa d).initial d.isAccepting) [] 0
    refine ⟨k,last,ran,ended,same,fun s sBound t tBound => ?_⟩
    obtain ⟨invariant,done⟩ := start.refine lawful
    have sInside : s < (ofDfa d).size := Nat.lt_succ_of_le sBound
    have tInside : t < (ofDfa d).size := Nat.lt_succ_of_le tBound
    rw [same,← invariant.blockIndex_eq_iff lawful done sInside tInside]
    simp only [invariant.valid.mem_block,sInside,tInside,true_and]
    constructor
    · rintro ⟨b,rfl,together⟩
      exact together.symm
    · intro together
      exact ⟨_,rfl,together.symm⟩

-- Three accepting states in a row. The first splitter is the block of all three, and it splits that block.
def fading : Dfa where
  segments := #[⟨0x61,0x61⟩]
  start := 0
  states := #[⟨true,#[some 1]⟩,⟨true,#[some 2]⟩,⟨true,#[none]⟩]

theorem refine_terminates_fading : fading.WellFormed ∧
    ((ofDfa fading).after? 3 (.start ((ofDfa fading).initial fading.isAccepting))).map
      (fun a => (a.splitter,a.state.blocks)) = some ([0,1,2],#[[0,1],[3],[2]]) ∧
    (∀ k a, (ofDfa fading).after? k (.start ((ofDfa fading).initial fading.isAccepting)) = some a →
      k ≤ 24 ∧ a.state.Valid 4 ∧
        ∀ y ∈ a.touched, ∃ s ∈ a.state.block y, (ofDfa fading).leadsInto a.splitter a.segment s = true) ∧
    ∃ k last, (ofDfa fading).after? k (.start ((ofDfa fading).initial fading.isAccepting)) = some last ∧
      (ofDfa fading).next? last = none ∧ ¬ ∃ b, 0 ∈ last.state.block b ∧ 1 ∈ last.state.block b := by
  have wellFormed : fading.WellFormed := .of_states (by decide) (by decide) (by decide) (by decide) (by decide)
  obtain ⟨sound,k,last,ran,ended,_,classes⟩ := refine_terminates fading wellFormed
  refine ⟨wellFormed,by cbv,sound,k,last,ran,ended,fun together => ?_⟩
  have alike := (classes 0 (by decide) 1 (by decide)).mp together
  -- After two more letters only the first state still accepts.
  have same := alike [0,0] (by decide)
  revert same
  decide

end Dfa

end LexPattern.Automaton
