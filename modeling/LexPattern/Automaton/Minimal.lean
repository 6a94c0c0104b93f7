import LexPattern.Automaton.Exploration
import Std.Data.HashSet

namespace LexPattern.Automaton

structure Refinement where
  blocks : Array (List Nat)
  blockOf : Array Nat
  work : List Nat
  inWork : Array Bool

def splitsLeft : List (List Nat) → Nat
  | [] => 0
  | block :: blocks => block.length - 1 + splitsLeft blocks

theorem splitsLeft_append (xs ys : List (List Nat)) : splitsLeft (xs ++ ys) = splitsLeft xs + splitsLeft ys := by
  induction xs with
  | nil => simp [splitsLeft]
  | cons x xs ih => simp [splitsLeft,ih,Nat.add_assoc]

namespace Refinement

-- How many splitters can still be taken: those that wait, and one for each split that is possible.
def prospect (r : Refinement) : Nat := splitsLeft r.blocks.toList + r.work.length

def blockIndex (r : Refinement) (s : Nat) : Nat := r.blockOf[s]?.getD 0

-- Divide block `y` into the states inside and outside a set. Of the two halves the smaller one becomes a
-- splitter, unless the whole block already waits to be one.
def split (inside : Nat → Bool) (r : Refinement) (y : Nat) : Refinement :=
  match r.blocks[y]? with
  | none => r
  | some block =>
    let kept := block.filter inside
    let moved := block.filter fun s => !inside s
    if kept.isEmpty || moved.isEmpty then r
    else
      let fresh := r.blocks.size
      let chosen :=
        if r.inWork[y]?.getD false then fresh
        else if kept.length ≤ moved.length then y
        else fresh
      { blocks := (r.blocks.setIfInBounds y kept).push moved
        blockOf := moved.foldl (fun blockOf s => blockOf.setIfInBounds s fresh) r.blockOf
        work := r.work ++ [chosen]
        inWork := (r.inWork.push false).setIfInBounds chosen true }

theorem splitsLeft_split {blocks : List (List Nat)} {y : Nat} {block kept moved : List Nat}
    (found : blocks[y]? = some block) (sizes : kept.length + moved.length = block.length)
    (some₁ : 0 < kept.length) (some₂ : 0 < moved.length) :
    splitsLeft (blocks.set y kept ++ [moved]) + 1 = splitsLeft blocks := by
  induction blocks generalizing y with
  | nil => cases found
  | cons head tail ih =>
    cases y with
    | zero =>
      cases found
      simp only [List.set_cons_zero,splitsLeft_append,splitsLeft]
      omega
    | succ y =>
      have smaller := ih (y := y) found
      simp only [List.set_cons_succ,splitsLeft_append,splitsLeft] at smaller ⊢
      omega

theorem prospect_split (inside : Nat → Bool) (r : Refinement) (y : Nat) : (r.split inside y).prospect = r.prospect := by
  unfold split
  split
  · rfl
  · next block found =>
    dsimp only
    split
    · rfl
    · next nonempty =>
      simp only [Bool.or_eq_true,List.isEmpty_iff,not_or] at nonempty
      have here : r.blocks.toList[y]? = some block := by rw [Array.getElem?_toList,found]
      have sizes : (block.filter inside).length + (block.filter fun s => !inside s).length = block.length := by
        rw [List.length_eq_countP_add_countP inside (l := block),List.countP_eq_length_filter,List.countP_eq_length_filter]
        simp
      have fewer := splitsLeft_split here sizes (List.length_pos_iff.mpr nonempty.1) (List.length_pos_iff.mpr nonempty.2)
      simp only [prospect,Array.toList_push,Array.toList_setIfInBounds,List.length_append,List.length_singleton]
      omega

def splitAll (inside : Nat → Bool) (r : Refinement) (ys : List Nat) : Refinement :=
  ys.foldl (split inside) r

theorem prospect_splitAll (inside : Nat → Bool) (r : Refinement) (ys : List Nat) :
    (r.splitAll inside ys).prospect = r.prospect := by
  induction ys generalizing r with
  | nil => rfl
  | cons y ys ih => exact (ih (r.split inside y)).trans (prospect_split inside r y)

end Refinement

structure Complete where
  size : Nat
  width : Nat
  delta : Nat → Nat → Nat
  sources : Array (Array (List Nat))

namespace Complete

def invert (size width : Nat) (delta : Nat → Nat → Nat) : Array (Array (List Nat)) :=
  (Array.range width).map fun c =>
    (List.range size).foldl (fun into s => into.modify (delta s c) (s :: ·)) (Array.replicate size [])

-- Complete an automaton by a dead state, which takes the first free number.
def ofDfa (d : Dfa) : Complete :=
  let delta (s c : Nat) : Nat := (d.target? s c).getD d.size
  ⟨d.size + 1,d.segments.size,delta,invert (d.size + 1) d.segments.size delta⟩

def preimage (m : Complete) (c : Nat) (targets : List Nat) : List Nat :=
  targets.flatMap fun t => (m.sources[c]?.bind (·[t]?)).getD []

def refineOn (m : Complete) (splitter : List Nat) (members : Std.HashSet Nat) (r : Refinement) (c : Nat) :
    Refinement :=
  let touched := ((m.preimage c splitter).map r.blockIndex).mergeSort (· ≤ ·)
  r.splitAll (fun s => members.contains (m.delta s c)) touched.eraseReps

def refineBy (m : Complete) (splitter : List Nat) (r : Refinement) : Refinement :=
  (List.range m.width).foldl (m.refineOn splitter (.ofList splitter)) r

theorem prospect_refineBy (m : Complete) (splitter : List Nat) (r : Refinement) :
    (m.refineBy splitter r).prospect = r.prospect := by
  unfold refineBy
  generalize List.range m.width = cs
  induction cs generalizing r with
  | nil => rfl
  | cons c cs ih => exact (ih _).trans (Refinement.prospect_splitAll _ _ _)

def refine (m : Complete) (r : Refinement) : Refinement :=
  match _work : r.work with
  | [] => r
  | y :: work =>
    let taken := {r with work := work,inWork := r.inWork.setIfInBounds y false}
    m.refine (m.refineBy (r.blocks[y]?.getD []) taken)
termination_by r.prospect
decreasing_by
  rw [prospect_refineBy]
  simp only [Refinement.prospect,_work,List.length_cons]
  omega

def initial (m : Complete) (accept : Nat → Bool) : Refinement :=
  let sides := [(List.range m.size).filter accept,(List.range m.size).filter fun s => !accept s]
  let blocks := sides.filter fun side => !side.isEmpty
  let blockOf := blocks.zipIdx.foldl (fun blockOf (block,i) =>
    block.foldl (fun blockOf s => blockOf.setIfInBounds s i) blockOf) (Array.replicate m.size 0)
  ⟨blocks.toArray,blockOf,List.range blocks.length,Array.replicate blocks.length true⟩

-- Blocks as a transition system, each represented by its first state. The dead block is left out.
def quotient (m : Complete) (d : Dfa) (r : Refinement) : System Nat :=
  let representative (b : Nat) : Nat := ((r.blocks[b]?.getD []).head?).getD d.size
  let dead := r.blockIndex d.size
  { start := r.blockIndex d.start
    accept := fun b => d.isAccepting (representative b)
    next := fun b c =>
      let t := r.blockIndex (m.delta (representative b) c)
      if t = dead then none else some t }

end Complete

def Dfa.minimize (d : Dfa) : Dfa :=
  let m := Complete.ofDfa d
  let r := m.refine (m.initial d.isAccepting)
  match (m.quotient d r).explore d.segments.size r.blocks.size with
  | some states => ⟨d.segments,0,states⟩
  | none => d

end LexPattern.Automaton
