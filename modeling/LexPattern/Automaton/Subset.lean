import LexPattern.Automaton.Exploration
import LexPattern.Automaton.Nfa
import Std.Data.HashSet

namespace LexPattern.Automaton

def unseen (size : Nat) (seen : Std.HashSet Nat) : Nat :=
  (List.range size).countP fun s => !seen.contains s

theorem countP_lt_countP {p q : Nat → Bool} {xs : List Nat} {x : Nat} (weaker : ∀ y, p y → q y)
    (member : x ∈ xs) (held : q x = true) (lost : p x = false) : xs.countP p < xs.countP q := by
  induction xs with
  | nil => cases member
  | cons y ys ih =>
    have tails : ys.countP p ≤ ys.countP q := List.countP_mono_left fun z _ => weaker z
    rcases List.mem_cons.mp member with rfl | inTail
    · rw [List.countP_cons_of_pos held,List.countP_cons_of_neg (by simp [lost])]
      omega
    · have shorter := ih inTail
      by_cases here : p y = true
      · rw [List.countP_cons_of_pos here,List.countP_cons_of_pos (weaker y here)]
        omega
      · rw [List.countP_cons_of_neg here,List.countP_cons]
        omega

theorem unseen_insert_lt {size s : Nat} {seen : Std.HashSet Nat} (bound : s < size)
    (new : seen.contains s = false) : unseen size (seen.insert s) < unseen size seen := by
  refine countP_lt_countP (x := s) ?_ (List.mem_range.mpr bound) ?_ ?_
  · intro y notThere
    simp only [Std.HashSet.contains_insert,Bool.not_or,Bool.and_eq_true] at notThere
    exact notThere.2
  · simp [new]
  · simp

def closeFrom (size : Nat) (silent : Nat → List Nat) (pending : List Nat) (seen : Std.HashSet Nat) :
    Std.HashSet Nat :=
  match pending with
  | [] => seen
  | s :: pending =>
    if _new : s < size ∧ seen.contains s = false then
      closeFrom size silent (silent s ++ pending) (seen.insert s)
    else closeFrom size silent pending seen
termination_by (unseen size seen,pending.length)
decreasing_by
  · exact Prod.Lex.left _ _ (unseen_insert_lt _new.1 _new.2)
  · exact Prod.Lex.right _ (Nat.lt_succ_self _)

def closure (size : Nat) (silent : Nat → List Nat) (states : List Nat) : List Nat :=
  (closeFrom size silent states ∅).toList.mergeSort (· ≤ ·)

def silentTargets (edges : Array Edge) : List Nat :=
  edges.toList.filterMap fun e => if e.label.isNone then some e.target else none

def readingTargets (c : CodePoint) (edges : Array Edge) : List Nat :=
  edges.toList.filterMap fun e =>
    match e.label with
    | some label => if label.contains c then some e.target else none
    | none => none

def subsetSystem (n : Nfa) (segments : Array Segment) : System (List Nat) :=
  let outgoing := n.outgoing
  let edgesOf (s : Nat) : Array Edge := outgoing[s]?.getD #[]
  let silent (s : Nat) : List Nat := silentTargets (edgesOf s)
  { start := closure n.size silent [n.start]
    accept := fun states => states.contains n.accept
    next := fun states i =>
      match segments[i]? with
      | none => none
      | some segment =>
        let moved := states.flatMap fun s => readingTargets segment.lo (edgesOf s)
        if moved.isEmpty then none else some (closure n.size silent moved) }

namespace Dfa

def ofNfa (limit : Int) (n : Nfa) : Except TooLarge Dfa :=
  let bound := inForce defaultLimit limit
  let segments := partition n.labels
  match (subsetSystem n segments).explore segments.size bound with
  | some states => .ok ⟨segments,0,states⟩
  | none => .error ⟨.dfa,bound⟩

end Dfa

end LexPattern.Automaton
