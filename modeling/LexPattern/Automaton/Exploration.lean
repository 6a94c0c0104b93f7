import LexPattern.Automaton.Dfa
import Std.Data.HashMap

namespace LexPattern.Automaton

structure System (σ : Type) where
  start : σ
  accept : σ → Bool
  next : σ → Nat → Option σ

structure Numbering (σ : Type) [BEq σ] [Hashable σ] where
  nodes : Array σ
  number : Std.HashMap σ Nat

variable {σ : Type} [BEq σ] [Hashable σ]

namespace Numbering

def new (start : σ) : Numbering σ := ⟨#[start],(∅ : Std.HashMap σ Nat).insert start 0⟩

def visit (limit : Nat) (n : Numbering σ) (x : σ) : Option (Nat × Numbering σ) :=
  match n.number[x]? with
  | some i => some (i,n)
  | none =>
    if n.nodes.size < limit then
      some (n.nodes.size,⟨n.nodes.push x,n.number.insert x n.nodes.size⟩)
    else none

end Numbering

namespace System

def row (m : System σ) (limit : Nat) (x : σ) :
    List Nat → Array (Option Nat) → Numbering σ → Option (Array (Option Nat) × Numbering σ)
  | [],row,n => some (row,n)
  | segment :: segments,row,n =>
    match m.next x segment with
    | none => m.row limit x segments (row.push none) n
    | some y =>
      match n.visit limit y with
      | none => none
      | some (i,n) => m.row limit x segments (row.push (some i)) n

def expand (m : System σ) (width limit : Nat) :
    Nat → Array DfaState → Numbering σ → Option (Array DfaState)
  | 0,states,_ => some states
  | fuel + 1,states,n =>
    match n.nodes[states.size]? with
    | none => some states
    | some x =>
      match m.row limit x (List.range width) #[] n with
      | none => none
      | some (next,n) => m.expand width limit fuel (states.push ⟨m.accept x,next⟩) n

-- The numbered states of the reachable part, unless there are more than the limit. As many rounds as
-- the limit are enough, since each one settles a node.
def explore (m : System σ) (width limit : Nat) : Option (Array DfaState) :=
  m.expand width limit limit #[] (.new m.start)

end System

end LexPattern.Automaton
