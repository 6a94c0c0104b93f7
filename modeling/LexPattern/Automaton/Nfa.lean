import LexPattern.Automaton.Limit
import LexPattern.Core.Expr

namespace LexPattern.Automaton

open LexPattern.Core (Expr)

structure Edge where
  source : Nat
  -- Absent on a silent edge.
  label : Option CharClass
  target : Nat
deriving DecidableEq, Repr, Inhabited

structure Nfa where
  size : Nat
  start : Nat
  accept : Nat
  edges : Array Edge
deriving Repr

structure Sketch where
  size : Nat
  edges : Array Edge

structure Fragment where
  start : Nat
  outs : List Nat

namespace Sketch

def new : Sketch := ⟨0,#[]⟩

def fresh (limit : Nat) (s : Sketch) : Option (Nat × Sketch) :=
  if s.size < limit then some (s.size,{s with size := s.size + 1}) else none

def connect (s : Sketch) (source : Nat) (label : Option CharClass) (target : Nat) : Sketch :=
  {s with edges := s.edges.push ⟨source,label,target⟩}

def patch (s : Sketch) (outs : List Nat) (target : Nat) : Sketch :=
  outs.foldl (fun s out => s.connect out none target) s

end Sketch

abbrev Construction := Sketch → Option (Fragment × Sketch)

def pass (limit : Nat) : Construction := fun s => do
  let (a,s) ← s.fresh limit
  return (⟨a,[a]⟩,s)

def consume (limit : Nat) (c : CharClass) : Construction := fun s => do
  let (a,s) ← s.fresh limit
  let (b,s) ← s.fresh limit
  return (⟨a,[b]⟩,s.connect a (some c) b)

def Fragment.andThen (first second : Fragment) (s : Sketch) : Fragment × Sketch :=
  (⟨first.start,second.outs⟩,s.patch first.outs second.start)

def spell (limit : Nat) (sofar : Fragment) : List CodePoint → Construction
  | [],s => some (sofar,s)
  | c :: cs,s => do
    let (part,s) ← consume limit (.single c) s
    let (sofar,s) := sofar.andThen part s
    spell limit sofar cs s

def copies (part : Construction) (sofar : Fragment) : Nat → Construction
  | 0,s => some (sofar,s)
  | n + 1,s => do
    let (copy,s) ← part s
    let (sofar,s) := sofar.andThen copy s
    copies part sofar n s

def options (limit : Nat) (part : Construction) (sofar : Fragment) : Nat → Construction
  | 0,s => some (sofar,s)
  | n + 1,s => do
    let (copy,s) ← part s
    let (skip,s) ← s.fresh limit
    let s := (s.patch sofar.outs skip).patch sofar.outs copy.start
    options limit part ⟨sofar.start,copy.outs ++ [skip]⟩ n s

def loop (limit : Nat) (part : Construction) (sofar : Fragment) : Construction := fun s => do
  let (hub,s) ← s.fresh limit
  let (copy,s) ← part s
  let s := ((s.patch sofar.outs hub).connect hub none copy.start).patch copy.outs hub
  return (⟨sofar.start,[hub]⟩,s)

mutual

def construct (limit : Nat) : Expr → Construction
  | .empty,s => pass limit s
  | .literal [],s => pass limit s
  | .literal (c :: cs),s => do
    let (first,s) ← consume limit (.single c) s
    spell limit first cs s
  | .charClass c,s => consume limit c s
  | .group child,s => construct limit child s
  | .concat [],s => pass limit s
  | .concat (child :: children),s => do
    let (first,s) ← construct limit child s
    constructAfter limit first children s
  | .alternation children,s => do
    let (fork,s) ← s.fresh limit
    constructBranches limit fork [] children s
  | .repetition least most _ child,s => do
    let (entry,s) ← pass limit s
    let (sofar,s) ← copies (fun s => construct limit child s) entry least.toNat s
    match most with
    | none => loop limit (fun s => construct limit child s) sofar s
    | some most => options limit (fun s => construct limit child s) sofar (most - least).toNat s

def constructAfter (limit : Nat) (sofar : Fragment) : List Expr → Construction
  | [],s => some (sofar,s)
  | child :: children,s => do
    let (part,s) ← construct limit child s
    let (sofar,s) := sofar.andThen part s
    constructAfter limit sofar children s

def constructBranches (limit : Nat) (fork : Nat) (outs : List Nat) : List Expr → Construction
  | [],s => some (⟨fork,outs⟩,s)
  | child :: children,s => do
    let (branch,s) ← construct limit child s
    let s := s.connect fork none branch.start
    constructBranches limit fork (outs ++ branch.outs) children s

end

namespace Nfa

def ofExpr? (limit : Nat) (e : Expr) : Option Nfa := do
  let (whole,s) ← construct limit e .new
  let (accept,s) ← s.fresh limit
  let s := s.patch whole.outs accept
  return ⟨s.size,whole.start,accept,s.edges⟩

def ofExpr (limit : Int) (e : Expr) : Except TooLarge Nfa :=
  let bound := inForce defaultLimit limit
  match ofExpr? bound e with
  | some n => .ok n
  | none => .error ⟨.nfa,bound⟩

def outgoing (n : Nfa) : Array (Array Edge) :=
  n.edges.foldl (fun rows e => rows.modify e.source (·.push e)) (Array.replicate n.size #[])

def labels (n : Nfa) : List CharClass := n.edges.toList.filterMap Edge.label

end Nfa

end LexPattern.Automaton
