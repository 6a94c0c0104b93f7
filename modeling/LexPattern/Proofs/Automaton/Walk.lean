import Mathlib
import LexPattern.Automaton.Nfa

namespace LexPattern.Automaton

inductive Walk (edges : List Edge) : Nat → List CodePoint → Nat → Prop where
  | stay (q : Nat) : Walk edges q [] q
  | silent {p q r : Nat} {w : List CodePoint} (edge : ⟨p,none,q⟩ ∈ edges) (rest : Walk edges q w r) : Walk edges p w r
  | read {p q r : Nat} {w : List CodePoint} {c : CharClass} {x : CodePoint} (edge : ⟨p,some c,q⟩ ∈ edges)
      (held : c.contains x = true) (rest : Walk edges q w r) : Walk edges p (x :: w) r

def reach (edges : List Edge) (p q : Nat) : Language CodePoint := {w | Walk edges p w q}

-- A set of texts for each state that grows along an edge as the edge reads.
def Closed (edges : List Edge) (label : Nat → Language CodePoint) : Prop :=
  ∀ e ∈ edges, ∀ w ∈ label e.source,
    match e.label with
    | none => w ∈ label e.target
    | some c => ∀ x, c.contains x = true → w ++ [x] ∈ label e.target

variable {edges more : List Edge} {p q r : Nat} {u v w : List CodePoint} {label other : Nat → Language CodePoint}

namespace Walk

theorem append (first : Walk edges p u q) (second : Walk edges q v r) : Walk edges p (u ++ v) r := by
  induction first with
  | stay => exact second
  | silent edge _ ih => exact .silent edge (ih second)
  | read edge held _ ih => exact .read edge held (ih second)

theorem mono (included : edges ⊆ more) (walk : Walk edges p w q) : Walk more p w q := by
  induction walk with
  | stay => exact .stay _
  | silent edge _ ih => exact .silent (included edge) ih
  | read edge held _ ih => exact .read (included edge) held ih

-- A state that no edge enters is met only at the start of a walk.
theorem of_unentered (unentered : ∀ e ∈ edges, e.target ≠ r) (walk : Walk edges p w r) : p = r ∧ w = [] := by
  induction walk with
  | stay => exact ⟨rfl,rfl⟩
  | silent edge _ ih => exact absurd (ih unentered).1 (unentered _ edge)
  | read edge _ _ ih => exact absurd (ih unentered).1 (unentered _ edge)

theorem append_iff : Walk edges p (u ++ v) r ↔ ∃ q, Walk edges p u q ∧ Walk edges q v r := by
  constructor
  · intro walk
    generalize whole : u ++ v = w at walk
    induction walk generalizing u with
    | stay q =>
      obtain ⟨rfl,rfl⟩ := List.append_eq_nil_iff.mp whole
      exact ⟨q,.stay q,.stay q⟩
    | silent edge _ ih =>
      obtain ⟨q,before,after⟩ := ih whole
      exact ⟨q,.silent edge before,after⟩
    | @read p q r w c x edge held rest ih =>
      cases u with
      | nil =>
        subst whole
        exact ⟨p,.stay p,.read edge held rest⟩
      | cons y u =>
        obtain ⟨rfl,tail⟩ := List.cons.inj whole
        obtain ⟨q,before,after⟩ := ih tail
        exact ⟨q,.read edge held before,after⟩
  · rintro ⟨q,before,after⟩
    exact before.append after

theorem single_iff {x : CodePoint} : Walk edges p [x] r ↔
    ∃ a c b, Walk edges p [] a ∧ ⟨a,some c,b⟩ ∈ edges ∧ c.contains x = true ∧ Walk edges b [] r := by
  constructor
  · intro walk
    generalize whole : [x] = w at walk
    induction walk with
    | stay => cases whole
    | silent edge _ ih =>
      obtain ⟨a,c,b,before,found,held,after⟩ := ih whole
      exact ⟨a,c,b,.silent edge before,found,held,after⟩
    | read edge held rest =>
      cases whole
      exact ⟨_,_,_,.stay _,edge,held,rest⟩
  · rintro ⟨a,c,b,before,found,held,after⟩
    exact before.append (.read found held after)

theorem nil_iff : Walk edges p [] q ↔ Relation.ReflTransGen (fun a b => ⟨a,none,b⟩ ∈ edges) p q := by
  constructor
  · intro walk
    generalize whole : [] = w at walk
    induction walk with
    | stay => exact .refl
    | silent edge _ ih => exact .head edge (ih whole)
    | read => cases whole
  · intro path
    induction path using Relation.ReflTransGen.head_induction_on with
    | refl => exact .stay q
    | head edge _ ih => exact .silent edge ih

end Walk

theorem nil_mem_reach : [] ∈ reach edges p p := Walk.stay p

theorem le_mul_reach (l : Language CodePoint) : l ≤ l * reach edges p p := by
  intro w inL
  have stays : w ++ [] ∈ l * reach edges p p := Language.append_mem_mul inL nil_mem_reach
  rw [List.append_nil] at stays
  exact stays

namespace Closed

-- A walk from a text of the first state ends with a text of the last one.
theorem walk (closed : Closed edges label) (path : Walk edges p w q) (start : u ∈ label p) : u ++ w ∈ label q := by
  induction path generalizing u with
  | stay => simpa using start
  | silent edge _ ih => exact ih (closed _ edge u start)
  | @read p q r w c x edge held _ ih =>
    have next := ih (closed _ edge u start x held)
    simpa using next

theorem append (first : Closed edges label) (second : Closed more label) : Closed (edges ++ more) label := by
  intro e member
  rcases List.mem_append.mp member with left | right
  · exact first e left
  · exact second e right

theorem congr (closed : Closed edges label)
    (same : ∀ e ∈ edges, other e.source = label e.source ∧ other e.target = label e.target) : Closed edges other := by
  intro e member
  rw [(same e member).1,(same e member).2]
  exact closed e member

theorem silent (passes : label p ≤ label q) : Closed [⟨p,none,q⟩] label := by
  intro e member w inSource
  cases List.mem_singleton.mp member
  exact passes inSource

theorem silents {outs : List Nat} (passes : ∀ o ∈ outs, label o ≤ label q) :
    Closed (outs.map fun o => ⟨o,none,q⟩) label := by
  intro e member w inSource
  obtain ⟨o,inOuts,rfl⟩ := List.mem_map.mp member
  exact passes o inOuts inSource

theorem after (l : Language CodePoint) (edges : List Edge) (p : Nat) : Closed edges fun q => l * reach edges p q := by
  rintro ⟨source,mark,target⟩ member w ⟨a,inL,b,path,rfl⟩
  cases mark with
  | none =>
    have longer : Walk edges p (b ++ []) target := path.append (.silent member (.stay target))
    rw [List.append_nil] at longer
    exact Language.append_mem_mul inL longer
  | some c =>
    intro x held
    have longer : Walk edges p (b ++ [x]) target := path.append (.read member held (.stay target))
    change (a ++ b) ++ [x] ∈ _
    rw [List.append_assoc]
    exact Language.append_mem_mul inL longer

theorem reach_le (closed : Closed edges label) (start : [] ∈ label p) : reach edges p q ≤ label q :=
  fun _ path => closed.walk path start

end Closed

end LexPattern.Automaton
