import Mathlib
import LexPattern.Proofs.Automaton.Piece

namespace LexPattern.Automaton

open scoped Computability
open LexPattern.Core (Expr oneOf repeated Within mem_oneOf)

variable {limit q : Nat} {l m : Language CodePoint} {s s' : Sketch} {part : Construction}

namespace Sketch

theorem fresh_eq_some (accepted : s.fresh limit = some (q,s')) :
    q = s.size ∧ s'.size = s.size + 1 ∧ s'.edges = s.edges := by
  unfold fresh at accepted
  split at accepted
  · cases accepted
    exact ⟨rfl,rfl,rfl⟩
  · cases accepted

@[simp] theorem patch_size (s : Sketch) (outs : List Nat) (target : Nat) : (s.patch outs target).size = s.size := by
  induction outs generalizing s with
  | nil => rfl
  | cons o outs ih => exact ih (s.connect o none target)

@[simp] theorem patch_edges (s : Sketch) (outs : List Nat) (target : Nat) :
    (s.patch outs target).edges.toList = s.edges.toList ++ bridges outs target := by
  induction outs generalizing s with
  | nil => simp [patch,bridges]
  | cons o outs ih =>
    have later := ih (s.connect o none target)
    change (patch (s.connect o none target) outs target).edges.toList = _
    rw [later]
    simp [connect,bridges]

end Sketch

def Builds (part : Construction) (l : Language CodePoint) : Prop :=
  ∀ s f s', part s = some (f,s') →
    ∃ new, s'.edges.toList = s.edges.toList ++ new ∧ Piece s.size s'.size new f l

-- A construction that makes the latest piece read a language after its own.
def Extends (part : Fragment → Construction) (l : Language CodePoint) : Prop :=
  ∀ low edges f m s g s', Piece low s.size edges f m → part f s = some (g,s') →
    ∃ new, s'.edges.toList = s.edges.toList ++ new ∧ Piece low s'.size (edges ++ new) g (m * l)

theorem Builds.of_eq {other : Construction} (builds : Builds other l) (same : ∀ s, part s = other s) : Builds part l := by
  rwa [show part = other from funext same]

theorem Extends.of_eq {part other : Fragment → Construction} (extends' : Extends other l)
    (same : ∀ f s, part f s = other f s) : Extends part l := by
  rwa [show part = other from funext fun f => funext (same f)]

theorem pass_builds : Builds (pass limit) 1 := by
  intro s f s' accepted
  obtain ⟨⟨a,s₁⟩,made,done⟩ := Option.bind_eq_some_iff.mp accepted
  obtain ⟨rfl,size,same⟩ := Sketch.fresh_eq_some made
  cases done
  exact ⟨[],by rw [same,List.append_nil],by rw [size]; exact .pass _⟩

theorem consume_eq_some {c : CharClass} {f : Fragment} (accepted : consume limit c s = some (f,s')) :
    f = ⟨s.size,[s.size + 1]⟩ ∧ s'.size = s.size + 2 ∧
      s'.edges.toList = s.edges.toList ++ [⟨s.size,some c,s.size + 1⟩] := by
  obtain ⟨⟨a,s₁⟩,made,rest⟩ := Option.bind_eq_some_iff.mp accepted
  obtain ⟨rfl,size₁,same₁⟩ := Sketch.fresh_eq_some made
  obtain ⟨⟨b,s₂⟩,made₂,done⟩ := Option.bind_eq_some_iff.mp rest
  obtain ⟨rfl,size₂,same₂⟩ := Sketch.fresh_eq_some made₂
  cases done
  simp [Sketch.connect,same₁,same₂,size₁,size₂]

theorem consume_builds {c : CharClass} (normal : c.Normal) :
    Builds (consume limit c) (oneOf fun x => c.contains x = true) := by
  intro s f s' accepted
  obtain ⟨rfl,size,edges⟩ := consume_eq_some accepted
  refine ⟨_,edges,?_⟩
  rw [size]
  exact .consume s.size normal

theorem literal_cons {c : CodePoint} {cs : List CodePoint} (scalar : c.isScalar = true) :
    ({c :: cs} : Language CodePoint) = (oneOf fun x => (CharClass.single c).contains x = true) * {cs} := by
  ext w
  simp only [Language.mem_mul,mem_oneOf,(CharClass.Denotes.single scalar).contains_iff]
  constructor
  · rintro rfl
    exact ⟨[c],⟨c,⟨scalar,rfl⟩,rfl⟩,cs,rfl,rfl⟩
  · rintro ⟨_,⟨x,⟨_,rfl⟩,rfl⟩,_,rfl,rfl⟩
    rfl

namespace Extends

theorem nothing : Extends (fun f s => some (f,s)) 1 := by
  intro low edges f m s g s' piece done
  cases done
  exact ⟨[],by simp,by simpa using piece⟩

theorem andThen {rest : Fragment → Construction} (builds : Builds part l) (continues : Extends rest m) :
    Extends (fun f s => do
      let (copy,s) ← part s
      let (f,s) := f.andThen copy s
      rest f s) (l * m) := by
  intro low edges f before s g s' piece accepted
  obtain ⟨⟨copy,s₁⟩,built,done⟩ := Option.bind_eq_some_iff.mp accepted
  obtain ⟨added,edges₁,second⟩ := builds s copy s₁ built
  have joined := piece.andThen second
  rw [← Sketch.patch_size s₁ f.outs copy.start] at joined
  obtain ⟨later,edges₂,whole⟩ := continues _ _ _ _ _ g s' joined done
  refine ⟨(added ++ bridges f.outs copy.start) ++ later,?_,?_⟩
  · rw [edges₂,Sketch.patch_edges,edges₁]
    simp only [List.append_assoc]
  · rw [← List.append_assoc,← mul_assoc]
    exact whole

theorem copies (builds : Builds part l) (n : Nat) : Extends (fun f s => copies part f n s) (l ^ n) := by
  induction n with
  | zero =>
    rw [pow_zero]
    exact nothing
  | succ n ih =>
    rw [pow_succ']
    exact andThen builds ih

theorem spell (limit : Nat) {cs : List CodePoint} (scalars : ∀ c ∈ cs, c.isScalar = true) :
    Extends (fun f s => spell limit f cs s) {cs} := by
  induction cs with
  | nil => exact nothing
  | cons c cs ih =>
    rw [literal_cons (scalars c (List.mem_cons_self ..))]
    have single := CharClass.Denotes.single (scalars c (List.mem_cons_self ..))
    exact andThen (consume_builds single.normal) (ih fun x member => scalars x (List.mem_cons_of_mem _ member))

theorem options (limit : Nat) (builds : Builds part l) (n : Nat) : Extends (fun f s => options limit part f n s) ((1 + l) ^ n) := by
  induction n with
  | zero =>
    rw [pow_zero]
    exact nothing
  | succ n ih =>
    intro low edges f before s g s' piece accepted
    obtain ⟨⟨copy,s₁⟩,built,rest⟩ := Option.bind_eq_some_iff.mp accepted
    obtain ⟨⟨skip,s₂⟩,made,done⟩ := Option.bind_eq_some_iff.mp rest
    obtain ⟨added,edges₁,second⟩ := builds s copy s₁ built
    obtain ⟨rfl,size,same⟩ := Sketch.fresh_eq_some made
    have joined := piece.optional second
    rw [← size,← Sketch.patch_size s₂ f.outs s₁.size,← Sketch.patch_size _ f.outs copy.start] at joined
    obtain ⟨later,edges₂,whole⟩ := ih _ _ _ _ _ g s' joined done
    refine ⟨(added ++ (bridges f.outs s₁.size ++ bridges f.outs copy.start)) ++ later,?_,?_⟩
    · rw [edges₂,Sketch.patch_edges,Sketch.patch_edges,same,edges₁]
      simp only [List.append_assoc]
    · rw [← List.append_assoc,pow_succ',← mul_assoc]
      exact whole

theorem loop (limit : Nat) (builds : Builds part l) : Extends (loop limit part) l∗ := by
  intro low edges f before s g s' piece accepted
  obtain ⟨⟨hub,s₁⟩,made,rest⟩ := Option.bind_eq_some_iff.mp accepted
  obtain ⟨⟨copy,s₂⟩,built,done⟩ := Option.bind_eq_some_iff.mp rest
  obtain ⟨rfl,size,same⟩ := Sketch.fresh_eq_some made
  obtain ⟨added,edges₁,second⟩ := builds s₁ copy s₂ built
  rw [size] at second
  cases done
  refine ⟨added ++ (bridges f.outs s.size ++ (bridges [s.size] copy.start ++ bridges copy.outs s.size)),?_,?_⟩
  · simp [Sketch.connect,edges₁,same,bridges]
  · simp only [Sketch.patch_size,Sketch.connect]
    exact piece.loop second

theorem trans {first second : Fragment → Construction} (left : Extends first l) (right : Extends second m) :
    Extends (fun f s => do
      let (f,s) ← first f s
      second f s) (l * m) := by
  intro low edges f before s g s' piece accepted
  obtain ⟨⟨f₁,s₁⟩,extended,done⟩ := Option.bind_eq_some_iff.mp accepted
  obtain ⟨added,edges₁,piece₁⟩ := left _ _ _ _ _ f₁ s₁ piece extended
  obtain ⟨later,edges₂,whole⟩ := right _ _ _ _ _ g s' piece₁ done
  refine ⟨added ++ later,by rw [edges₂,edges₁,List.append_assoc],?_⟩
  rw [← List.append_assoc,← mul_assoc]
  exact whole

theorem builds {rest : Fragment → Construction} (first : Builds part l) (continues : Extends rest m) :
    Builds (fun s => do
      let (f,s) ← part s
      rest f s) (l * m) := by
  intro s g s' accepted
  obtain ⟨⟨f,s₁⟩,built,done⟩ := Option.bind_eq_some_iff.mp accepted
  obtain ⟨added,edges₁,piece⟩ := first s f s₁ built
  obtain ⟨later,edges₂,whole⟩ := continues _ _ _ _ _ g s' piece done
  exact ⟨added ++ later,by rw [edges₂,edges₁,List.append_assoc],whole⟩

end Extends

-- All the branches at a fork add their languages to what leaves it already.
def Branches (part : Nat → List Nat → Construction) (l : Language CodePoint) : Prop :=
  ∀ low edges fork outs m s g s', Piece low s.size edges ⟨fork,outs⟩ m → (∀ e ∈ edges, e.target ≠ fork) →
    part fork outs s = some (g,s') →
      ∃ new, s'.edges.toList = s.edges.toList ++ new ∧ Piece low s'.size (edges ++ new) g (m + l)

theorem Branches.of_eq {part other : Nat → List Nat → Construction} (branches : Branches other l)
    (same : ∀ fork outs s, part fork outs s = other fork outs s) : Branches part l := by
  rwa [show part = other from funext fun fork => funext fun outs => funext (same fork outs)]

theorem Branches.nothing : Branches (fun fork outs s => some (⟨fork,outs⟩,s)) 0 := by
  intro low edges fork outs m s g s' piece _ done
  cases done
  exact ⟨[],by simp,by simpa using piece⟩

theorem Branches.andThen {rest : Nat → List Nat → Construction} (builds : Builds part l) (continues : Branches rest m) :
    Branches (fun fork outs s => do
      let (branch,s) ← part s
      let s := s.connect fork none branch.start
      rest fork (outs ++ branch.outs) s) (l + m) := by
  intro low edges fork outs before s g s' piece unentered accepted
  obtain ⟨⟨branch,s₁⟩,built,done⟩ := Option.bind_eq_some_iff.mp accepted
  obtain ⟨added,edges₁,second⟩ := builds s branch s₁ built
  have joined := piece.branch unentered second
  -- The branch lies beyond the fork, so none of its edges leads back.
  have stillUnentered : ∀ e ∈ edges ++ (added ++ bridges [fork] branch.start), e.target ≠ fork := by
    have beyond : fork < s.size := piece.starts.2
    intro e member
    simp only [List.mem_append,mem_bridges] at member
    rcases member with old | new | ⟨o,_,rfl⟩
    · exact unentered e old
    · have := second.framed.inside e new
      omega
    · exact (beyond.trans_le second.starts.1).ne'
  obtain ⟨later,edges₂,whole⟩ := continues _ _ _ _ _ (s₁.connect fork none branch.start) g s' joined stillUnentered done
  refine ⟨(added ++ bridges [fork] branch.start) ++ later,?_,?_⟩
  · rw [edges₂]
    simp [Sketch.connect,edges₁,bridges]
  · rw [← List.append_assoc,← add_assoc]
    exact whole

theorem Branches.builds {branches : Nat → List Nat → Construction} (adds : Branches branches l) :
    Builds (fun s => do
      let (fork,s) ← s.fresh limit
      branches fork [] s) l := by
  intro s g s' accepted
  obtain ⟨⟨fork,s₁⟩,made,done⟩ := Option.bind_eq_some_iff.mp accepted
  obtain ⟨rfl,size,same⟩ := Sketch.fresh_eq_some made
  have start := Piece.fork s.size
  rw [← size] at start
  obtain ⟨new,edges₁,piece⟩ := adds _ _ _ _ _ s₁ g s' start (by simp) done
  rw [zero_add] at piece
  exact ⟨new,by rw [edges₁,same],piece⟩

theorem repetition_builds (builds : Builds part l) {least : Int} {most : Option Int} (lower : 0 ≤ least)
    (upper : ∀ m ∈ most, least ≤ m) :
    Builds (fun s => do
      let (entry,s) ← pass limit s
      let (sofar,s) ← copies part entry least.toNat s
      match most with
      | none => loop limit part sofar s
      | some most => options limit part sofar (most - least).toNat s) (repeated (Within least most) l) := by
  cases most with
  | none =>
    have extended := (Extends.copies builds least.toNat).trans (Extends.loop limit builds)
    rw [Core.repeated_of_unbounded l lower,← one_mul (_ * _)]
    exact Extends.builds pass_builds extended
  | some most =>
    have extended := (Extends.copies builds least.toNat).trans (Extends.options limit builds (most - least).toNat)
    rw [Core.repeated_of_bounded l lower (upper most rfl),← one_mul (_ * _)]
    exact Extends.builds pass_builds extended

mutual

theorem construct_builds (limit : Nat) : ∀ e : Expr, e.WellFormed → Builds (construct limit e) e.language
  | .empty,_ => pass_builds.of_eq fun s => by rw [construct]
  | .literal [],_ => pass_builds.of_eq fun s => by rw [construct]
  | .literal (c :: cs),scalars => by
    have single := CharClass.Denotes.single (scalars c (List.mem_cons_self ..))
    have later := Extends.spell limit fun x member => scalars x (List.mem_cons_of_mem c member)
    rw [Expr.language,literal_cons (scalars c (List.mem_cons_self ..))]
    exact (Extends.builds (consume_builds single.normal) later).of_eq fun s => by rw [construct]
  | .charClass c,normal => (consume_builds normal).of_eq fun s => by rw [construct]
  | .group child,wellFormed => (construct_builds limit child wellFormed).of_eq fun s => by rw [construct]
  | .concat [],_ => pass_builds.of_eq fun s => by rw [construct]
  | .concat (child :: children),wellFormed =>
    (Extends.builds (construct_builds limit child wellFormed.1)
      (constructAfter_extends limit children wellFormed.2)).of_eq fun s => by rw [construct]
  | .alternation children,wellFormed =>
    (Branches.builds (constructBranches_branches limit children wellFormed)).of_eq fun s => by rw [construct]
  | .repetition least most eager child,wellFormed =>
    (repetition_builds (construct_builds limit child wellFormed.2.2) wellFormed.1 wellFormed.2.1).of_eq
      fun s => by
        unfold construct
        rfl

theorem constructAfter_extends (limit : Nat) : ∀ es : List Expr, Expr.AllWellFormed es →
    Extends (fun f s => constructAfter limit f es s) (Expr.productLanguage es)
  | [],_ => Extends.nothing.of_eq fun f s => by rw [constructAfter]
  | e :: es,wellFormed =>
    (Extends.andThen (construct_builds limit e wellFormed.1)
      (constructAfter_extends limit es wellFormed.2)).of_eq fun f s => by rw [constructAfter]

theorem constructBranches_branches (limit : Nat) : ∀ es : List Expr, Expr.AllWellFormed es →
    Branches (fun fork outs s => constructBranches limit fork outs es s) (Expr.unionLanguage es)
  | [],_ => Branches.nothing.of_eq fun fork outs s => by rw [constructBranches]
  | e :: es,wellFormed =>
    (Branches.andThen (construct_builds limit e wellFormed.1)
      (constructBranches_branches limit es wellFormed.2)).of_eq fun fork outs s => by rw [constructBranches]

end

structure Nfa.Recognises (n : Nfa) (l : Language CodePoint) : Prop where
  framed : Framed 0 n.size n.edges.toList
  start_lt : n.start < n.size
  accept_lt : n.accept < n.size
  walks : ∀ w, Walk n.edges.toList n.start w n.accept ↔ w ∈ l

namespace Nfa

variable {e : Expr} {n : Nfa}

theorem ofExpr?_recognises (wellFormed : e.WellFormed) (accepted : ofExpr? limit e = some n) :
    n.Recognises e.language := by
  obtain ⟨⟨whole,s₁⟩,built,rest⟩ := Option.bind_eq_some_iff.mp accepted
  obtain ⟨⟨accept,s₂⟩,made,done⟩ := Option.bind_eq_some_iff.mp rest
  obtain ⟨new,edges₁,piece⟩ := construct_builds limit e wellFormed .new whole s₁ built
  obtain ⟨rfl,size,same⟩ := Sketch.fresh_eq_some made
  cases done
  have joined := piece.andThen (Piece.pass s₁.size)
  rw [mul_one,← size] at joined
  have final : (s₂.patch whole.outs s₁.size).edges.toList = new ++ ([] ++ bridges whole.outs s₁.size) := by
    rw [Sketch.patch_edges,same,edges₁]
    rfl
  constructor
  · simp only [Sketch.patch_size,final]
    exact joined.framed
  · simp only [Sketch.patch_size]
    exact joined.starts.2
  · simp only [Sketch.patch_size]
    exact (joined.leaves s₁.size (by simp)).2
  · intro w
    rw [final]
    constructor
    · exact fun path => joined.sound s₁.size (by simp) path
    · intro member
      obtain ⟨o,inOuts,path⟩ := joined.complete w member
      rwa [List.mem_singleton.mp inOuts] at path

end Nfa

end LexPattern.Automaton
