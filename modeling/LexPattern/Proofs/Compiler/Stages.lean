import Mathlib
import LexPattern.Compiler.Pipeline
import LexPattern.Proofs.Automaton.Canonical
import LexPattern.Proofs.Automaton.Recognition
import LexPattern.Proofs.Core.WellFormed
import LexPattern.Proofs.Surface.Natural

namespace LexPattern

open Automaton (Dfa Nfa Segment)

theorem Automaton.Dfa.ofNfa_segments {limit : Int} {n : Nfa} {d : Dfa} (determinised : ofNfa limit n = .ok d) :
    d.segments = partition n.labels := by
  simp only [ofNfa] at determinised
  split at determinised
  · cases determinised
    rfl
  · cases determinised

variable {settings : Settings} {file : String} {pattern : ByteArray} {p : Compiled}

theorem compile_eq_ok_iff : compile settings file pattern = .ok p ↔
    p.file = file ∧ p.source = pattern ∧ Surface.parse settings.depth pattern = .ok p.tree ∧
      Core.lower settings.depth settings.names p.tree = .ok p.expr ∧ Dfa.ofExpr settings.states p.expr = .ok p.dfa := by
  constructor
  · intro compiled
    unfold compile at compiled
    split at compiled
    · cases compiled
    · rename_i tree parsed
      split at compiled
      · cases compiled
      · rename_i expr lowered
        split at compiled
        · cases compiled
        · rename_i dfa built
          cases compiled
          exact ⟨rfl,rfl,parsed,lowered,built⟩
  · rintro ⟨rfl,rfl,parsed,lowered,built⟩
    simp only [compile,parsed,lowered,built]

def expression? (settings : Settings) (pattern : ByteArray) : Option Core.Expr :=
  match Surface.parse settings.depth pattern with
  | .error _ => none
  | .ok tree => (Core.lower settings.depth settings.names tree).toOption

-- A pattern whose expression has few enough states for all sets of them is compiled.
theorem exists_compiled {e : Core.Expr} (size : Nat) (expression : expression? settings pattern = some e)
    (counted : (Nfa.ofExpr? (inForce Automaton.defaultLimit settings.states) e).map Nfa.size = some size)
    (room : 2 ^ size ≤ inForce Automaton.defaultLimit settings.states) :
    ∃ p, compile settings file pattern = .ok p ∧ p.expr = e := by
  unfold expression? at expression
  split at expression
  · cases expression
  · rename_i tree parsed
    cases lowered : Core.lower settings.depth settings.names tree with
    | error rejection =>
      rw [lowered] at expression
      cases expression
    | ok e' =>
      rw [lowered] at expression
      cases expression
      obtain ⟨n,constructed,rfl⟩ := Option.map_eq_some_iff.mp counted
      obtain ⟨raw,determinised⟩ := Dfa.ofNfa_isOk n room
      have built := Dfa.ofExpr_eq_ok_iff.mpr ⟨n,raw,constructed,determinised,rfl⟩
      exact ⟨⟨file,pattern,tree,e,raw.minimize⟩,compile_eq_ok_iff.mpr ⟨rfl,rfl,parsed,lowered,built⟩,rfl⟩

theorem compile_expr_wellFormed (compiled : compile settings file pattern = .ok p) : p.expr.WellFormed := by
  obtain ⟨_,_,parsed,lowered,_⟩ := compile_eq_ok_iff.mp compiled
  exact Core.lower_wellFormed (Surface.parse_natural parsed) lowered

-- The result is the least one of an automaton that accepts what the expression matches, over the segments of its labels.
theorem compile_minimized (compiled : compile settings file pattern = .ok p) :
    ∃ (n : Nfa) (raw : Dfa), Nfa.ofExpr? (inForce Automaton.defaultLimit settings.states) p.expr = some n ∧
      (∀ c ∈ n.labels, c.Tidy) ∧ raw.WellFormed ∧ (∀ w, raw.accepts w = true ↔ w ∈ p.expr.language) ∧ raw.segments = Automaton.partition n.labels ∧
      raw.minimize = p.dfa := by
  obtain ⟨n,raw,constructed,determinised,minimized⟩ := Dfa.ofExpr_eq_ok_iff.mp (compile_eq_ok_iff.mp compiled).2.2.2.2
  have recognises := Nfa.ofExpr?_recognises (compile_expr_wellFormed compiled) constructed
  obtain ⟨inOrder,accepts⟩ := Dfa.ofNfa_recognises recognises determinised
  exact ⟨n,raw,constructed,Automaton.labels_tidy recognises.framed,inOrder,accepts,Dfa.ofNfa_segments determinised,
    minimized⟩

theorem compile_accepts (compiled : compile settings file pattern = .ok p) (w : List CodePoint) :
    p.dfa.accepts w = true ↔ w ∈ p.expr.language := by
  obtain ⟨n,raw,_,_,inOrder,accepts,_,minimized⟩ := compile_minimized compiled
  rw [← minimized,Dfa.minimize_accepts inOrder,accepts]

theorem compile_segments {segments : Array Segment} (compiled : compile settings file pattern = .ok p)
    (cut : (Nfa.ofExpr? (inForce Automaton.defaultLimit settings.states) p.expr).map
      (fun n => Automaton.partition n.labels) = some segments) :
    p.dfa.segments = segments := by
  obtain ⟨n,raw,constructed,_,inOrder,_,same,minimized⟩ := compile_minimized compiled
  rw [constructed,Option.map_some,Option.some.injEq] at cut
  rw [← minimized,Dfa.minimize_segments inOrder,same,cut]

theorem compile_finished (compiled : compile settings file pattern = .ok p) : p.dfa.Finished := by
  obtain ⟨n,raw,_,tidy,inOrder,_,segments,minimized⟩ := compile_minimized compiled
  rw [← minimized]
  refine ⟨Dfa.minimize_canonical inOrder,Dfa.minimize_full inOrder,?_⟩
  rw [Dfa.minimize_segments inOrder,segments]
  exact fun s member => Automaton.partition_ends tidy member

end LexPattern
