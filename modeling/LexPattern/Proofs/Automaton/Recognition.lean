import Mathlib
import LexPattern.Compiler.Pipeline
import LexPattern.Proofs.Automaton.Determinisation
import LexPattern.Proofs.Automaton.Minimality

namespace LexPattern.Automaton

open LexPattern.Core (Expr)

variable {limit : Int} {e : Expr} {n : Nfa} {d : Dfa}

theorem Nfa.ofExpr_eq_ok_iff : Nfa.ofExpr limit e = .ok n ↔ Nfa.ofExpr? (inForce defaultLimit limit) e = some n := by
  unfold Nfa.ofExpr
  cases constructed : Nfa.ofExpr? (inForce defaultLimit limit) e <;> simp [constructed]

namespace Dfa

theorem ofExpr_eq_ok_iff : ofExpr limit e = .ok d ↔
    ∃ n raw, Nfa.ofExpr? (inForce defaultLimit limit) e = some n ∧ ofNfa limit n = .ok raw ∧ raw.minimize = d := by
  unfold ofExpr Nfa.ofExpr
  cases constructed : Nfa.ofExpr? (inForce defaultLimit limit) e with
  | none => simp [bind,Except.bind,constructed]
  | some n =>
    cases determinised : ofNfa limit n with
    | error error => simp [bind,Except.bind,constructed,determinised]
    | ok raw => simp [bind,Except.bind,pure,Except.pure,constructed,determinised]

-- An automaton that was built accepts a text exactly when the expression matches it, whatever the limit was.
theorem ofExpr_accepts_iff (limit : Int) (e : Expr) (d : Dfa) (wellFormed : e.WellFormed)
    (built : ofExpr limit e = .ok d) (w : List CodePoint) : d.accepts w = true ↔ w ∈ e.language := by
  obtain ⟨n,raw,constructed,determinised,rfl⟩ := ofExpr_eq_ok_iff.mp built
  have recognises := Nfa.ofExpr?_recognises wellFormed constructed
  obtain ⟨inOrder,accepts⟩ := ofNfa_recognises recognises determinised
  rw [minimize_accepts inOrder,accepts]

def nested : Expr :=
  .concat [.repetition 1 (some 2) true (.charClass (.ofRanges [⟨0x61,0x63⟩])),
    .repetition 0 none false (.alternation [.literal [0x62,0x63],.empty])]

theorem ofExpr_accepts_iff_nested : nested.WellFormed ∧
    ∃ d, ofExpr 32768 nested = .ok d ∧ ∀ w, d.accepts w = true ↔ w ∈ nested.language := by
  have normal : (CharClass.ofRanges [⟨0x61,0x63⟩]).Normal :=
    (CharClass.Denotes.range (by decide) (by decide) (by decide)).normal
  have wellFormed : nested.WellFormed := by
    simp only [nested,Expr.WellFormed,Expr.AllWellFormed]
    exact ⟨⟨by decide,by decide,normal⟩,⟨by decide,by decide,⟨by decide,trivial,trivial⟩⟩,trivial⟩
  have constructs : ∃ n, Nfa.ofExpr? (inForce defaultLimit 32768) nested = some n ∧ n.size = 15 :=
    Option.map_eq_some_iff.mp (by decide)
  obtain ⟨n,constructed,size⟩ := constructs
  have determinises : ∃ raw, ofNfa 32768 n = .ok raw := ofNfa_isOk n (by rw [size]; decide)
  obtain ⟨raw,determinised⟩ := determinises
  have built := ofExpr_eq_ok_iff.mpr ⟨n,raw,constructed,determinised,rfl⟩
  exact ⟨wellFormed,raw.minimize,built,ofExpr_accepts_iff 32768 nested raw.minimize wellFormed built⟩

end Dfa

end LexPattern.Automaton
