import Mathlib
import LexPattern.Proofs.Automaton.Product
import LexPattern.Proofs.Automaton.Shortest
import LexPattern.Proofs.Compiler.Stages

namespace LexPattern

open Automaton (Dfa Nfa)

namespace Automaton.Dfa

variable {a b : Dfa}

theorem inter_language (aWellFormed : a.WellFormed) (bWellFormed : b.WellFormed) (aEnds : a.Cuttable)
    (bEnds : b.Cuttable) : (a.inter b).language = a.language ⊓ b.language := by
  ext w
  change (_ ∧ (a.inter b).accepts w = true) ↔ (_ ∧ a.accepts w = true) ∧ (_ ∧ b.accepts w = true)
  rw [inter_accepts_eq aWellFormed bWellFormed aEnds bEnds,Bool.and_eq_true]
  tauto

theorem inter_shortest?_first (aFinished : a.Finished) (bFinished : b.Finished) :
    First (a.language ⊓ b.language) (a.inter b).shortest? := by
  have aWellFormed := aFinished.canonical.wellFormed
  have bWellFormed := bFinished.canonical.wellFormed
  rw [← inter_language aWellFormed bWellFormed (.of_le_greatest aFinished.le_greatest)
    (.of_le_greatest bFinished.le_greatest)]
  exact shortest?_first (inter_wellFormed aWellFormed bWellFormed aFinished.le_greatest bFinished.le_greatest)

end Automaton.Dfa

variable {settings settings' : Settings} {file file' : String} {pattern pattern' : ByteArray} {p q : Compiled}

theorem overlap?_first (compiled : compile settings file pattern = .ok p)
    (compiled' : compile settings' file' pattern' = .ok q) :
    Automaton.First (p.dfa.language ⊓ q.dfa.language) (p.overlap? q) :=
  Dfa.inter_shortest?_first (compile_finished compiled) (compile_finished compiled')

theorem overlap?_comm (compiled : compile settings file pattern = .ok p)
    (compiled' : compile settings' file' pattern' = .ok q) :
    p.overlap? q = q.overlap? p := by
  have first := overlap?_first compiled compiled'
  rw [inf_comm] at first
  exact first.unique (overlap?_first compiled' compiled)

-- The text that a search finds is the first accepted one, by length and then by characters; it finds none only where
-- there is none. So neither the segments nor minimisation matter, and an overlap is the same from both sides.
theorem shortest?_is_least :
    (∀ d : Dfa, d.WellFormed →
      (∀ w : List CodePoint, d.shortest? = some w ↔
        w ∈ d.language ∧ ∀ v ∈ d.language, v = w ∨ List.Shortlex (· < ·) w v) ∧
      (d.shortest?.isSome = true ↔ ∃ w, w ∈ d.language) ∧
      (d.isEmpty = true ↔ ∀ w, w ∉ d.language) ∧
      d.minimize.shortest? = d.shortest?) ∧
    (∀ d e : Dfa, d.WellFormed → e.WellFormed → d.language = e.language → d.shortest? = e.shortest?) ∧
    ∀ (settings settings' : Settings) (file file' : String) (pattern pattern' : ByteArray) (p q : Compiled),
      compile settings file pattern = .ok p → compile settings' file' pattern' = .ok q → p.overlap? q = q.overlap? p := by
  refine ⟨fun d wellFormed => ⟨fun w => Dfa.shortest?_eq_some_iff wellFormed,?_,?_,?_⟩,fun d e => Dfa.shortest?_congr,
    fun _ _ _ _ _ _ _ _ => overlap?_comm⟩
  · rw [← Option.not_isNone,Bool.not_eq_true',← Bool.not_eq_true,Option.isNone_iff_eq_none,
      Dfa.shortest?_eq_none_iff wellFormed,not_forall_not]
  · rw [Dfa.isEmpty,Option.isNone_iff_eq_none,Dfa.shortest?_eq_none_iff wellFormed]
  · exact Dfa.shortest?_congr (Dfa.minimize_wellFormed wellFormed) wellFormed (Dfa.minimize_language wellFormed)

-- Two ways to the accepting state, one of which starts with a later segment.
def detour : Dfa where
  segments := #[⟨0x61,0x62⟩,⟨0x63,0x63⟩]
  start := 0
  states := #[⟨false,#[some 2,some 1]⟩,⟨false,#[some 3,none]⟩,⟨false,#[none,some 3]⟩,⟨true,#[none,none]⟩]

theorem shortest?_is_least_detour : detour.WellFormed ∧
    ([0x61,0x63] ∈ detour.language ∧ ∀ v ∈ detour.language, v = [0x61,0x63] ∨ List.Shortlex (· < ·) [0x61,0x63] v) ∧
    (Dfa.joined.language = Dfa.parted.language ∧ Dfa.joined.shortest? = Dfa.parted.shortest?) ∧
    ∃ p q, compile {} "" "a|b+".toUTF8 = .ok p ∧ compile {} "" "[b-c]".toUTF8 = .ok q ∧ p.overlap? q = q.overlap? p := by
  obtain ⟨alone,together,overlaps⟩ := shortest?_is_least
  have wellFormed : detour.WellFormed := .of_states (by decide) (by decide) (by decide) (by decide) (by decide)
  have found : detour.shortest? = some [0x61,0x63] := by cbv
  have same : Dfa.joined.language = Dfa.parted.language :=
    Dfa.language_congr fun w _ => Dfa.joined_accepts_eq_parted w
  have first : expression? {} "a|b+".toUTF8 =
      some (.alternation [.literal [0x61],.repetition 1 none true (.literal [0x62])]) := by cbv
  have second : expression? {} "[b-c]".toUTF8 = some (.charClass (.ofRanges [⟨0x62,0x63⟩])) := by cbv
  obtain ⟨p,compiled,_⟩ := exists_compiled 10 first (by decide) (by decide)
  obtain ⟨q,compiled',_⟩ := exists_compiled 3 second (by decide) (by decide)
  exact ⟨wellFormed,((alone detour wellFormed).1 _).mp found,
    ⟨same,together _ _ Dfa.joined_wellFormed Dfa.parted_wellFormed same⟩,p,q,compiled,compiled',
    overlaps _ _ _ _ _ _ p q compiled compiled'⟩

end LexPattern
