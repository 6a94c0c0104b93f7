import Mathlib
import LexPattern.Proofs.Core.WellFormed
import LexPattern.Proofs.Surface.Derivation
import LexPattern.Proofs.Surface.Natural
import LexPattern.Proofs.Text.Digits

namespace LexPattern

namespace Surface

open Text (Position Span greatestInteger)

def Amount.counts : Amount → List Int
  | .zeroOrMore | .oneOrMore | .zeroOrOne => []
  | .exactly n | .atLeast n | .atMost n => n.toList
  | .between n m => n.toList ++ m.toList

def Amount.Fits (amount : Amount) : Prop := ∀ count ∈ amount.counts, count ≤ greatestInteger

mutual

-- Branches and items are listed only where there are two or more of them, and all counts fit.
def Node.Sized : Node → Prop
  | .alternation _ branches => 2 ≤ branches.length ∧ NodesSized branches
  | .concatenation _ items => 2 ≤ items.length ∧ NodesSized items
  | .group _ _ child => child.Sized
  | .quantification _ amount _ child => amount.Fits ∧ child.Sized
  | .conditional _ _ branches => branches.Sized
  | .absent _ child => child.Sized
  | .quote _ _ => True
  | .trivia _ _ => True
  | .empty _ => True
  | .atom _ => True
  | .customClass _ _ _ => True
  | .interpolation _ _ => True

def NodesSized : List Node → Prop
  | [] => True
  | n :: ns => n.Sized ∧ NodesSized ns

end

variable {eof : Position} {room : Nat} {t : Token} {ts rest : List Token} {n : Node} {ns : List Node} {span : Span}

theorem nodesSized_iff : NodesSized ns ↔ ∀ n ∈ ns, n.Sized := by
  induction ns with
  | nil => simp [NodesSized]
  | cons n ns ih => simp [NodesSized,ih]

section Counts

theorem readCount_le {digits : List Char} {count : Int} (read : count ∈ (readCount digits).toList) :
    count ≤ greatestInteger := by
  unfold readCount at read
  split at read
  · rename_i value found
    cases Option.mem_toList.mp read
    exact Int.ofNat_le.mpr (Text.readNumeral_le found)
  · cases read

theorem readBounds_fits {body : List Char} : (readBounds body).Fits := by
  intro count written
  unfold readBounds at written
  dsimp only at written
  split at written
  · exact readCount_le written
  · split at written
    · exact readCount_le written
    · split at written
      · exact readCount_le written
      · rcases List.mem_append.mp written with lower | upper
        · exact readCount_le lower
        · exact readCount_le upper

theorem readAmount_fits {lexeme : List Char} : (readAmount lexeme).1.Fits := by
  unfold readAmount
  split
  case h_4 => exact readBounds_fits
  all_goals
    intro count written
    cases written

end Counts

theorem sequence_sized (each : ∀ n ∈ ns, n.Sized) : (sequence span ns).Sized := by
  match ns with
  | [] =>
    rw [sequence,Node.Sized]
    trivial
  | [n] => exact each n (by simp)
  | n :: m :: ns =>
    change (Node.concatenation span (n :: m :: ns)).Sized
    rw [Node.Sized,nodesSized_iff]
    exact ⟨by simp,each⟩

theorem choice_sized (some : ns ≠ []) (each : ∀ n ∈ ns, n.Sized) : (choice span ns).Sized := by
  match ns with
  | [] => exact absurd rfl some
  | [n] => exact each n (by simp)
  | n :: m :: ns =>
    change (Node.alternation span (n :: m :: ns)).Sized
    rw [Node.Sized,nodesSized_iff]
    exact ⟨by simp,each⟩

theorem item_sized (read : Builder.item t = .ok n) : n.Sized := by
  unfold Builder.item at read
  dsimp only at read
  split at read
  case h_10 =>
    split at read
    · cases read
      rw [Node.Sized]
      trivial
    · cases read
  all_goals
    cases read
    rw [Node.Sized]
    trivial

theorem close_sized {enclosure : Enclosure} (inner : n.Sized) : (enclosure.close span n).Sized := by
  cases enclosure with
  | group kind =>
    rw [Enclosure.close,Node.Sized]
    exact inner
  | absent =>
    rw [Enclosure.close,Node.Sized]
    exact inner
  | conditional condition =>
    rw [Enclosure.close,Node.Sized]
    exact inner

-- There is always a branch, though it may be without items.
def Phrase.Sized : Phrase → Prop
  | expression n | branch n | item n | atom n => n.Sized
  | branches ns => ns ≠ [] ∧ ∀ n ∈ ns, n.Sized
  | items ns => ∀ n ∈ ns, n.Sized
  | operation _ | members _ | member _ => True

theorem Derives.sized {phrase : Phrase} (derived : Derives eof room phrase ts rest) : phrase.Sized := by
  induction derived with
  | expression _ ih => exact choice_sized ih.1 ih.2
  | firstBranch _ ih => exact ⟨by simp,List.forall_mem_singleton.mpr ih⟩
  | nextBranch _ _ _ before next =>
    exact ⟨by simp,List.forall_mem_append.mpr ⟨before.2,List.forall_mem_singleton.mpr next⟩⟩
  | branch _ ih => exact sequence_sized ih
  | noItem => exact List.forall_mem_nil _
  | nextItem _ _ before next => exact List.forall_mem_append.mpr ⟨before,List.forall_mem_singleton.mpr next⟩
  | once _ ih => exact ih
  | quantified _ _ ih =>
    rw [Phrase.Sized,Node.Sized]
    exact ⟨readAmount_fits,ih⟩
  | enclosed _ _ _ ih => exact close_sized ih
  | bracketed _ _ _ _ =>
    rw [Phrase.Sized,Node.Sized]
    trivial
  | settings _ _ =>
    rw [Phrase.Sized,Node.Sized]
    trivial
  | token read => exact item_sized read
  | _ => trivial

theorem parse_sized {limit : Int} {pattern : ByteArray} (parsed : parse limit pattern = .ok n) : n.Sized := by
  unfold parse at parsed
  split at parsed
  · cases parsed
  · exact (derives_of_ofTokens parsed).sized

end Surface

namespace Core

open Surface (Node Amount Atom NodesSized)
open Text (Span greatestInteger)

namespace Expr

mutual

def Sized : Expr → Prop
  | empty => True
  | literal codes => codes ≠ []
  | charClass _ => True
  | group child => child.Sized
  | concat children => 2 ≤ children.length ∧ AllSized children
  | alternation children => 2 ≤ children.length ∧ AllSized children
  | repetition least most _ child =>
    least ≤ greatestInteger ∧ (∀ m ∈ most, m ≤ greatestInteger) ∧ child.Sized

def AllSized : List Expr → Prop
  | [] => True
  | e :: es => e.Sized ∧ AllSized es

end

end Expr

variable {ctx : Context} {e : Expr} {es : List Expr}

theorem amountBounds_le {amount : Amount} {least most : Int} (fits : amount.Fits)
    (bounds : amountBounds amount = some (least,most)) : least ≤ greatestInteger ∧ most ≤ greatestInteger := by
  cases amount with
  | zeroOrMore | oneOrMore | zeroOrOne =>
    cases bounds
    decide
  | exactly n =>
    obtain ⟨count,rfl,same⟩ := Option.map_eq_some_iff.mp bounds
    cases same
    exact ⟨fits least (by simp [Amount.counts]),fits least (by simp [Amount.counts])⟩
  | atLeast n =>
    obtain ⟨count,rfl,same⟩ := Option.map_eq_some_iff.mp bounds
    cases same
    exact ⟨fits least (by simp [Amount.counts]),by decide⟩
  | atMost n =>
    obtain ⟨count,rfl,same⟩ := Option.map_eq_some_iff.mp bounds
    cases same
    exact ⟨by decide,fits most (by simp [Amount.counts])⟩
  | between n m =>
    obtain ⟨lower,rfl,rest⟩ := Option.bind_eq_some_iff.mp bounds
    obtain ⟨upper,rfl,same⟩ := Option.map_eq_some_iff.mp rest
    cases same
    exact ⟨fits least (by simp [Amount.counts]),fits most (by simp [Amount.counts])⟩

theorem lowerAmount_le {span : Span} {amount : Amount} {least : Int} {most : Option Int} (fits : amount.Fits)
    (lowered : lowerAmount span amount = .ok (least,most)) : least ≤ greatestInteger ∧ ∀ m ∈ most, m ≤ greatestInteger := by
  obtain ⟨upper,bounds,rfl,_⟩ := lowerAmount_eq_ok lowered
  obtain ⟨lowerFits,upperFits⟩ := amountBounds_le fits bounds
  refine ⟨lowerFits,fun m bounded => ?_⟩
  obtain ⟨_,rfl⟩ := mem_upperBound.mp bounded
  exact upperFits

theorem lowerAtom_sized {a : Atom} (lowered : lowerAtom ctx a = .ok e) : e.Sized := by
  unfold lowerAtom at lowered
  split at lowered
  · cases lowered
    rw [Expr.Sized]
    trivial
  · split at lowered
    · exact absurd lowered reject_ne_ok
    · obtain ⟨c,_,result⟩ := bind_eq_ok.mp lowered
      cases result
      rw [Expr.Sized]
      simp

theorem allSized_of_sized {ns : List Node} (sized : NodesSized ns)
    (children : List.Forall₂ (fun n e => n.Sized → e.Sized) ns es) : Expr.AllSized es := by
  induction children with
  | nil =>
    rw [Expr.AllSized]
    trivial
  | cons first _ ih =>
    rw [NodesSized] at sized
    rw [Expr.AllSized]
    exact ⟨first sized.1,ih sized.2⟩

theorem sized_passes : Passes ctx fun _ n e => n.Sized → e.Sized where
  alternation children sized := by
    rw [Node.Sized] at sized
    rw [Expr.Sized,← children.length_eq]
    exact ⟨sized.1,allSized_of_sized sized.2 children⟩
  concatenation children sized := by
    rw [Node.Sized] at sized
    rw [Expr.Sized,← children.length_eq]
    exact ⟨sized.1,allSized_of_sized sized.2 children⟩
  group _ inside sized := by
    rw [Node.Sized] at sized
    rw [Expr.Sized]
    exact inside sized
  quantification bounded inside sized := by
    rw [Node.Sized] at sized
    obtain ⟨lower,upper⟩ := lowerAmount_le sized.1 bounded
    rw [Expr.Sized]
    exact ⟨lower,upper,inside sized.2⟩
  nothing _ _ := by
    rw [Expr.Sized]
    trivial
  quote written _ := by
    rw [Expr.Sized]
    simpa [String.isEmpty_eq_false_iff] using written
  trivia _ := by
    rw [Expr.Sized]
    trivial
  empty _ := by
    rw [Expr.Sized]
    trivial
  atom lowered _ := lowerAtom_sized lowered
  customClass _ _ := by
    rw [Expr.Sized]
    trivial

-- Whatever the limits of depth are and however names are resolved, an expression that comes out of both stages is in
-- order throughout.
theorem lower_parse_wellFormed (depth limit : Int) (names : String → Option String) (pattern : ByteArray) (n : Node) (e : Expr)
    (parsed : Surface.parse depth pattern = .ok n) (lowered : lower limit names n = .ok e) : e.WellFormed ∧ e.Sized :=
  ⟨lower_wellFormed (Surface.parse_natural parsed) lowered,sized_passes.lowerNode n 0 e lowered (Surface.parse_sized parsed)⟩

theorem toOption_eq_some_iff {ε α : Type} {outcome : Except ε α} {a : α} : outcome.toOption = some a ↔ outcome = .ok a := by
  cases outcome <;> simp [Except.toOption]

def mixed : Expr :=
  .alternation [.repetition 0 (some 0x7FFFFFFFFFFFFFFF) true (.literal [0xE9]),
    .concat [.charClass (CharClass.ofRanges [⟨0x62,0x64⟩]).complement,.literal [0x01]]]

theorem lower_parse_wellFormed_mixed :
    ∃ n, Surface.parse 2 "\\N\x7bacute\x7d\x7b0,9223372036854775807\x7d|[^b-d]\\cA".toUTF8 = .ok n ∧
      lower 2 (fun _ => some "é") n = .ok mixed ∧ mixed.WellFormed ∧ mixed.Sized := by
  have both : (Surface.parse 2 "\\N\x7bacute\x7d\x7b0,9223372036854775807\x7d|[^b-d]\\cA".toUTF8).toOption.bind
      (fun n => (lower 2 (fun _ => some "é") n).toOption) = some mixed := by cbv
  obtain ⟨n,parsed,lowered⟩ := Option.bind_eq_some_iff.mp both
  rw [toOption_eq_some_iff] at parsed lowered
  exact ⟨n,parsed,lowered,lower_parse_wellFormed 2 2 _ _ n mixed parsed lowered⟩

end Core

end LexPattern
