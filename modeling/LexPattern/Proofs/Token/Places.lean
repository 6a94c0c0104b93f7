import Mathlib
import LexPattern.Proofs.Text.Utf8

namespace LexPattern.Text

-- The position after a text, by its bytes, its newlines and its characters since the last newline.
def placeAfter (front : List Char) : Position :=
  ⟨(String.ofList front).utf8ByteSize,1 + front.count '\n',1 + (front.reverse.takeWhile (· ≠ '\n')).length⟩

-- The span is that of the piece, at one of the places where the text has it.
def Span.Covers (span : Span) (text piece : List Char) : Prop :=
  ∃ front back, text = front ++ piece ++ back ∧ span = ⟨placeAfter front,placeAfter (front ++ piece)⟩

variable {front : List Char}

theorem placeAfter_nil : placeAfter [] = .start := by
  simp [placeAfter,Position.start]

theorem placeAfter_next (c : Char) : (placeAfter front).next c = placeAfter (front ++ [c]) := by
  have size : (String.ofList (front ++ [c])).utf8ByteSize = (String.ofList front).utf8ByteSize + c.utf8Size := by
    rw [String.ofList_append,String.utf8ByteSize_append]
    simp
  unfold Position.next placeAfter
  rw [size]
  split
  · rename_i newline
    subst newline
    simp [Nat.add_assoc]
  · rename_i other
    simp [other,Nat.add_comm 1]

theorem placeAfter_advance (cs : List Char) : (placeAfter front).advance cs = placeAfter (front ++ cs) := by
  induction cs generalizing front with
  | nil => rw [List.append_nil]; rfl
  | cons c cs ih =>
    have further : ((placeAfter front).next c).advance cs = placeAfter (front ++ [c] ++ cs) := by
      rw [placeAfter_next,ih]
    rwa [List.append_assoc] at further

theorem start_advance (cs : List Char) : Position.start.advance cs = placeAfter cs := by
  rw [← placeAfter_nil,placeAfter_advance,List.nil_append]

theorem placeAfter_offset_le (cs : List Char) : (placeAfter front).offset ≤ (placeAfter (front ++ cs)).offset := by
  simp [placeAfter]

theorem Span.Covers.forward {span : Span} {text piece : List Char} (covers : span.Covers text piece) :
    span.start.offset ≤ span.stop.offset := by
  obtain ⟨front,_,_,rfl⟩ := covers
  exact placeAfter_offset_le piece

end LexPattern.Text

namespace LexPattern.Token

open Text (Position placeAfter)

def written (ts : List Token) : List Char := ts.flatMap lexeme

-- The tokens stand one after another behind a text.
def Stand (front : List Char) : List Token → Prop
  | [] => True
  | t :: ts => t.pos = placeAfter front ∧ Stand (front ++ t.lexeme) ts

variable {front : List Char} {t : Token} {ts us : List Token}

theorem written_cons : written (t :: ts) = t.lexeme ++ written ts := List.flatMap_cons

theorem written_append : written (ts ++ us) = written ts ++ written us := List.flatMap_append

theorem Stand.stop (stand : Stand front (t :: ts)) : t.stop = placeAfter (front ++ t.lexeme) := by
  rw [Token.stop,stand.1,Text.placeAfter_advance]

theorem stand_append : Stand front (ts ++ us) ↔ Stand front ts ∧ Stand (front ++ written ts) us := by
  induction ts generalizing front with
  | nil => simp [Stand,written]
  | cons t ts ih => simp [Stand,ih,written,and_assoc]

theorem lexFrom_stand (depth : Nat) (front cs : List Char) :
    Stand front (lexFrom depth (placeAfter front) cs) ∧ written (lexFrom depth (placeAfter front) cs) = cs := by
  generalize place : placeAfter front = pos
  fun_induction lexFrom depth pos cs generalizing front with
  | case1 => exact ⟨trivial,rfl⟩
  | case2 depth pos c cs kind x rest found ih =>
    subst place
    obtain ⟨stand,same⟩ := ih (front ++ x) (Text.placeAfter_advance x).symm
    obtain ⟨split,_⟩ := firstLexeme?_append found
    refine ⟨⟨rfl,stand⟩,?_⟩
    rw [split,written,List.flatMap_cons]
    exact congrArg (x ++ ·) same
  | case3 depth pos c cs found ih =>
    subst place
    obtain ⟨stand,same⟩ := ih (front ++ [c]) (Text.placeAfter_next c).symm
    refine ⟨⟨rfl,stand⟩,?_⟩
    rw [written,List.flatMap_cons]
    exact congrArg (c :: ·) same

def Finish (text front : List Char) (ts : List Token) : Prop := Stand front ts ∧ text = front ++ written ts

theorem Finish.skip {text : List Char} (finish : Finish text front (ts ++ us)) : Finish text (front ++ written ts) us := by
  obtain ⟨stand,rfl⟩ := finish
  refine ⟨(stand_append.mp stand).2,?_⟩
  rw [written_append,List.append_assoc]

theorem Finish.pos {text : List Char} (finish : Finish text [] ts) (member : t ∈ ts) :
    ∃ before, before <+: text ∧ t.pos = placeAfter before := by
  obtain ⟨us,vs,rfl⟩ := List.append_of_mem member
  refine ⟨written us,?_,finish.skip.1.1⟩
  rw [finish.2,written_append]
  exact List.prefix_append _ _

theorem lex_finish (cs : List Char) : Finish cs [] (lex cs) := by
  have stand := lexFrom_stand 0 [] cs
  rw [Text.placeAfter_nil] at stand
  exact ⟨stand.1,stand.2.symm⟩

end LexPattern.Token
