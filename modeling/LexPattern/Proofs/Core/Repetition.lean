import Mathlib
import LexPattern.Core.Lowering
import LexPattern.Proofs.Surface.Counts
import LexPattern.Proofs.Text.Digits

namespace LexPattern.Token

def Numeral.value (n : Numeral) : Nat := Text.decimalValue n.digits

namespace CountForm

def numerals : CountForm → List Numeral
  | exactly n | atLeast n | atMost n => [n]
  | between n m => [n,m]

def least : CountForm → Nat
  | exactly n | atLeast n | between n _ => n.value
  | atMost _ => 0

def most : CountForm → Option Nat
  | exactly n | atMost n | between _ n => some n.value
  | atLeast _ => none

def Representable (form : CountForm) : Prop := ∀ n ∈ form.numerals, n.value ≤ Text.greatestInteger

def Ordered (form : CountForm) : Prop := ∀ most ∈ form.most, form.least ≤ most

end CountForm

end LexPattern.Token

namespace LexPattern.Core

open Surface (Amount Greed Node amountOf readCount parse parse_counted)
open Text (Position Span)
open Token (CountForm Numeral)

variable {span : Span} {form : CountForm}

section Amounts

theorem readNumeral_digits (n : Numeral) : Text.readNumeral 10 Text.greatestInteger n.digits =
    if n.value ≤ Text.greatestInteger then .ok n.value else .error .tooLarge := by
  have digits : ∀ c ∈ n.digits, '0' ≤ c ∧ c ≤ '9' := fun c member => by simpa [Token.isDigit] using n.decimal c member
  exact Text.readNumeral_decimal n.visible digits

theorem readCount_of_le {n : Numeral} (fits : n.value ≤ Text.greatestInteger) :
    readCount n.digits = some (n.value : Int) := by
  rw [readCount,readNumeral_digits,if_pos fits]

theorem readCount_of_lt {n : Numeral} (large : Text.greatestInteger < n.value) : readCount n.digits = none := by
  rw [readCount,readNumeral_digits,if_neg (Nat.not_le.mpr large)]

def boundOf (most : Option Nat) : Int := (most.map Nat.cast).getD unbounded

theorem upperBound_boundOf (most : Option Nat) : upperBound (boundOf most) = most.map Nat.cast := by
  cases most with
  | none => rfl
  | some most =>
    have number : ¬ (most : Int) = unbounded := by
      rw [unbounded]
      omega
    exact if_neg number

theorem amountBounds_of_representable (fits : form.Representable) :
    amountBounds (amountOf form) = some ((form.least : Int),boundOf form.most) := by
  have count {n : Numeral} (member : n ∈ form.numerals) := readCount_of_le (fits n member)
  cases form with
  | exactly n | atLeast n | atMost n =>
    rw [amountOf,count List.mem_cons_self]
    rfl
  | between n m =>
    rw [amountOf,count List.mem_cons_self,count (List.mem_cons_of_mem n List.mem_cons_self)]
    rfl

theorem amountBounds_eq_none (large : ¬ form.Representable) : amountBounds (amountOf form) = none := by
  simp only [CountForm.Representable,not_forall,Nat.not_le] at large
  obtain ⟨n,member,large⟩ := large
  have none := readCount_of_lt large
  cases form with
  | exactly m | atLeast m | atMost m =>
    cases List.mem_singleton.mp member
    rw [amountOf,none]
    rfl
  | between m k =>
    simp only [CountForm.numerals,List.mem_cons,List.not_mem_nil,or_false] at member
    obtain rfl | rfl := member
    · rw [amountOf,none]
      rfl
    · rw [amountOf,none]
      cases readCount m.digits with
      | none => rfl
      | some count => rfl

theorem ordered_iff : form.Ordered ↔
    ¬ ((form.least : Int) < 0 ∨ (boundOf form.most ≠ unbounded ∧ boundOf form.most < form.least)) := by
  unfold CountForm.Ordered boundOf unbounded
  cases form.most with
  | none => simp
  | some most =>
    simp only [Option.mem_def,Option.some.injEq,forall_eq',Option.map_some,Option.getD_some]
    omega

theorem lowerAmount_of_ordered (fits : form.Representable) (ordered : form.Ordered) :
    lowerAmount span (amountOf form) = .ok ((form.least : Int),form.most.map Nat.cast) := by
  simp only [lowerAmount,amountBounds_of_representable fits,if_neg (ordered_iff.mp ordered),upperBound_boundOf]

theorem lowerAmount_of_not_ordered (fits : form.Representable) (disordered : ¬ form.Ordered) :
    lowerAmount span (amountOf form) = reject span (.badBounds form.least (boundOf form.most)) := by
  rw [ordered_iff,not_not] at disordered
  simp only [lowerAmount,amountBounds_of_representable fits,if_pos disordered]

theorem lowerAmount_of_large (large : ¬ form.Representable) : lowerAmount span (amountOf form) = reject span .badCount := by
  simp only [lowerAmount,amountBounds_eq_none large]

end Amounts

section Lowering

variable {depth limit : Int} {names : String → Option String} {amount : Amount} {greed : Greed} {n : Node}

theorem entered (span : Span) : Context.enter ⟨inForce defaultDepth limit,names⟩ 0 span = .ok () :=
  if_neg (Nat.not_lt.mpr (inForce_pos (by decide) limit))

theorem lower_possessive : lower limit names (.quantification span amount .possessive n) = reject span .possessive := by
  simp only [lower,lowerNode,entered]
  rfl

theorem lower_quantification (lenient : greed ≠ .possessive) :
    lower limit names (.quantification span amount greed n) = (do
      let (least,most) ← lowerAmount span amount
      let e ← lowerNode ⟨inForce defaultDepth limit,names⟩ 1 n
      return .repetition least most (greed == .eager) e) := by
  simp only [lower,lowerNode,entered,if_neg lenient]
  rfl

-- A count behind an item repeats it as often as the numbers say, if each can be represented and they are in order. Whether
-- a question mark follows tells which way it is matched; behind a plus sign the numbers do not matter.
theorem lower_counted {x : String} {t : Token} {e : Expr} (single : Token.lex x.toList = [t])
    (listed : t.kind ∈ [.char,.escaped,.scalar]) (parsed : parse depth x.toUTF8 = .ok n)
    (lowered : lower limit names n = .ok e) (form : CountForm) (greed : Greed) :
    ∃ span amount,
      parse depth (x ++ String.ofList (form.lexeme greed.mark)).toUTF8 = .ok (.quantification span amount greed n) ∧
      span = ⟨.start,Position.start.advance (x.toList ++ form.lexeme greed.mark)⟩ ∧
      (greed ≠ .possessive → form.Representable → form.Ordered →
        lower limit names (.quantification span amount greed n) =
          .ok (.repetition form.least (form.most.map Nat.cast) (greed ≠ .reluctant) e)) ∧
      (greed ≠ .possessive → ¬ (form.Representable ∧ form.Ordered) → ∃ reason,
        lower limit names (.quantification span amount greed n) = .error ⟨span,reason⟩ ∧ reason.severity = .invalid ∧
          (reason = .badCount ↔ ¬ form.Representable)) ∧
      (greed = .possessive → lower limit names (.quantification span amount greed n) = .error ⟨span,.possessive⟩ ∧
        Reason.possessive.severity = .unsupported) := by
  obtain ⟨⟨a,rfl⟩,counted⟩ := parse_counted single listed parsed form greed
  -- An atom is lowered in the same way wherever it is nested.
  have child : lowerNode ⟨inForce defaultDepth limit,names⟩ 1 (.atom a) = .ok e := lowered
  refine ⟨_,_,counted,rfl,fun lenient fits ordered => ?_,fun lenient broken => ?_,fun possessive => ?_⟩
  · rw [lower_quantification lenient,lowerAmount_of_ordered fits ordered,child]
    cases greed with
    | eager | reluctant => rfl
    | possessive => exact absurd rfl lenient
  · rw [lower_quantification lenient]
    by_cases fits : form.Representable
    · rw [lowerAmount_of_not_ordered fits fun ordered => broken ⟨fits,ordered⟩]
      exact ⟨_,rfl,rfl,by simp [fits]⟩
    · rw [lowerAmount_of_large fits]
      exact ⟨_,rfl,rfl,by simp [fits]⟩
  · subst possessive
    exact ⟨lower_possessive,rfl⟩

-- A character that an interpolation could begin with, and a zero in front of a number.
theorem lower_counted_angle : ∃ form : CountForm, "<" ++ String.ofList (form.lexeme ['?']) = "<{02,10}?" ∧
    ∃ span amount child, parse 1 "<{02,10}?".toUTF8 = .ok (.quantification span amount .reluctant child) ∧
      lower 1 (fun _ => none) (.quantification span amount .reluctant child) =
        .ok (.repetition 2 (some 10) false (.literal [0x3C])) := by
  let low : Numeral := ⟨['0','2'],by decide,List.all_eq_true.mp rfl⟩
  let high : Numeral := ⟨['1','0'],by decide,List.all_eq_true.mp rfl⟩
  have single : Token.lex "<".toList = [⟨.char,['<'],.start⟩] := by cbv
  have parsed : parse 1 "<".toUTF8 = .ok (.atom ⟨⟨.start,⟨1,1,2⟩⟩,.char 0x3C,"<"⟩) := by cbv
  have lowered : lower 1 (fun _ => none) (.atom ⟨⟨.start,⟨1,1,2⟩⟩,.char 0x3C,"<"⟩) = .ok (.literal [0x3C]) := by cbv
  have values : low.value = 2 ∧ high.value = 10 := by
    constructor
    all_goals cbv
  have fits : (CountForm.between low high).Representable := by
    simp [CountForm.Representable,CountForm.numerals,values,Text.greatestInteger]
  have ordered : (CountForm.between low high).Ordered := by
    simp [CountForm.Ordered,CountForm.most,CountForm.least,values]
  obtain ⟨span,amount,counted,_,repeats,_,_⟩ :=
    lower_counted single (by decide) parsed lowered (.between low high) .reluctant
  refine ⟨.between low high,rfl,span,amount,_,counted,?_⟩
  rw [repeats (by decide) fits ordered,CountForm.least,CountForm.most,values.1,values.2]
  rfl

end Lowering

end LexPattern.Core
