import Mathlib
import LexPattern.Core.Expr
import LexPattern.Proofs.Core.ClassNotation
import LexPattern.Proofs.Text.Quoted

namespace LexPattern

open CodePoint (ofChar toChar_ofChar exists_ofChar)
open Text (Delimited append_stop_inj hexDigits)

namespace CharClass

section Classes

variable {c d : CodePoint} {rest rest' : List Char}

theorem hexSigned_solid : '}' ∉ (hexSigned c).toList := by
  have solid : '}' ∉ hexDigits c.natAbs := fun member => (Text.hexDigits_solid member).1 rfl
  rw [toList_hexSigned]
  split
  · simpa using solid
  · exact solid

theorem hexSigned_injective (same : (hexSigned c).toList = (hexSigned d).toList) : c = d := by
  rw [toList_hexSigned,toList_hexSigned] at same
  split at same
  · rename_i negative
    split at same
    · rename_i negative'
      have digits := Text.hexDigits_injective (List.cons.inj same).2
      exact (Int.natAbs_inj_of_nonpos_of_nonpos negative.le negative'.le).mp digits
    · exact absurd (same ▸ List.mem_cons_self) Text.dash_not_mem_hexDigits
  · rename_i natural
    split at same
    · exact absurd (same.symm ▸ List.mem_cons_self) Text.dash_not_mem_hexDigits
    · rename_i natural'
      have digits := Text.hexDigits_injective same
      exact (Int.natAbs_inj_of_nonneg_of_nonneg (Int.not_lt.mp natural) (Int.not_lt.mp natural')).mp digits

theorem renderCode_delimited : Delimited (fun c => (renderCode c).toList) fun _ => True := by
  intro c d rest rest' _ _ same
  dsimp only at same
  obtain ⟨x,mark,rfl,text⟩ | ⟨x,plain,rfl,text⟩ | text := renderCode_cases c
  · obtain ⟨y,_,rfl,text'⟩ | ⟨y,plain',rfl,text'⟩ | text' := renderCode_cases d
    all_goals
      rw [text,text'] at same
      cases same
    · exact ⟨rfl,rfl⟩
    · exact absurd (by simp) plain'
    · simp at mark
  · obtain ⟨y,_,rfl,text'⟩ | ⟨y,_,rfl,text'⟩ | text' := renderCode_cases d
    all_goals
      rw [text,text'] at same
      cases same
    · exact absurd (by simp) plain
    · exact ⟨rfl,rfl⟩
    · exact absurd (by simp) plain
  · obtain ⟨y,mark',rfl,text'⟩ | ⟨y,plain',rfl,text'⟩ | text' := renderCode_cases d
    all_goals rw [text,text'] at same
    · cases same
      simp at mark'
    · cases same
      exact absurd (by simp) plain'
    · simp only [List.cons_append,List.cons.injEq,true_and,List.append_assoc,List.nil_append] at same
      obtain ⟨digits,rests⟩ := append_stop_inj hexSigned_solid hexSigned_solid same
      exact ⟨hexSigned_injective digits,rests⟩

theorem renderRange_append (r : Interval CodePoint) : (renderRange r).toList ++ rest =
    (renderCode r.lo).toList ++ (if r.hi = r.lo then rest else '-' :: ((renderCode r.hi).toList ++ rest)) := by
  unfold renderRange
  split
  · rfl
  · simp

-- A range can be told from others unless a dash follows, which would make more of a single code point.
theorem renderRange_delimited :
    Delimited (fun r => (renderRange r).toList) fun rest => rest.head? ≠ some '-' := by
  rintro ⟨lo,hi⟩ ⟨lo',hi'⟩ rest rest' follows follows' same
  dsimp only at same
  rw [renderRange_append,renderRange_append] at same
  obtain ⟨rfl,tails⟩ := renderCode_delimited trivial trivial same
  dsimp only at tails
  split at tails
  · rename_i single
    split at tails
    · rename_i single'
      rw [single,single']
      exact ⟨rfl,tails⟩
    · rw [tails] at follows
      exact absurd rfl follows
  · split at tails
    · rw [← tails] at follows'
      exact absurd rfl follows'
    · obtain ⟨rfl,rests⟩ := renderCode_delimited trivial trivial (List.cons.inj tails).2
      exact ⟨rfl,rests⟩

theorem head?_renderRange_ne {mark : Char} (isMark : mark ∈ [']','[','-','^']) (r : Interval CodePoint) (rest : List Char) :
    ((renderRange r).toList ++ rest).head? ≠ some mark := by
  rw [renderRange_append]
  exact head?_renderCode_ne isMark r.lo _

def HoldsScalars (c : CharClass) : Prop := ∀ r ∈ c.toList, r.lo.isScalar = true ∧ r.hi.isScalar = true

theorem toList_injective {c d : CharClass} (same : c.toList = d.toList) : c = d := by
  obtain ⟨⟨left⟩⟩ := c
  obtain ⟨⟨right⟩⟩ := d
  obtain rfl : left = right := Array.toList_inj.mp same
  rfl

-- A class can be told from any other, whatever code points its ranges end at.
theorem render_readable {c d : CharClass} (same : c.render.toList ++ rest = d.render.toList ++ rest') :
    c = d ∧ rest = rest' := by
  rw [toList_render,toList_render,body,body] at same
  simp only [List.cons_append,List.append_assoc,List.nil_append,List.cons.injEq,true_and] at same
  have begins := @head?_renderRange_ne ']' (by decide)
  have follows := @head?_renderRange_ne '-' (by decide)
  obtain ⟨equal,rests⟩ := renderRange_delimited.flatMap begins follows (fun _ => by simp) same
  exact ⟨toList_injective equal,rests⟩

end Classes

end CharClass

namespace Core.Expr

section Numbers

variable {m n : Int} {stop : Char} {rest rest' : List Char}

theorem toString_free (other : stop.isDigit = false ∧ stop ≠ '-') (n : Int) : stop ∉ (toString n).toList := by
  have digits (k : Nat) : stop ∉ Nat.toDigits 10 k := by
    intro member
    have digit := Nat.isDigit_of_mem_toDigits (by decide) (by decide) member
    rw [other.1] at digit
    cases digit
  rw [Int.toString_eq_repr,Int.repr_eq_if]
  split
  · rw [Nat.toList_repr]
    exact digits _
  · rw [String.toList_append,Nat.toList_repr]
    simpa using ⟨other.2,digits _⟩

theorem toString_ne_nil : (toString n).toList ≠ [] := by
  rw [Int.toString_eq_repr,Int.repr_eq_if]
  split
  · rw [Nat.toList_repr]
    exact Nat.toDigits_ne_nil
  · simp

theorem toString_readable (other : stop.isDigit = false ∧ stop ≠ '-')
    (same : (toString m).toList ++ stop :: rest = (toString n).toList ++ stop :: rest') : m = n ∧ rest = rest' := by
  obtain ⟨digits,rests⟩ := append_stop_inj (toString_free other m) (toString_free other n) same
  rw [Int.toString_eq_repr,Int.toString_eq_repr] at digits
  exact ⟨Int.repr_injective (String.toList_injective digits),rests⟩

theorem most_readable {most most' : Option Int}
    (same : ((most.map toString).getD "").toList ++ '\x7d' :: rest = ((most'.map toString).getD "").toList ++ '\x7d' :: rest') :
    most = most' ∧ rest = rest' := by
  have visible (m : Int) (rest rest' : List Char) : '\x7d' :: rest ≠ (toString m).toList ++ '\x7d' :: rest' := by
    have free := @toString_free '\x7d' (by decide) m
    intro same
    obtain ⟨nothing,_⟩ := append_stop_inj List.not_mem_nil free same
    exact toString_ne_nil nothing.symm
  cases most with
  | none =>
    cases most' with
    | none => exact ⟨rfl,(List.cons.inj same).2⟩
    | some m => exact absurd same (visible m _ _)
  | some m =>
    cases most' with
    | none => exact absurd same.symm (visible m _ _)
    | some m' =>
      obtain ⟨rfl,rests⟩ := toString_readable (by decide) same
      exact ⟨rfl,rests⟩

end Numbers

mutual

def HoldsScalars : Expr → Prop
  | empty => True
  | literal codes => ∀ c ∈ codes, c.isScalar = true
  | charClass c => c.HoldsScalars
  | group child => child.HoldsScalars
  | concat children => AllHoldScalars children
  | alternation children => AllHoldScalars children
  | repetition _ _ _ child => child.HoldsScalars

def AllHoldScalars : List Expr → Prop
  | [] => True
  | e :: es => e.HoldsScalars ∧ AllHoldScalars es

end

section Texts

variable {printable : Char → Bool} {rest rest' : List Char}

def text (printable : Char → Bool) (e : Expr) : List Char := (e.renderWith printable).toList

def listed (printable : Char → Bool) (es : List Expr) : List Char := (", ".intercalate (renderAll printable es)).toList

theorem text_empty : text printable empty = "empty".toList := rfl

theorem text_literal (codes : List CodePoint) : text printable (literal codes) =
    "lit(".toList ++ Text.quoteWith printable '"' (Text.charPieces (codes.map CodePoint.toChar)) ++ [')'] := by
  simp [text,renderWith]

theorem text_charClass (c : CharClass) : text printable (charClass c) = "class".toList ++ c.render.toList := by
  simp [text,renderWith]

theorem text_group (child : Expr) : text printable (group child) = "group(".toList ++ text printable child ++ [')'] := by
  simp [text,renderWith]

theorem text_concat (es : List Expr) : text printable (concat es) = "concat(".toList ++ listed printable es ++ [')'] := by
  simp [text,listed,renderWith]

theorem text_alternation (es : List Expr) :
    text printable (alternation es) = "alt(".toList ++ listed printable es ++ [')'] := by
  simp [text,listed,renderWith]

theorem text_repetition (least : Int) (most : Option Int) (eager : Bool) (child : Expr) :
    text printable (repetition least most eager child) ++ rest = "rep\x7b".toList ++ ((toString least).toList ++ ',' ::
      (((most.map toString).getD "").toList ++ '\x7d' :: ((if eager then [] else ['?']) ++ '(' ::
        (text printable child ++ ')' :: rest)))) := by
  simp only [text,renderWith,renderRepetition]
  split
  all_goals simp

theorem listed_cons (e : Expr) (es : List Expr) : listed printable (e :: es) ++ ')' :: rest = text printable e ++
    (if es = [] then ')' :: rest else ',' :: ' ' :: (listed printable es ++ ')' :: rest)) := by
  cases es with
  | nil => simp [listed,renderAll,text]
  | cons e' es => simp [listed,renderAll,text,String.toList_intercalate]

def initials : Expr → List Char
  | empty => ['e','m']
  | literal _ => ['l','i']
  | charClass _ => ['c','l']
  | group _ => ['g','r']
  | concat _ => ['c','o']
  | alternation _ => ['a','l']
  | repetition .. => ['r','e']

theorem take_text (e : Expr) : (text printable e ++ rest).take 2 = initials e := by
  cases e with
  | empty => simp [text_empty,initials]
  | literal codes => simp [text_literal,initials]
  | charClass c => simp [text_charClass,initials]
  | group child => simp [text_group,initials]
  | concat es => simp [text_concat,initials]
  | alternation es => simp [text_alternation,initials]
  | repetition least most eager child => simp [text_repetition,initials]

theorem initials_eq {a b : Expr} (same : text printable a ++ rest = text printable b ++ rest') : initials a = initials b := by
  rw [← @take_text printable rest a,same,take_text]

theorem head?_text_ne (e : Expr) : (text printable e ++ rest).head? ≠ some ')' := by
  have letters := @take_text printable rest e
  intro closing
  obtain ⟨tail,whole⟩ := List.head?_eq_some_iff.mp closing
  rw [whole] at letters
  cases e
  all_goals simp [initials] at letters

theorem literal_readable {codes codes' : List CodePoint} (left : ∀ c ∈ codes, c.isScalar = true)
    (right : ∀ c ∈ codes', c.isScalar = true)
    (same : text printable (literal codes) ++ rest = text printable (literal codes') ++ rest') :
    codes = codes' ∧ rest = rest' := by
  have spelled {codes : List CodePoint} (scalars : ∀ c ∈ codes, c.isScalar = true) : ∃ cs : List Char, cs.map ofChar = codes := by
    have each : ∀ c ∈ codes, c ∈ Set.range ofChar := fun c member => by
      obtain ⟨x,code⟩ := exists_ofChar (scalars c member)
      exact ⟨x,code.symm⟩
    have listed : codes ∈ Set.range (List.map ofChar) := by
      rw [Set.range_list_map]
      exact each
    exact listed
  obtain ⟨cs,rfl⟩ := spelled left
  obtain ⟨cs',rfl⟩ := spelled right
  have back (cs : List Char) : (cs.map ofChar).map CodePoint.toChar = cs := by
    rw [List.map_map]
    exact (List.map_congr_left fun c _ => toChar_ofChar c).trans (List.map_id cs)
  simp only [text_literal,back,List.append_assoc,List.append_cancel_left_eq] at same
  obtain ⟨rfl,rests⟩ := Text.quoteWith_delimited trivial trivial same
  exact ⟨rfl,(List.cons.inj rests).2⟩

theorem eager_readable {eager eager' : Bool}
    (same : (if eager then [] else ['?']) ++ '(' :: rest = (if eager' then [] else ['?']) ++ '(' :: rest') :
    eager = eager' ∧ rest = rest' := by
  cases eager
  all_goals
    cases eager'
    all_goals simp_all

mutual

-- A text can be told from any other text, whatever is behind the two of them.
theorem text_readable (a b : Expr) {rest rest' : List Char} (left : a.HoldsScalars) (right : b.HoldsScalars)
    (same : text printable a ++ rest = text printable b ++ rest') : a = b ∧ rest = rest' := by
  have kind := initials_eq same
  cases a with
  | empty =>
    cases b with
    | empty => exact ⟨rfl,List.append_cancel_left same⟩
    | _ => simp [initials] at kind
  | literal codes =>
    cases b with
    | literal codes' =>
      rw [HoldsScalars] at left right
      obtain ⟨rfl,rests⟩ := literal_readable left right same
      exact ⟨rfl,rests⟩
    | _ => simp [initials] at kind
  | charClass c =>
    cases b with
    | charClass d =>
      rw [HoldsScalars] at left right
      rw [text_charClass,text_charClass,List.append_assoc,List.append_assoc] at same
      obtain ⟨rfl,rests⟩ := CharClass.render_readable (List.append_cancel_left same)
      exact ⟨rfl,rests⟩
    | _ => simp [initials] at kind
  | group child =>
    cases b with
    | group child' =>
      rw [HoldsScalars] at left right
      simp only [text_group,List.append_assoc,List.append_cancel_left_eq] at same
      obtain ⟨rfl,rests⟩ := text_readable child child' left right same
      exact ⟨rfl,(List.cons.inj rests).2⟩
    | _ => simp [initials] at kind
  | concat es =>
    cases b with
    | concat es' =>
      rw [HoldsScalars] at left right
      simp only [text_concat,List.append_assoc,List.append_cancel_left_eq] at same
      obtain ⟨rfl,rests⟩ := listed_readable es es' left right same
      exact ⟨rfl,rests⟩
    | _ => simp [initials] at kind
  | alternation es =>
    cases b with
    | alternation es' =>
      rw [HoldsScalars] at left right
      simp only [text_alternation,List.append_assoc,List.append_cancel_left_eq] at same
      obtain ⟨rfl,rests⟩ := listed_readable es es' left right same
      exact ⟨rfl,rests⟩
    | _ => simp [initials] at kind
  | repetition least most eager child =>
    cases b with
    | repetition least' most' eager' child' =>
      rw [HoldsScalars] at left right
      rw [text_repetition,text_repetition,List.append_cancel_left_eq] at same
      obtain ⟨rfl,bounded⟩ := toString_readable (by decide) same
      obtain ⟨rfl,marked⟩ := most_readable bounded
      obtain ⟨rfl,inside⟩ := eager_readable marked
      obtain ⟨rfl,rests⟩ := text_readable child child' left right inside
      exact ⟨rfl,(List.cons.inj rests).2⟩
    | _ => simp [initials] at kind

theorem listed_readable (as bs : List Expr) {rest rest' : List Char} (left : AllHoldScalars as) (right : AllHoldScalars bs)
    (same : listed printable as ++ ')' :: rest = listed printable bs ++ ')' :: rest') : as = bs ∧ rest = rest' := by
  cases as with
  | nil =>
    cases bs with
    | nil => exact ⟨rfl,(List.cons.inj same).2⟩
    | cons b bs =>
      rw [listed_cons] at same
      exact absurd (congrArg List.head? same).symm (head?_text_ne b)
  | cons a as =>
    cases bs with
    | nil =>
      rw [listed_cons] at same
      exact absurd (congrArg List.head? same) (head?_text_ne a)
    | cons b bs =>
      rw [AllHoldScalars] at left right
      rw [listed_cons,listed_cons] at same
      obtain ⟨rfl,tails⟩ := text_readable a b left.1 right.1 same
      split at tails
      · rename_i last
        split at tails
        · rename_i last'
          rw [last,last']
          exact ⟨rfl,(List.cons.inj tails).2⟩
        · cases (List.cons.inj tails).1
      · split at tails
        · cases (List.cons.inj tails).1
        · obtain ⟨rfl,rests⟩ := listed_readable as bs left.2 right.2 (List.cons.inj (List.cons.inj tails).2).2
          exact ⟨rfl,rests⟩

end

end Texts

mutual

theorem equal_iff_eq (a b : Expr) : a.equal b = true ↔ a = b := by
  cases a with
  | empty => cases b <;> simp [equal]
  | literal codes => cases b <;> simp [equal]
  | charClass c => cases b <;> simp [equal]
  | group child =>
    cases b with
    | group child' => simp [equal,equal_iff_eq child child']
    | _ => simp [equal]
  | concat es =>
    cases b with
    | concat es' => simp [equal,equalAll_iff_eq es es']
    | _ => simp [equal]
  | alternation es =>
    cases b with
    | alternation es' => simp [equal,equalAll_iff_eq es es']
    | _ => simp [equal]
  | repetition least most eager child =>
    cases b with
    | repetition least' most' eager' child' => simp [equal,equal_iff_eq child child',and_assoc]
    | _ => simp [equal]

theorem equalAll_iff_eq (as bs : List Expr) : equalAll as bs = true ↔ as = bs := by
  cases as with
  | nil => cases bs <;> simp [equalAll]
  | cons a as =>
    cases bs with
    | nil => simp [equalAll]
    | cons b bs => simp [equalAll,equal_iff_eq a b,equalAll_iff_eq as bs]

end

theorem renderWith_inj {printable : Char → Bool} {a b : Expr} (left : a.HoldsScalars) (right : b.HoldsScalars) :
    a.renderWith printable = b.renderWith printable ↔ a = b := by
  constructor
  · intro same
    have texts : text printable a ++ [] = text printable b ++ [] := by rw [text,text,same]
    exact (text_readable a b left right texts).1
  · rintro rfl
    rfl

-- Equal expressions are the same expression and have the same text, in the text's own notion of printable characters
-- as in any other.
theorem equal_iff_render_eq (a b : Expr) (left : a.HoldsScalars) (right : b.HoldsScalars) :
    (a.equal b = true ↔ a = b) ∧ (a.equal b = true ↔ a.render = b.render) ∧
      ∀ printable : Char → Bool, a.equal b = true ↔ a.renderWith printable = b.renderWith printable := by
  refine ⟨equal_iff_eq a b,?_,fun printable => ?_⟩
  · rw [equal_iff_eq,render,renderWith_inj left right]
  · rw [equal_iff_eq,renderWith_inj left right]

theorem render_ne_of_marks :
    let written := concat [literal ("a\"), lit(\"b".toList.map ofChar),charClass ⟨⟨#[⟨45,45⟩,⟨91,93⟩]⟩⟩]
    let plain := concat [literal ("a".toList.map ofChar),literal ("b".toList.map ofChar),charClass ⟨⟨#[⟨45,45⟩,⟨91,93⟩]⟩⟩]
    written.HoldsScalars ∧ plain.HoldsScalars ∧ written ≠ plain ∧ written.equal plain = false ∧ written.render ≠ plain.render ∧
      ∀ printable : Char → Bool, written.renderWith printable ≠ plain.renderWith printable := by
  intro written plain
  have left : written.HoldsScalars := by
    simp only [written,HoldsScalars,AllHoldScalars,CharClass.HoldsScalars]
    decide
  have right : plain.HoldsScalars := by
    simp only [plain,HoldsScalars,AllHoldScalars,CharClass.HoldsScalars]
    decide
  obtain ⟨same,shown,shownWith⟩ := equal_iff_render_eq written plain left right
  have other : written.equal plain = false := by decide +kernel
  rw [other] at same shown
  refine ⟨left,right,by simpa using same,other,by simpa using shown,fun printable => ?_⟩
  have shownHere := shownWith printable
  rw [other] at shownHere
  simpa using shownHere

end Core.Expr

end LexPattern
