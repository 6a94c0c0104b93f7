import Mathlib
import LexPattern.Name.Index
import LexPattern.Proofs.Core.Meaning
import LexPattern.Proofs.Surface.Reading
import LexPattern.Proofs.Text.Digits
import LexPattern.Proofs.Text.Utf8
import LexPattern.Proofs.Token.Brackets

namespace LexPattern

open LexPattern.Core (Context atomCode lowerMember lowerMembers joinMembers isScalar_ofChar)
open Surface (Derives Member Atom AtomKind atomOf atomKind readAtom readAtom_eq_ok_iff DashOpensRange)
open Token (lexFrom lexFrom_some lexFrom_none)
open Text (Position hexDigits)

namespace CharClass

open CodePoint (ofChar toChar_ofChar ofChar_injective exists_ofChar)

variable {x : Char} {rest : List Char} {pos eof : Position} {room : Nat}

section Codes

def spell (x : Char) : List Char := (renderCode (ofChar x)).toList

theorem isBracketMark_ofChar (x : Char) : isBracketMark (ofChar x) = true ↔ x ∈ ['\\',']','[','-','^'] := by
  simp [isBracketMark,ofChar_injective.eq_iff]

theorem toList_hexSigned (c : CodePoint) :
    (hexSigned c).toList = if c < 0 then '-' :: hexDigits c.natAbs else hexDigits c.natAbs := by
  unfold hexSigned
  split
  · simp [Text.toList_hexUpper]
  · rw [Text.toList_hexUpper]

theorem renderCode_cases (c : CodePoint) :
    (∃ x ∈ ['\\',']','[','-','^'], c = ofChar x ∧ (renderCode c).toList = ['\\',x]) ∨
      (∃ x ∉ ['\\',']','[','-','^'], c = ofChar x ∧ (renderCode c).toList = [x]) ∨
      (renderCode c).toList = '\\' :: 'x' :: '{' :: ((hexSigned c).toList ++ ['}']) := by
  unfold renderCode
  split
  · rename_i mark
    obtain ⟨x,listed,same⟩ : ∃ x ∈ ['\\',']','[','-','^'], c = ofChar x := by simpa [isBracketMark] using mark
    exact .inl ⟨x,listed,same,by rw [same,toChar_ofChar,String.toList_ofList]⟩
  · rename_i notMark
    split
    · rename_i visible
      have scalar : c.isScalar = true := by
        change Int at c
        change 0x20 < c ∧ c < 0x7F at visible
        refine CodePoint.isScalar_iff.mpr ⟨?_,?_,.inl ?_⟩
        all_goals omega
      obtain ⟨x,rfl⟩ := exists_ofChar scalar
      rw [isBracketMark_ofChar] at notMark
      exact .inr (.inl ⟨x,notMark,rfl,by rw [toChar_ofChar,String.toList_ofList]⟩)
    · exact .inr (.inr (by simp))

theorem head?_renderCode_ne {mark : Char} (isMark : mark ∈ [']','[','-','^']) (c : CodePoint) (rest : List Char) :
    ((renderCode c).toList ++ rest).head? ≠ some mark := by
  intro same
  obtain ⟨x,_,_,text⟩ | ⟨x,plain,_,text⟩ | text := renderCode_cases c
  all_goals
    rw [text] at same
    cases same
  · simp at isMark
  · exact plain (List.mem_cons_of_mem _ isMark)
  · simp at isMark

theorem spell_cases (x : Char) :
    (x ∈ ['\\',']','[','-','^'] ∧ spell x = ['\\',x]) ∨ (x ∉ ['\\',']','[','-','^'] ∧ spell x = [x]) ∨
      spell x = '\\' :: 'x' :: '{' :: (hexDigits x.toNat ++ ['}']) := by
  obtain ⟨y,mark,code,text⟩ | ⟨y,plain,code,text⟩ | text := renderCode_cases (ofChar x)
  · cases ofChar_injective code
    exact .inl ⟨mark,text⟩
  · cases ofChar_injective code
    exact .inr (.inl ⟨plain,text⟩)
  · have digits : (hexSigned (ofChar x)).toList = hexDigits x.toNat := by
      rw [toList_hexSigned]
      exact if_neg (Int.not_lt.mpr (Int.natCast_nonneg _))
    rw [digits] at text
    exact .inr (.inr text)

-- What is written begins with a backslash or with the character itself, which is then no mark.
theorem head?_spell (x : Char) (rest : List Char) : (spell x ++ rest).head? = some '\\' ∨
    (x ∉ ['\\',']','[','-','^'] ∧ (spell x ++ rest).head? = some x) := by
  obtain ⟨_,same⟩ | ⟨plain,same⟩ | same := spell_cases x
  · exact .inl (by rw [same]; rfl)
  · exact .inr ⟨plain,by rw [same]; rfl⟩
  · exact .inl (by rw [same]; rfl)

theorem head?_spell_ne {mark : Char} (isMark : mark ∈ [']','[','-','^']) (x : Char) (rest : List Char) :
    (spell x ++ rest).head? ≠ some mark := head?_renderCode_ne isMark (ofChar x) rest

theorem atomKind_number (x : Char) :
    atomKind ⟨.scalar,'\\' :: 'x' :: '{' :: (hexDigits x.toNat ++ ['}']),pos⟩ = .ok (.scalar (ofChar x)) := by
  have body : Surface.inner 1 1 ('{' :: (hexDigits x.toNat ++ ['}'])) = hexDigits x.toNat := by
    simp [Surface.inner]
  have fields : Text.fields (hexDigits x.toNat) = [hexDigits x.toNat] :=
    Text.fields_of_solid Text.hexDigits_ne_nil fun c member => (Text.hexDigits_solid member).2
  have inside : ofChar x ≤ CodePoint.greatest := (CodePoint.isScalar_iff.mp (isScalar_ofChar x)).2.1
  have numeral : Text.readNumeral 16 Text.greatestWord (hexDigits x.toNat) = .ok x.toNat := by
    have bound : (x.toNat : Int) ≤ 0x10FFFF := inside
    refine Text.readNumeral_hexDigits ?_
    rw [Text.greatestWord]
    omega
  have read : Surface.readScalar 16 (hexDigits x.toNat) = .ok (ofChar x) := by
    rw [Surface.readScalar,numeral]
    exact if_neg (Int.not_lt.mpr inside)
  have scalars : Surface.readScalars ('\\' :: 'x' :: '{' :: (hexDigits x.toNat ++ ['}'])) = .ok [ofChar x] := by
    simp [Surface.readScalars,body,fields,read]
  simp [atomKind,scalars]

-- The text is read as one atom, which stands for the character, and reading goes on with the rest.
def ReadAsCode (pos : Position) (front rest : List Char) (x : Char) : Prop := ∃ t a,
  lexFrom 1 pos (front ++ rest) = t :: lexFrom 1 t.stop rest ∧ readAtom t = .ok a ∧ ∀ ctx, atomCode ctx a = .ok (ofChar x)

theorem ReadAsCode.of_token {t : Token} {kind : AtomKind} {front : List Char}
    (lexed : lexFrom 1 pos (front ++ rest) = t :: lexFrom 1 t.stop rest) (read : atomKind t = .ok kind)
    (code : kind = .char (ofChar x) ∨ kind = .escaped (ofChar x) ∨ kind = .scalar (ofChar x)) :
    ReadAsCode pos front rest x := by
  refine ⟨t,atomOf t kind,lexed,readAtom_eq_ok_iff.mpr ⟨kind,read,rfl⟩,fun ctx => ?_⟩
  obtain rfl | rfl | rfl := code
  all_goals simp [atomCode,atomOf,Core.requireScalar,isScalar_ofChar]

theorem lex_mark (mark : x ∈ ['\\',']','[','-','^']) : ReadAsCode pos ['\\',x] rest x := by
  have read : Token.firstLexeme? (Token.rulesAt 1) (['\\',x] ++ rest) = some (.escaped,['\\',x],rest) ∧
      atomKind ⟨.escaped,['\\',x],pos⟩ = .ok (.escaped (ofChar x)) := by
    simp only [List.mem_cons,List.not_mem_nil,or_false] at mark
    obtain rfl | rfl | rfl | rfl | rfl := mark
    all_goals exact ⟨rfl,rfl⟩
  exact .of_token (lexFrom_some read.1) read.2 (.inr (.inl rfl))

theorem lex_plain (plain : x ∉ ['\\',']','[','-','^']) (alone : x = '&' ∨ x = '~' → rest.head? ≠ some x) :
    ReadAsCode pos [x] rest x := by
  have outside : x ∉ ['\\',']','[','-'] := fun member => plain (List.mem_append_left ['^'] member)
  have read : atomKind ⟨.char,[x],pos⟩ = .ok (.char (ofChar x)) := by
    have notBackslash : ¬ x = '\\' := fun same => plain (by simp [same])
    simp [atomKind,Surface.firstChar,notBackslash]
  exact .of_token (lexFrom_none (Token.firstLexeme?_plain outside alone)) read (.inl rfl)

theorem lex_number : ReadAsCode pos ('\\' :: 'x' :: '{' :: (hexDigits x.toNat ++ ['}'])) rest x := by
  have solid : ∀ c ∈ hexDigits x.toNat, c ≠ '}' := fun c member => (Text.hexDigits_solid member).1
  have found : Token.firstLexeme? (Token.rulesAt 1) ('\\' :: 'x' :: '{' :: (hexDigits x.toNat ++ ['}']) ++ rest) =
      some (.scalar,'\\' :: 'x' :: '{' :: (hexDigits x.toNat ++ ['}']),rest) := by
    simpa [Token.rulesAt] using Token.firstLexeme?_number solid
  exact .of_token (lexFrom_some found) (atomKind_number x) (.inr (.inr rfl))

theorem lex_spell (pos : Position) (alone : x = '&' ∨ x = '~' → rest.head? ≠ some x) : ReadAsCode pos (spell x) rest x := by
  obtain ⟨mark,same⟩ | ⟨plain,same⟩ | same := spell_cases x
  · rw [same]
    exact lex_mark mark
  · rw [same]
    exact lex_plain plain alone
  · rw [same]
    exact lex_number

end Codes

section Ranges

variable {r : Interval CodePoint} {rs : List (Interval CodePoint)}

-- A text in front of which a code point keeps its meaning: it neither makes an operator of it nor a range.
def Detached (x : Char) (rest : List Char) : Prop := rest.head? ≠ some '-' ∧ (x = '&' ∨ x = '~' → rest.head? ≠ some x)

-- Tokens are read from the front of a text as one member, whatever comes first in the text behind it.
def ReadAs (pos : Position) (front rest : List Char) (c : CharClass) : Prop :=
  ∃ vs m next, lexFrom 1 pos (front ++ rest) = vs ++ lexFrom 1 next rest ∧
    (∀ eof room, Derives eof room (.member m) vs (lexFrom 1 next rest)) ∧ ∀ ctx depth, lowerMember ctx depth m = .ok c

theorem lex_single (detached : Detached x rest) : ReadAs pos (spell x) rest (.single (ofChar x)) := by
  obtain ⟨noDash,alone⟩ := detached
  obtain ⟨t,a,lexed,isAtom,code⟩ := lex_spell pos alone
  refine ⟨[t],.atom a,t.stop,lexed,fun eof room => .single isAtom ?_,fun ctx depth => ?_⟩
  · rintro ⟨dash,next,more,shape,kind,_⟩
    exact Token.kind_ne_dash noDash shape kind
  · simp only [lowerMember,code ctx]
    rfl

theorem lex_span {y : Char} (order : ofChar x ≤ ofChar y) (detached : Detached y rest) :
    ReadAs pos (spell x ++ '-' :: spell y) rest (.ofRanges [⟨ofChar x,ofChar y⟩]) := by
  have afterLow : x = '&' ∨ x = '~' → ('-' :: (spell y ++ rest)).head? ≠ some x := by
    rintro (rfl | rfl)
    all_goals simp
  obtain ⟨first,lo,lexedLow,readLow,codeLow⟩ := lex_spell pos afterLow
  have dash : lexFrom 1 first.stop ('-' :: (spell y ++ rest)) =
      ⟨.dash,['-'],first.stop⟩ :: lexFrom 1 (first.stop.advance ['-']) (spell y ++ rest) :=
    lexFrom_some (Token.firstLexeme?_dash (head?_spell_ne (by decide) y rest))
  obtain ⟨last,hi,lexedHigh,readHigh,codeHigh⟩ := lex_spell (first.stop.advance ['-']) detached.2
  refine ⟨[first,⟨.dash,['-'],first.stop⟩,last],.range ⟨first.pos,last.stop⟩ lo hi,last.stop,?_,fun eof room => ?_,
    fun ctx depth => ?_⟩
  · rw [List.append_assoc,List.cons_append,lexedLow,dash]
    exact congrArg _ (congrArg _ lexedHigh)
  · exact .range readLow rfl readHigh
  · simp only [lowerMember,Core.lowerRange,codeLow ctx,codeHigh ctx]
    exact if_neg (Int.not_lt.mpr order)

theorem lex_range (valid : r.Valid CodePoint.Scalars) (detached : ∀ x, r.hi = ofChar x → Detached x rest) :
    ReadAs pos (renderRange r).toList rest (.ofRanges [r]) := by
  obtain ⟨lo,hi⟩ := r
  obtain ⟨order,lower,upper⟩ := valid
  dsimp only at order lower upper detached
  obtain ⟨x,rfl⟩ := exists_ofChar lower
  obtain ⟨y,rfl⟩ := exists_ofChar upper
  by_cases same : x = y
  · subst same
    rw [renderRange,if_pos rfl]
    exact lex_single (detached x rfl)
  · have apart : ¬ ofChar y = ofChar x := fun equal => same (ofChar_injective equal).symm
    have written : (renderRange ⟨ofChar x,ofChar y⟩).toList = spell x ++ '-' :: spell y := by
      simp [renderRange,apart,spell]
    rw [written]
    exact lex_span order (detached y rfl)

def body (rs : List (Interval CodePoint)) : List Char := rs.flatMap (fun r => (renderRange r).toList) ++ [']']

theorem exists_body_cons (r : Interval CodePoint) (rs : List (Interval CodePoint)) (lower : r.lo ∈ CodePoint.Scalars) :
    ∃ x more, r.lo = ofChar x ∧ body (r :: rs) = spell x ++ more := by
  obtain ⟨x,same⟩ := exists_ofChar lower
  refine ⟨x,?_⟩
  by_cases single : r.hi = r.lo
  · exact ⟨body rs,same,by simp [body,renderRange,single,same,spell]⟩
  · refine ⟨'-' :: ((renderCode r.hi).toList ++ body rs),same,?_⟩
    rw [same] at single
    simp [body,renderRange,single,same,spell]

theorem detached_body (above : ∀ r ∈ rs, ofChar x < r.lo) (valid : ∀ r ∈ rs, r.Valid CodePoint.Scalars) :
    Detached x (body rs) := by
  cases rs with
  | nil =>
    refine ⟨by simp [body],?_⟩
    rintro (rfl | rfl)
    all_goals simp [body]
  | cons r rs =>
    obtain ⟨y,more,same,begins⟩ := exists_body_cons r rs (valid r List.mem_cons_self).lower
    rw [begins]
    refine ⟨head?_spell_ne (by decide) y more,fun doubled => ?_⟩
    obtain front | ⟨_,front⟩ := head?_spell y more
    · rw [front]
      obtain rfl | rfl := doubled
      all_goals simp
    · rw [front]
      rintro ⟨⟩
      exact absurd (above r List.mem_cons_self) (by rw [same]; exact Int.lt_irrefl _)

-- What a member stands for, whatever the names and wherever it is nested.
def Stands (m : Member) (r : Interval CodePoint) : Prop := ∀ ctx depth, lowerMember ctx depth m = .ok (.ofRanges [r])

theorem lex_body (spread : Spread CodePoint.Scalars rs) (pos : Position) : ∃ ts ms close,
    lexFrom 1 pos (body rs) = ts ++ [close] ∧ close.kind = .classClose ∧ List.Forall₂ Stands ms rs ∧
      ∀ us before, Derives eof room (.members before) us (lexFrom 1 pos (body rs)) →
        Derives eof room (.members (before ++ ms)) (us ++ ts) [close] := by
  induction rs generalizing pos with
  | nil =>
    have found : Token.firstLexeme? (Token.rulesAt 1) (body []) = some (.classClose,[']'],[]) := rfl
    have lexed : lexFrom 1 pos (body []) = [⟨.classClose,[']'],pos⟩] := by
      rw [lexFrom_some found,lexFrom]
    rw [lexed]
    refine ⟨[],[],_,rfl,rfl,.nil,fun us before derived => ?_⟩
    simpa using derived
  | cons r rs ih =>
    obtain ⟨valid,apart,tail⟩ := Spread.cons_iff.mp spread
    have detached : ∀ x, r.hi = ofChar x → Detached x (body rs) := by
      intro x same
      refine detached_body (fun other member => ?_) tail.valid
      rw [← same]
      exact (apart other member).before
    obtain ⟨vs,m,next,lexed,member,stands⟩ : ReadAs pos (renderRange r).toList (body rs) _ := lex_range valid detached
    obtain ⟨ts,ms,close,others,closes,meanings,join⟩ := ih tail next
    have split : body (r :: rs) = (renderRange r).toList ++ body rs := by simp [body]
    rw [split,lexed]
    refine ⟨vs ++ ts,m :: ms,close,by rw [others,List.append_assoc],closes,.cons stands meanings,fun us before derived => ?_⟩
    have joined := join _ _ (derived.nextMember (member eof room))
    simpa using joined

end Ranges

section Classes

variable {c d : CharClass} {p : CodePoint → Prop} {ctx : Context} {depth : Nat} {ms : List Member}
  {rs : List (Interval CodePoint)}

theorem joinMembers_denotes (meanings : List.Forall₂ Stands ms rs) (valid : ∀ r ∈ rs, r.Valid CodePoint.Scalars)
    (denotes : c.Denotes p) : ∃ d, joinMembers ctx depth c ms = .ok d ∧ d.Denotes fun x => p x ∨ Covers rs x := by
  induction meanings generalizing c p with
  | nil => exact ⟨c,rfl,denotes.congr fun x _ => by simp⟩
  | @cons m r ms rs stands _ ih =>
    have isValid := valid r List.mem_cons_self
    have range := Denotes.range isValid.order isValid.lower isValid.upper
    obtain ⟨d,joined,result⟩ := ih (fun other member => valid other (List.mem_cons_of_mem r member)) (denotes.union range)
    refine ⟨d,?_,result.congr fun x _ => ?_⟩
    · simp only [joinMembers,stands ctx depth]
      exact joined
    · rw [Covers.cons,Interval.mem_def,or_assoc]

theorem lowerMembers_denotes (meanings : List.Forall₂ Stands ms rs) (valid : ∀ r ∈ rs, r.Valid CodePoint.Scalars) :
    ∃ d, lowerMembers ctx depth ms = .ok d ∧ d.Denotes fun x => Covers rs x := by
  cases meanings with
  | nil => exact ⟨.empty,rfl,Denotes.empty.congr fun x _ => by simp⟩
  | @cons m r ms rs stands meanings =>
    have isValid := valid r List.mem_cons_self
    have range := Denotes.range isValid.order isValid.lower isValid.upper
    obtain ⟨d,joined,result⟩ := joinMembers_denotes meanings
      (fun other member => valid other (List.mem_cons_of_mem r member)) range
    refine ⟨d,?_,result.congr fun x _ => ?_⟩
    · simp only [lowerMembers,stands ctx depth]
      exact joined
    · rw [Covers.cons,Interval.mem_def]

theorem toList_render (c : CharClass) : c.render.toList = '[' :: body c.toList := by
  simp [render,body,List.flatMap_map]

theorem head?_body_ne (spread : Spread CodePoint.Scalars rs) : (body rs).head? ≠ some '^' := by
  cases rs with
  | nil => simp [body]
  | cons r rs =>
    obtain ⟨x,more,_,begins⟩ := exists_body_cons r rs (spread.valid r List.mem_cons_self).lower
    rw [begins]
    exact head?_spell_ne (by decide) x more

-- The notation of a class is one class in brackets, with a member for each of its ranges.
theorem parse_render (normal : c.Normal) (limit : Int) : ∃ span ms,
    Surface.parse limit c.render.toUTF8 = .ok (.customClass span false ms) ∧ List.Forall₂ Stands ms c.toList := by
  have spread : Spread CodePoint.Scalars c.toList := (IntervalSet.normal_iff_spread scalars_lawful).mp normal
  let opening : Token := ⟨.classOpen,['['],.start⟩
  let eof := Position.start.advance c.render.toList
  obtain ⟨ts,ms,close,lexed,closes,meanings,join⟩ : ∃ ts ms close, lexFrom 1 opening.stop (body c.toList) = ts ++ [close] ∧
    close.kind = .classClose ∧ List.Forall₂ Stands ms c.toList ∧ ∀ us before,
      Derives eof 0 (.members before) us (lexFrom 1 opening.stop (body c.toList)) →
        Derives eof 0 (.members (before ++ ms)) (us ++ ts) [close] := lex_body spread opening.stop
  have tokens : Token.lex c.render.toList = opening :: ts ++ [close] := by
    have found : Token.firstLexeme? (Token.rulesAt 0) ('[' :: body c.toList) = some (.classOpen,['['],body c.toList) :=
      Token.firstLexeme?_opening (head?_body_ne spread)
    rw [toList_render,Token.lex,lexFrom_some found]
    exact congrArg _ lexed
  have members : Derives eof 0 (.members ms) ts [close] := join [] [] .noMember
  refine ⟨Surface.stretch eof (opening :: ts ++ [close]) [],ms,?_,meanings⟩
  rw [Surface.parse_toUTF8,Surface.ofChars,tokens]
  exact members.ofTokens_class rfl closes (inForce_pos (by decide) limit)

theorem exists_lowered (normal : c.Normal) (depth limit : Int) (names : String → Option String) :
    ∃ n, Surface.parse depth c.render.toUTF8 = .ok n ∧ Core.lower limit names n = .ok (.charClass c) := by
  obtain ⟨span,ms,parsed,meanings⟩ := parse_render normal depth
  refine ⟨_,parsed,?_⟩
  let ctx : Context := ⟨inForce Core.defaultDepth limit,names⟩
  have spread := (IntervalSet.normal_iff_spread scalars_lawful).mp normal
  obtain ⟨d,lowered,denotes⟩ : ∃ d, lowerMembers ctx 1 ms = .ok d ∧ d.Denotes fun x => Covers c.toList x :=
    lowerMembers_denotes meanings spread.valid
  cases denotes.unique normal.denotes
  exact Core.lower_customClass lowered

-- The notation of a class is a pattern that means the class, so different classes are written differently.
theorem lower_parse_render (c : CharClass) (normal : c.Normal) :
    (∀ depth limit names, ∃ n, Surface.parse depth c.render.toUTF8 = .ok n ∧
      Core.lower limit names n = .ok (.charClass c)) ∧
    ∀ d : CharClass, d.Normal → d.render = c.render → d = c := by
  refine ⟨exists_lowered normal,fun d normal' same => ?_⟩
  obtain ⟨n,parsed,lowered⟩ := exists_lowered normal 0 0 Name.lookup?
  obtain ⟨m,parsed',lowered'⟩ := exists_lowered normal' 0 0 Name.lookup?
  rw [same,parsed] at parsed'
  cases parsed'
  rw [lowered] at lowered'
  cases lowered'
  rfl

theorem lower_parse_render_marks :
    (ofRanges [⟨0x26,0x26⟩,⟨0x2D,0x2E⟩,⟨0x5B,0x5E⟩,⟨0xD7FF,0xE000⟩]).Normal ∧
    ((∀ depth limit names, ∃ n, Surface.parse depth
        (ofRanges [⟨0x26,0x26⟩,⟨0x2D,0x2E⟩,⟨0x5B,0x5E⟩,⟨0xD7FF,0xE000⟩]).render.toUTF8 = .ok n ∧
      Core.lower limit names n =
        .ok (.charClass (ofRanges [⟨0x26,0x26⟩,⟨0x2D,0x2E⟩,⟨0x5B,0x5E⟩,⟨0xD7FF,0xE000⟩]))) ∧
    ∀ d : CharClass, d.Normal → d.render = (ofRanges [⟨0x26,0x26⟩,⟨0x2D,0x2E⟩,⟨0x5B,0x5E⟩,⟨0xD7FF,0xE000⟩]).render →
      d = ofRanges [⟨0x26,0x26⟩,⟨0x2D,0x2E⟩,⟨0x5B,0x5E⟩,⟨0xD7FF,0xE000⟩]) := by
  have valid : ∀ r ∈ [(⟨0x26,0x26⟩ : Interval CodePoint),⟨0x2D,0x2E⟩,⟨0x5B,0x5E⟩,⟨0xD7FF,0xE000⟩],
      r.Valid CodePoint.Scalars := by
    simp only [List.forall_mem_cons]
    refine ⟨?_,?_,?_,?_,by simp⟩
    all_goals exact ⟨by decide,CodePoint.mem_scalars.mpr rfl,CodePoint.mem_scalars.mpr rfl⟩
  have normal := (Denotes.normal (IntervalSet.Represents.ofList scalars_lawful valid) : (ofRanges _).Normal)
  exact ⟨normal,lower_parse_render _ normal⟩

end Classes

end CharClass

end LexPattern
