import Mathlib
import LexPattern.Proofs.Surface.Reading
import LexPattern.Proofs.Token.Marks

namespace LexPattern.Token

open Shape
open Surface (introducers Atom readAtom)

structure Numeral where
  digits : List Char
  visible : digits ≠ []
  decimal : ∀ c ∈ digits, isDigit c = true

inductive CountForm where
  | exactly (n : Numeral)
  | atLeast (n : Numeral)
  | atMost (n : Numeral)
  | between (n m : Numeral)

namespace CountForm

def text : CountForm → List Char
  | exactly n => n.digits
  | atLeast n => n.digits ++ [',']
  | atMost n => ',' :: n.digits
  | between n m => n.digits ++ ',' :: m.digits

def lexeme (form : CountForm) (mark : List Char) : List Char := '{' :: (form.text ++ '}' :: mark)

end CountForm

section Counts

variable {s rest y mark : List Char} {second : Shape}

theorem Numeral.read?_parts (n : Numeral) (stops : ∀ c ∈ rest.head?, isDigit c = false) : ∃ d ds, n.digits = [d] ++ ds ∧
    Rule.digit.read? (n.digits ++ rest) = some ([d],ds ++ rest) ∧ Rule.digits.read? (ds ++ rest) = some (ds,rest) := by
  obtain ⟨digits,visible,decimal⟩ := n
  obtain ⟨d,ds,rfl⟩ := List.exists_cons_of_ne_nil visible
  obtain ⟨digit,others⟩ := List.forall_mem_cons.mp decimal
  exact ⟨d,ds,rfl,by simp [Rule.digit,read?,digit],read?_run others stops⟩

theorem Numeral.read? (n : Numeral) (stops : ∀ c ∈ rest.head?, isDigit c = false) :
    (seq Rule.digit Rule.digits).read? (n.digits ++ rest) = some (n.digits,rest) := by
  obtain ⟨d,ds,same,front,behind⟩ := n.read?_parts stops
  rw [read?_seq front behind,same]

theorem Numeral.read?_then (n : Numeral) (stops : ∀ c ∈ rest.head?, isDigit c = false)
    (behind : second.read? rest = some (y,s)) :
    (seq Rule.digit (seq Rule.digits second)).read? (n.digits ++ rest) = some (n.digits ++ y,s) := by
  obtain ⟨d,ds,same,front,others⟩ := n.read?_parts stops
  rw [read?_seq front (read?_seq others behind),same,List.append_assoc]

-- The part of the rule for counts between the braces: the lower bound comes first, or a comma where there is none.
def Rule.bounds : Shape :=
  either (inOrder [digit,digits,optional (seq (word [',']) digits)]) (inOrder [word [','],digit,digits])

theorem CountForm.read? (form : CountForm) : Rule.bounds.read? (form.text ++ '}' :: s) = some (form.text,'}' :: s) := by
  have brace : ∀ c ∈ ('}' :: s).head?, isDigit c = false := by
    rintro c ⟨⟩
    rfl
  have comma {more : List Char} : ∀ c ∈ (',' :: more).head?, isDigit c = false := by
    rintro c ⟨⟩
    rfl
  have upper {ds : List Char} (decimal : ∀ c ∈ ds, isDigit c = true) :
      (seq (word [',']) Rule.digits).read? (',' :: (ds ++ '}' :: s)) = some (',' :: ds,'}' :: s) :=
    read?_seq (x := [',']) rfl (read?_run decimal brace)
  cases form with
  | exactly n =>
    have absent : (Shape.optional (seq (word [',']) Rule.digits)).read? ('}' :: s) = some ([],'}' :: s) := rfl
    have read := n.read?_then brace absent
    rw [List.append_nil] at read
    exact read?_first read
  | atLeast n =>
    rw [text,List.append_assoc]
    exact read?_first (n.read?_then comma (read?_first (upper (by simp))))
  | atMost n =>
    have missing : (inOrder [Rule.digit,Rule.digits,Shape.optional (seq (word [',']) Rule.digits)]).read?
      (',' :: (n.digits ++ '}' :: s)) = none := rfl
    exact (read?_second missing).trans (read?_seq (x := [',']) rfl (n.read? brace))
  | between n m =>
    rw [text,List.append_assoc]
    exact read?_first (n.read?_then comma (read?_first (upper m.decimal)))

-- No rule outside brackets but the one for counts takes a brace.
theorem firstLexeme?_count (form : CountForm) (modifier : mark ∈ [[],['?'],['+']]) :
    firstLexeme? Rule.outside (form.lexeme mark) = some (.count,form.lexeme mark,[]) := by
  have close : (seq (word ['}']) Rule.modifier).read? ('}' :: mark) = some ('}' :: mark,[]) := by
    simp only [List.mem_cons,List.not_mem_nil,or_false] at modifier
    obtain rfl | rfl | rfl := modifier
    all_goals rfl
  have read : Rule.count.shape.read? ('{' :: (form.text ++ '}' :: mark)) = some ('{' :: (form.text ++ '}' :: mark),[]) :=
    read?_seq (x := ['{']) rfl (read?_seq form.read? close)
  have never : ∀ rule ∈ Rule.outside.take 24, rule.shape.mayStart '{' = false := by decide
  have split : Rule.outside = Rule.outside.take 24 ++ Rule.count :: Rule.outside.drop 25 := rfl
  rw [CountForm.lexeme,split,firstLexeme?_skip never,firstLexeme?,read]
  rfl

theorem CountForm.mem_text (form : CountForm) : ∀ c ∈ form.text, isDigit c = true ∨ c = ',' := by
  cases form with
  | exactly n => exact fun c member => .inl (n.decimal c member)
  | atLeast n =>
    have digits := n.decimal
    grind [text]
  | atMost n =>
    have digits := n.decimal
    grind [text]
  | between n m =>
    have digits := n.decimal
    have digits' := m.decimal
    grind [text]

theorem CountForm.not_infix (form : CountForm) (modifier : mark ∈ [[],['?'],['+']]) :
    ¬ ['}','>'] <:+: form.text ++ '}' :: mark := by
  have inside : '>' ∉ form.text := fun member => absurd (form.mem_text _ member) (by decide)
  have behind : '>' ∉ mark := by
    simp only [List.mem_cons,List.not_mem_nil,or_false] at modifier
    obtain rfl | rfl | rfl := modifier
    all_goals decide
  intro closes
  have member : '>' ∈ form.text ++ '}' :: mark := closes.subset (by decide)
  simp [inside,behind] at member

end Counts

section Items

variable {c : Char} {s rest x : List Char}

-- A character that no rule takes alone is taken by none in front of a brace, unless it opens an interpolation.
theorem firstLexeme?_char_brace (alone : firstLexeme? Rule.outside [c] = none) (plain : c ≠ '\\')
    (unclosed : ¬ ['}','>'] <:+: s) : firstLexeme? Rule.outside (c :: '{' :: s) = none := by
  have special : c ∉ ['(',')','|','*','+','?','.','^','$','['] := by
    have taken : ∀ c ∈ ['(',')','|','*','+','?','.','^','$','['], (firstLexeme? Rule.outside [c]).isSome = true :=
      List.all_eq_true.mp rfl
    intro member
    have some := taken c member
    rw [alone] at some
    cases some
  simp only [List.mem_cons,List.not_mem_nil,or_false,not_or] at special
  have others : ∀ rule ∈ [Rule.comment,Rule.callout,Rule.verb,Rule.recurse,Rule.condOpen,Rule.absentOpen,Rule.optionsOpen,
      Rule.groupOpen,Rule.groupClose,Rule.alt,Rule.quant,Rule.dot,Rule.caret,Rule.dollar,Rule.classOpen],
      rule.shape.mayStart c = false := by
    simp [Rule.comment,Rule.callout,Rule.verb,Rule.recurse,Rule.condOpen,Rule.absentOpen,Rule.optionsOpen,Rule.groupOpen,
      Rule.groupClose,Rule.alt,Rule.quant,Rule.dot,Rule.caret,Rule.dollar,Rule.classOpen,Rule.delimited,inOrder,oneOf,
      mayStart,special]
  have interpolation : Rule.interpolation.shape.read? (c :: '{' :: s) = none := by
    by_cases opens : c = '<'
    · subst opens
      simp [Rule.interpolation,read?,splitAfter?_eq_none unclosed]
    · exact Shape.read?_eq_none (by simp [Rule.interpolation,mayStart,opens])
  have count : Rule.count.shape.read? (c :: '{' :: s) = none := by
    by_cases opens : c = '{'
    · subst opens
      rfl
    · exact Shape.read?_eq_none (by simp [Rule.count,inOrder,mayStart,opens])
  have nothing : ∀ rule ∈ Rule.outside, rule.shape.read? (c :: '{' :: s) = none := by
    simp only [List.forall_mem_cons] at others
    simp only [Rule.outside,List.forall_mem_append,List.forall_mem_cons,interpolation,count,true_and]
    simp [others,Shape.read?_eq_none]
    exact fun rule member => Shape.read?_eq_none (escapes_mayStart plain rule member)
  rw [← List.append_nil Rule.outside,firstLexeme?_leave nothing]
  rfl

def escapeNames : List Char :=
  ['Q','1','2','3','4','5','6','7','8','9','d','D','w','W','s','S','h','H','v','V','R','X','b','B','A','z','Z','G','K',
    'y','Y']

theorem mem_escapeNames (digit : ('1' ≤ c && c ≤ '9') = true) : c ∈ escapeNames := by
  have bounds : '1' ≤ c ∧ c ≤ '9' := by simpa using digit
  have low : 49 ≤ c.toNat := bounds.1
  have high : c.toNat ≤ 57 := bounds.2
  rw [← Char.ofNat_toNat c]
  generalize c.toNat = n at low high
  interval_cases n
  all_goals decide

theorem firstLexeme?_escaped (plain : c ∉ introducers) (other : c ∉ escapeNames) :
    firstLexeme? Rule.outside ('\\' :: c :: s) = some (.escaped,['\\',c],s) := by
  have digit : ('1' ≤ c && c ≤ '9') = false := Bool.eq_false_iff.mpr fun digit => other (mem_escapeNames digit)
  have apart : ∀ d ∈ introducers ++ escapeNames, ¬ d = c := by
    rintro d member rfl
    exact (List.mem_append.mp member).elim plain other
  have nothing : ∀ rule ∈ Rule.escapes.take 11, rule.shape.read? ('\\' :: c :: s) = none := by
    simp only [introducers,escapeNames,List.forall_mem_append,List.forall_mem_cons,List.not_mem_nil,IsEmpty.forall_iff,
      implies_true,and_true] at apart
    simp [Rule.escapes,Rule.quote,Rule.namedChar,Rule.property,Rule.scalar,Rule.metaControl,Rule.metaKey,Rule.control,
      Rule.backRef,Rule.subpatternCall,Rule.builtinClass,Rule.assertion,Rule.escape,Rule.escapeOf,Rule.delimited,firstOf,
      inOrder,oneOf,read?,List.isPrefixOf,apart,digit,eq_comm (a := c)]
  have split : Rule.outside = Rule.escapes.take 11 ++ Rule.escaped :: Rule.outside.drop 12 := rfl
  rw [split,firstLexeme?_leave nothing]
  rfl

theorem read?_unbraced {h : Char} (hex : isHex h = true) :
    (seq (Rule.escapeOf ['x','u','o']) (Rule.delimited ['{'] '}')).read? ('\\' :: c :: h :: s) = none := by
  have never : (Rule.delimited ['{'] '}').mayStart h = false := by
    have apart : ¬ h = '{' := by
      rintro rfl
      cases hex
    simp [Rule.delimited,mayStart,apart]
  rw [read?]
  split
  · rfl
  · rename_i y rest front
    obtain ⟨d,_,rfl⟩ := fits_escapeOf (fits_of_read? front)
    cases read?_append front
    rw [Shape.read?_eq_none never]

-- A brace is no hexadecimal digit, so a scalar ends before one that is not its own.
theorem read?_scalar (fits : Kind.scalar.shape.Fits x) : Rule.scalar.shape.read? (x ++ '{' :: s) = some (x,'{' :: s) := by
  obtain fits | fits | fits | fits := fits
  · obtain ⟨_,_,front,⟨_,_,rfl,⟨y,_,inside,rfl,rfl⟩,rfl⟩,rfl⟩ := fits
    obtain ⟨c,letter,rfl⟩ := fits_escapeOf front
    have solid : ∀ d ∈ y, d ≠ '}' := fun d member => by simpa using inside d member
    simpa using read?_braced letter solid
  · obtain ⟨_,_,rfl,⟨_,more,⟨h,hex,rfl⟩,second,rfl⟩,rfl⟩ := fits
    have first : Rule.hex.read? ([h] ++ (more ++ '{' :: s)) = some ([h],more ++ '{' :: s) := read?_of_rigid rfl ⟨h,hex,rfl⟩
    have last : (Shape.optional Rule.hex).read? (more ++ '{' :: s) = some (more,'{' :: s) := by
      obtain second | rfl := second
      · exact read?_first (read?_of_rigid rfl second)
      · rfl
    exact (read?_second (read?_unbraced hex)).trans (read?_first (read?_seq (x := ['\\','x']) rfl (read?_seq first last)))
  · have whole : Shape.read? _ (x ++ '{' :: s) = some (x,'{' :: s) := read?_of_rigid rfl fits
    obtain ⟨_,_,rfl,⟨_,_,⟨h,hex,rfl⟩,_,rfl⟩,rfl⟩ := fits
    exact (read?_second (read?_unbraced hex)).trans ((read?_second rfl).trans (read?_first whole))
  · have whole : Shape.read? _ (x ++ '{' :: s) = some (x,'{' :: s) := read?_of_rigid rfl fits
    obtain ⟨_,_,rfl,⟨_,_,⟨h,hex,rfl⟩,_,rfl⟩,rfl⟩ := fits
    exact (read?_second (read?_unbraced hex)).trans whole

end Items

section Tokens

variable {t : Token} {x : List Char}

theorem lex_eq_singleton (single : lex x = [t]) : t.lexeme = x ∧ t.pos = .start ∧
    (firstLexeme? Rule.outside x = some (t.kind,x,[]) ∨
      ∃ c, x = [c] ∧ t.kind = .char ∧ firstLexeme? Rule.outside x = none) := by
  obtain ⟨stand,same⟩ := lex_finish x
  rw [single] at stand same
  have whole : x = t.lexeme := by simpa [written] using same
  refine ⟨whole.symm,stand.1.trans Text.placeAfter_nil,?_⟩
  cases x with
  | nil =>
    rw [lex,lexFrom] at single
    cases single
  | cons c x =>
    cases found : firstLexeme? (rulesAt 0) (c :: x) with
    | none =>
      rw [lex,lexFrom_none found] at single
      obtain ⟨rfl,_⟩ := List.cons.inj single
      exact .inr ⟨c,whole,rfl,found⟩
    | some lexeme =>
      obtain ⟨kind,y,rest⟩ := lexeme
      rw [lex,lexFrom_some found] at single
      obtain ⟨rfl,_⟩ := List.cons.inj single
      have split := (firstLexeme?_append found).1
      obtain rfl : c :: x = y := whole
      cases List.self_eq_append_right.mp split
      exact .inl found

variable {form : CountForm} {mark : List Char} {kind : Kind} {a : Atom} {pos : Text.Position}

theorem firstLexeme?_counted (listed : kind ∈ [.char,.escaped,.scalar]) (read : readAtom ⟨kind,x,pos⟩ = .ok a)
    (found : firstLexeme? Rule.outside x = some (kind,x,[])) :
    firstLexeme? Rule.outside (x ++ form.lexeme mark) = some (kind,x,form.lexeme mark) := by
  obtain ⟨rule,member,rfl,taken⟩ := rule_of_firstLexeme? found
  have fits := fits_of_read? taken
  rw [Mode.root.shape_of_mem rule (List.mem_append_left _ member)] at fits
  simp only [List.mem_cons,List.not_mem_nil,or_false] at listed
  obtain char | escaped | scalar := listed
  · have never : ∀ rule ∈ Rule.outside, rule.kind ≠ .char := by decide
    exact absurd char (never rule member)
  · rw [escaped] at found read fits ⊢
    obtain ⟨c,rfl⟩ := fits_escaped fits
    have plain : c ∉ introducers := by
      intro introduces
      simp [readAtom,Surface.atomKind,introduces,Except.map] at read
    have other : c ∉ escapeNames := by
      have kinds : ∀ c ∈ escapeNames, ((firstLexeme? Rule.outside ['\\',c]).map Prod.fst != some Kind.escaped) = true :=
        List.all_eq_true.mp rfl
      intro named
      have differs := kinds c named
      rw [found] at differs
      cases differs
    exact firstLexeme?_escaped plain other
  · rw [scalar] at fits ⊢
    have taken : Rule.scalar.shape.read? (x ++ form.lexeme mark) = some (x,form.lexeme mark) := read?_scalar fits
    obtain ⟨c,letter,y,rfl,_⟩ := fits_scalar fits
    have reached (s : List Char) : firstLexeme? Rule.outside ('\\' :: c :: s) =
        firstLexeme? (Rule.scalar :: Rule.outside.drop 4) ('\\' :: c :: s) := by
      simp only [List.mem_cons,List.not_mem_nil,or_false] at letter
      obtain rfl | rfl | rfl | rfl := letter
      all_goals rfl
    rw [List.cons_append,List.cons_append,reached,firstLexeme?]
    rw [List.cons_append,List.cons_append] at taken
    rw [taken]
    rfl

-- What was read as a whole pattern is read in the same way in front of a count.
theorem lex_counted (single : lex x = [t]) (listed : t.kind ∈ [.char,.escaped,.scalar]) (read : readAtom t = .ok a)
    (modifier : mark ∈ [[],['?'],['+']]) :
    lex (x ++ form.lexeme mark) = [t,⟨.count,form.lexeme mark,t.stop⟩] := by
  have count (pos : Text.Position) : lexFrom 0 pos (form.lexeme mark) = [⟨.count,form.lexeme mark,pos⟩] := by
    have found : firstLexeme? (rulesAt 0) (form.lexeme mark) = _ := firstLexeme?_count form modifier
    rw [lexFrom_some found,lexFrom]
  obtain ⟨rfl,place,taken⟩ := lex_eq_singleton single
  obtain ⟨kind,x,pos⟩ := t
  dsimp only at place taken listed
  subst place
  obtain found | ⟨c,rfl,rfl,alone⟩ := taken
  · have front : firstLexeme? (rulesAt 0) (x ++ form.lexeme mark) = some (kind,x,form.lexeme mark) :=
      firstLexeme?_counted listed read found
    have outside : depthAfter 0 kind = 0 := by
      simp only [List.mem_cons,List.not_mem_nil,or_false] at listed
      obtain rfl | rfl | rfl := listed
      all_goals rfl
    rw [lex,lexFrom_some front,outside,count]
    rfl
  · have plain : c ≠ '\\' := by
      rintro rfl
      cases read
    have front : firstLexeme? (rulesAt 0) (c :: form.lexeme mark) = none :=
      firstLexeme?_char_brace alone plain (form.not_infix modifier)
    rw [lex,List.singleton_append,lexFrom_none front,count]
    rfl

end Tokens

end LexPattern.Token

namespace LexPattern.Surface

open Token (CountForm Numeral)
open Token.Shape (read?_run)
open Text (Position)

def Greed.mark : Greed → List Char
  | eager => []
  | reluctant => ['?']
  | possessive => ['+']

theorem Greed.mark_mem (greed : Greed) : greed.mark ∈ [[],['?'],['+']] := by
  cases greed with
  | eager | reluctant | possessive => decide

theorem readGreed_mark (greed : Greed) : readGreed greed.mark = greed := by
  cases greed with
  | eager | reluctant | possessive => rfl

section Amounts

variable {cs rest : List Char} {c : Char}

def amountOf : CountForm → Amount
  | .exactly n => .exactly (readCount n.digits)
  | .atLeast n => .atLeast (readCount n.digits)
  | .atMost n => .atMost (readCount n.digits)
  | .between n m => .between (readCount n.digits) (readCount m.digits)

theorem readBounds_text (form : CountForm) : readBounds form.text = amountOf form := by
  have cut (n : Numeral) (rest : List Char) (stops : ∀ c ∈ rest.head?, (c != ',') = false) :
      (n.digits ++ rest).takeWhile (· != ',') = n.digits ∧ (n.digits ++ rest).dropWhile (· != ',') = rest := by
    have inside : ∀ c ∈ n.digits, (c != ',') = true := by
      intro c member
      have digit := n.decimal c member
      rw [bne_iff_ne]
      rintro rfl
      cases digit
    exact Prod.mk.inj (Option.some.inj (read?_run inside stops))
  cases form with
  | exactly n =>
    have whole := cut n [] (by simp)
    rw [List.append_nil] at whole
    simp [readBounds,CountForm.text,whole,amountOf]
  | atLeast n => simp [readBounds,CountForm.text,cut n [','] (by simp),amountOf,n.visible]
  | atMost n => simp [readBounds,CountForm.text,amountOf]
  | between n m => simp [readBounds,CountForm.text,cut n (',' :: m.digits) (by simp),amountOf,n.visible,m.visible]

theorem readAmount_lexeme (form : CountForm) (mark : List Char) : readAmount (form.lexeme mark) = (amountOf form,mark) := by
  have inside : ∀ c ∈ form.text, (c != '}') = true := by
    intro c member
    have plain := form.mem_text c member
    rw [bne_iff_ne]
    rintro rfl
    exact absurd plain (by decide)
  have stops : ∀ c ∈ ('}' :: mark).head?, (c != '}') = false := by simp
  obtain ⟨taken,left⟩ := Prod.mk.inj (Option.some.inj (read?_run inside stops))
  have reached : readAmount ('{' :: (form.text ++ '}' :: mark)) =
    (readBounds ((form.text ++ '}' :: mark).takeWhile (· != '}')),
      ((form.text ++ '}' :: mark).dropWhile (· != '}')).drop 1) := rfl
  rw [CountForm.lexeme,reached,taken,left,readBounds_text]
  rfl

end Amounts

section Parsing

variable {limit : Nat} {t q : Token} {eof : Position} {n : Node}

theorem item_atom (listed : t.kind ∈ [.char,.escaped,.scalar]) (read : Builder.item t = .ok n) :
    ∃ a, readAtom t = .ok a ∧ n = .atom a := by
  obtain ⟨kind,x,pos⟩ := t
  simp only [List.mem_cons,List.not_mem_nil,or_false] at listed
  obtain rfl | rfl | rfl := listed
  all_goals
    simp only [Builder.item] at read
    split at read
    · rename_i a atom
      cases read
      exact ⟨a,atom,rfl⟩
    · cases read

theorem ofTokens_singleton (listed : t.kind ∈ [.char,.escaped,.scalar]) : ofTokens limit [t] eof = Builder.item t := by
  obtain ⟨kind,x,pos⟩ := t
  simp only [List.mem_cons,List.not_mem_nil,or_false] at listed
  obtain rfl | rfl | rfl := listed
  all_goals
    simp only [ofTokens,Builder.run,Builder.step,Builder.new,Builder.stepExpression]
    cases Builder.item _ with
    | error fault => rfl
    | ok n => rfl

theorem ofTokens_counted (count : q.kind = .count) (read : Builder.item t = .ok n) : ofTokens limit [t,q] eof =
    .ok (.quantification ⟨t.pos,q.stop⟩ (readAmount q.lexeme).1 (readGreed (readAmount q.lexeme).2) n) := by
  have atom : Derives eof 0 (.atom n) [t] [q] := .token read
  exact (atom.once.quantified (.inr count)).ofTokens_item (Nat.zero_le limit)

-- A pattern of one item and a count behind it is the item repeated.
theorem parse_counted {limit : Int} {x : String} (single : Token.lex x.toList = [t]) (listed : t.kind ∈ [.char,.escaped,.scalar])
    (parsed : parse limit x.toUTF8 = .ok n) (form : CountForm) (greed : Greed) :
    (∃ a, n = .atom a) ∧ parse limit (x ++ String.ofList (form.lexeme greed.mark)).toUTF8 =
      .ok (.quantification ⟨.start,Position.start.advance (x.toList ++ form.lexeme greed.mark)⟩ (amountOf form) greed
        n) := by
  rw [parse_toUTF8,ofChars,single,ofTokens_singleton listed] at parsed
  obtain ⟨a,atom,isAtom⟩ := item_atom listed parsed
  obtain ⟨lexeme,place,_⟩ := Token.lex_eq_singleton single
  have stop : t.stop.advance (form.lexeme greed.mark) = Position.start.advance (x.toList ++ form.lexeme greed.mark) := by
    rw [Token.stop,place,lexeme]
    exact List.foldl_append.symm
  refine ⟨⟨a,isAtom⟩,?_⟩
  rw [parse_toUTF8,ofChars,String.toList_append,String.toList_ofList,Token.lex_counted single listed atom greed.mark_mem,
    ofTokens_counted rfl parsed,readAmount_lexeme,readGreed_mark,place,Token.stop,stop]

end Parsing

end LexPattern.Surface
