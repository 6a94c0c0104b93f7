import Mathlib
import LexPattern.Proofs.Token.Scanning

namespace LexPattern.Token

open Shape

-- The texts that a shape can read, whatever follows them.
def Shape.Fits : Shape → List Char → Prop
  | word cs,x => x = cs
  | one allowed,x => ∃ c, allowed c = true ∧ x = [c]
  | run allowed,x => ∀ c ∈ x, allowed c = true
  | through stop,x => ∃ y, x = y ++ stop
  | seq first second,x => ∃ y z, first.Fits y ∧ second.Fits z ∧ x = y ++ z
  | either first second,x => first.Fits x ∨ second.Fits x

def Kind.shape : Kind → Shape
  | quote => Rule.quote.shape
  | namedChar => Rule.namedChar.shape
  | property => Rule.property.shape
  | scalar => Rule.scalar.shape
  | metaControl => Rule.metaControl.shape
  | metaKey => Rule.metaKey.shape
  | control => Rule.control.shape
  | backRef => Rule.backRef.shape
  | subpatternCall => Rule.subpatternCall.shape
  | builtinClass => Rule.builtinClass.shape
  | assertion => Rule.assertion.shape
  | escaped => Rule.escaped.shape
  | comment => Rule.comment.shape
  | callout => Rule.callout.shape
  | verb => Rule.verb.shape
  | recurse => Rule.recurse.shape
  | condOpen => Rule.condOpen.shape
  | absentOpen => Rule.absentOpen.shape
  | optionsOpen => Rule.optionsOpen.shape
  | groupOpen => Rule.groupOpen.shape
  | groupClose => Rule.groupClose.shape
  | interpolation => Rule.interpolation.shape
  | alt => Rule.alt.shape
  | quant => Rule.quant.shape
  | count => Rule.count.shape
  | dot => Rule.dot.shape
  | caret => Rule.caret.shape
  | dollar => Rule.dollar.shape
  | classOpen => Rule.classOpen.shape
  | classClose => Rule.classClose.shape
  | posix => Rule.posix.shape
  | setOp => Rule.setOp.shape
  | dash => Rule.dash.shape
  | char => Rule.char.shape

structure Lexed (mode : Mode) (t : Token) : Prop where
  kind : t.kind ∈ mode.rules.map Rule.kind
  fits : t.kind.shape.Fits t.lexeme

section Reading

variable {s x rest stop : List Char} {shape : Shape}

theorem Shape.splitAfter?_fits (found : splitAfter? stop s = some (x,rest)) : ∃ y, x = y ++ stop := by
  induction s generalizing x with
  | nil =>
    rw [splitAfter?] at found
    split at found
    · rename_i nothing
      cases found
      exact ⟨[],by simpa using nothing⟩
    · cases found
  | cons c cs ih =>
    rw [splitAfter?] at found
    split at found
    · cases found
      exact ⟨[],rfl⟩
    · obtain ⟨⟨y,r⟩,inner,joined⟩ := Option.map_eq_some_iff.mp found
      cases joined
      obtain ⟨front,rfl⟩ := ih inner
      exact ⟨c :: front,rfl⟩

theorem Shape.fits_of_read? (found : shape.read? s = some (x,rest)) : shape.Fits x := by
  induction shape generalizing s x rest with
  | word cs =>
    rw [read?] at found
    split at found
    · cases found
      rfl
    · cases found
  | one allowed =>
    cases s with
    | nil => cases found
    | cons c s =>
      rw [read?] at found
      split at found
      · rename_i allows
        cases found
        exact ⟨c,allows,rfl⟩
      · cases found
  | run allowed =>
    cases found
    exact fun c member => List.mem_takeWhile_imp member
  | through stop => exact splitAfter?_fits found
  | seq first second ih₁ ih₂ =>
    rw [read?] at found
    split at found
    · cases found
    · rename_i y s' read
      split at found
      · cases found
      · rename_i z s'' read'
        cases found
        exact ⟨y,z,ih₁ read,ih₂ read',rfl⟩
  | either first second ih₁ ih₂ =>
    rw [read?] at found
    split at found
    · rename_i y read
      cases found
      exact .inl (ih₁ read)
    · exact .inr (ih₂ found)

-- Whether what a shape reads has nothing to do with what is behind it: there is neither a run nor a choice in it.
def Shape.rigid : Shape → Bool
  | word _ => true
  | one _ => true
  | seq first second => first.rigid && second.rigid
  | _ => false

theorem Shape.read?_of_rigid (fixed : shape.rigid = true) (fits : shape.Fits x) : shape.read? (x ++ rest) = some (x,rest) := by
  induction shape generalizing x rest with
  | word cs =>
    obtain rfl : x = cs := fits
    simp [read?]
  | one allowed =>
    obtain ⟨c,allows,rfl⟩ := fits
    simp [read?,allows]
  | seq first second ih₁ ih₂ =>
    obtain ⟨y,z,fits₁,fits₂,rfl⟩ := fits
    rw [rigid,Bool.and_eq_true] at fixed
    rw [List.append_assoc]
    exact read?_seq (ih₁ fixed.1 fits₁) (ih₂ fixed.2 fits₂)
  | run | through | either => cases fixed

theorem Mode.shape_of_mem (mode : Mode) : ∀ rule ∈ mode.rules, rule.shape = rule.kind.shape := by
  cases mode with
  | root =>
    simp only [Mode.rules,Rule.outside,Rule.escapes,List.cons_append,List.nil_append,List.forall_mem_cons,List.not_mem_nil,
      IsEmpty.forall_iff,implies_true,and_true]
    and_intros
    all_goals rfl
  | brackets =>
    simp only [Mode.rules,Rule.inside,Rule.escapes,List.cons_append,List.nil_append,List.forall_mem_cons,List.not_mem_nil,
      IsEmpty.forall_iff,implies_true,and_true]
    and_intros
    all_goals rfl

theorem Cut.lexed {depth : Nat} {t : Token} {ts : List Token} (cut : Cut depth (t :: ts)) : Lexed (modeAt depth) t := by
  cases cut with
  | cons found _ =>
    obtain ⟨rule,member,kind,read⟩ := rule_of_firstFit? found
    have fits := fits_of_read? read
    rw [Mode.shape_of_mem _ rule member,kind] at fits
    exact ⟨List.mem_map.mpr ⟨rule,member,kind⟩,fits⟩

end Reading

section Kinds

variable {x opening : List Char} {close : Char}

theorem fits_delimited (fits : (Rule.delimited opening close).Fits x) : ∃ y, x = opening ++ (y ++ [close]) := by
  obtain ⟨_,_,rfl,⟨y,_,_,rfl,rfl⟩,rfl⟩ := fits
  exact ⟨y,rfl⟩

theorem fits_escapeOf {cs : List Char} (fits : (Rule.escapeOf cs).Fits x) : ∃ c ∈ cs, x = ['\\',c] := by
  obtain ⟨_,_,rfl,⟨c,listed,rfl⟩,rfl⟩ := fits
  exact ⟨c,List.contains_iff_mem.mp listed,rfl⟩

theorem fits_namedChar (fits : Kind.namedChar.shape.Fits x) : ∃ y, x = ['\\','N','{'] ++ (y ++ ['}']) := fits_delimited fits

theorem fits_property (fits : Kind.property.shape.Fits x) : ∃ c ∈ ['p','P'], ∃ y, x = '\\' :: c :: y := by
  obtain ⟨_,y,front,_,rfl⟩ := fits
  obtain ⟨c,letter,rfl⟩ := fits_escapeOf front
  exact ⟨c,letter,y,rfl⟩

theorem fits_posix (fits : Kind.posix.shape.Fits x) : ∃ y, x = ['[',':'] ++ (y ++ [':',']']) := by
  obtain ⟨_,_,rfl,⟨caret,_,_,⟨first,_,_,⟨others,_,_,rfl,rfl⟩,rfl⟩,rfl⟩,rfl⟩ := fits
  exact ⟨caret ++ (first ++ others),by simp⟩

theorem fits_escaped (fits : Kind.escaped.shape.Fits x) : ∃ c, x = ['\\',c] := by
  obtain ⟨_,_,rfl,⟨c,_,rfl⟩,rfl⟩ := fits
  exact ⟨c,rfl⟩

theorem fits_backRef (fits : Kind.backRef.shape.Fits x) : ∃ y, x = '\\' :: y := by
  obtain fits | fits | fits | fits | fits | fits := fits
  · obtain ⟨_,y,rfl,_,rfl⟩ := fits
    exact ⟨y,rfl⟩
  · obtain ⟨y,rfl⟩ := fits_delimited fits
    exact ⟨_,rfl⟩
  · obtain ⟨y,rfl⟩ := fits_delimited fits
    exact ⟨_,rfl⟩
  · obtain ⟨y,rfl⟩ := fits_delimited fits
    exact ⟨_,rfl⟩
  · obtain ⟨y,rfl⟩ := fits_delimited fits
    exact ⟨_,rfl⟩
  · obtain ⟨_,y,rfl,_,rfl⟩ := fits
    exact ⟨_,rfl⟩

theorem fits_subpatternCall (fits : Kind.subpatternCall.shape.Fits x) : ∃ y, x = '\\' :: 'g' :: y := by
  obtain fits | fits := fits
  · obtain ⟨y,rfl⟩ := fits_delimited fits
    exact ⟨_,rfl⟩
  · obtain ⟨y,rfl⟩ := fits_delimited fits
    exact ⟨_,rfl⟩

-- Digits do not begin with a brace; a brace is closed.
theorem fits_scalar (fits : Kind.scalar.shape.Fits x) : ∃ c ∈ ['x','u','o','U'], ∃ y, x = '\\' :: c :: y ∧
    (y.head? = some '{' → ∃ z, y = ['{'] ++ (z ++ ['}'])) := by
  have digit {c : Char} {y : List Char} (hex : isHex c = true) (brace : (c :: y).head? = some '{') :
      ∃ z, c :: y = ['{'] ++ (z ++ ['}']) := by
    obtain rfl : c = '{' := Option.some.inj brace
    exact absurd hex (by decide)
  obtain fits | fits | fits | fits := fits
  · obtain ⟨_,y,front,braces,rfl⟩ := fits
    obtain ⟨c,letter,rfl⟩ := fits_escapeOf front
    exact ⟨c,List.mem_append_left ['U'] letter,y,rfl,fun _ => fits_delimited braces⟩
  · obtain ⟨_,_,rfl,⟨_,y,⟨c,hex,rfl⟩,_,rfl⟩,rfl⟩ := fits
    exact ⟨'x',by decide,c :: y,rfl,digit hex⟩
  · obtain ⟨_,_,rfl,⟨_,y,⟨c,hex,rfl⟩,_,rfl⟩,rfl⟩ := fits
    exact ⟨'u',by decide,c :: y,rfl,digit hex⟩
  · obtain ⟨_,_,rfl,⟨_,y,⟨c,hex,rfl⟩,_,rfl⟩,rfl⟩ := fits
    exact ⟨'U',by decide,c :: y,rfl,digit hex⟩

theorem fits_optionsOpen (fits : Kind.optionsOpen.shape.Fits x) :
    ∃ c ∈ [':',')'], ∃ y, y ≠ [] ∧ x = ['(','?'] ++ (y ++ [c]) := by
  obtain ⟨_,_,rfl,⟨y,_,flags,⟨c,listed,rfl⟩,rfl⟩,rfl⟩ := fits
  refine ⟨c,List.contains_iff_mem.mp listed,y,?_,rfl⟩
  obtain ⟨_,_,rfl,_,rfl⟩ | ⟨_,_,⟨c,_,rfl⟩,_,rfl⟩ | ⟨_,_,rfl,_,rfl⟩ := flags
  all_goals simp

theorem fits_interpolation (fits : Kind.interpolation.shape.Fits x) : ∃ y, x = ['<','{'] ++ (y ++ ['}','>']) := by
  obtain ⟨_,_,rfl,⟨y,rfl⟩,rfl⟩ := fits
  exact ⟨y,rfl⟩

theorem fits_recurse (fits : Kind.recurse.shape.Fits x) : ∃ y, x = ['(','?'] ++ (y ++ [')']) := by
  obtain ⟨_,_,rfl,⟨y,_,_,rfl,rfl⟩,rfl⟩ := fits
  exact ⟨y,rfl⟩

theorem fits_quant (fits : Kind.quant.shape.Fits x) : ∃ c ∈ ['*','+','?'], ∃ y, x = c :: y := by
  obtain ⟨_,y,⟨c,listed,rfl⟩,_,rfl⟩ := fits
  exact ⟨c,List.contains_iff_mem.mp listed,y,rfl⟩

theorem fits_count (fits : Kind.count.shape.Fits x) :
    ∃ y z, (∀ c ∈ y, isDigit c = true ∨ c = ',') ∧ x = '{' :: (y ++ '}' :: z) := by
  obtain ⟨_,_,rfl,⟨y,_,bounds,⟨_,z,rfl,_,rfl⟩,rfl⟩,rfl⟩ := fits
  refine ⟨y,z,?_,rfl⟩
  obtain bounds | bounds := bounds
  · obtain ⟨_,_,⟨d,digit,rfl⟩,⟨ds,_,digits,upper,rfl⟩,rfl⟩ := bounds
    have lower : ∀ c ∈ ds, isDigit c = true := digits
    obtain ⟨_,es,rfl,digits',rfl⟩ | rfl := upper
    · have higher : ∀ c ∈ es, isDigit c = true := digits'
      grind
    · grind
  · obtain ⟨_,_,rfl,⟨_,ds,⟨d,digit,rfl⟩,digits,rfl⟩,rfl⟩ := bounds
    have higher : ∀ c ∈ ds, isDigit c = true := digits
    grind

theorem fits_groupOpen (fits : Kind.groupOpen.shape.Fits x) :
    x ∈ [['('],['(','?',':'],['(','?','>'],['(','?','='],['(','?','!'],['(','?','<','='],['(','?','<','!']] ∨
      ∃ m ∈ ['<','\''], ∃ n ∈ ['>','\''], ∃ y, x.dropWhile ['(','?','P'].contains = [m] ++ (y ++ [n]) := by
  obtain ⟨_,_,rfl,fits,rfl⟩ := fits
  obtain ⟨_,_,rfl,fits,rfl⟩ | rfl := fits
  · obtain rfl | rfl | rfl | rfl | rfl | rfl | fits | fits := fits
    · exact .inl (by decide)
    · exact .inl (by decide)
    · exact .inl (by decide)
    · exact .inl (by decide)
    · exact .inl (by decide)
    · exact .inl (by decide)
    · obtain ⟨letter,_,letters,⟨_,_,rfl,⟨y,_,_,rfl,rfl⟩,rfl⟩,rfl⟩ := fits
      refine .inr ⟨'<',by decide,'>',by decide,y,?_⟩
      obtain rfl | rfl := letters
      · rfl
      · rfl
    · obtain ⟨_,_,rfl,⟨y,_,_,rfl,rfl⟩,rfl⟩ := fits
      exact .inr ⟨'\'',by decide,'\'',by decide,y,rfl⟩
  · exact .inl (by decide)

end Kinds

end LexPattern.Token
