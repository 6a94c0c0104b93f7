import Mathlib
import LexPattern.Proofs.Token.Lexemes

namespace LexPattern.Token

open Shape (splitAfter?)

def Kind.marks : Kind → List (List Char × List Char)
  | namedChar => [(['\\','N','{'],['}'])]
  | property => [(['\\','p','{'],['}']),(['\\','P','{'],['}'])]
  | posix => [(['[',':'],[':',']'])]
  | backRef => [(['\\','k','<'],['>']),(['\\','k','\''],['\'']),(['\\','k','{'],['}']),(['\\','g','{'],['}'])]
  | subpatternCall => [(['\\','g','<'],['>']),(['\\','g','\''],['\''])]
  | recurse => [(['(','?'],[')'])]
  | groupOpen => [(['(','?','<'],['>']),(['(','?','P','<'],['>']),(['(','?','\''],['\''])]
  | optionsOpen => [(['(','?'],[')']),(['(','?'],[':'])]
  | interpolation => [(['<','{'],['}','>'])]
  | quote => [(['\\','Q'],['\\','E']),(['\\','Q'],[])]
  | _ => []

-- The token is made of two marks and what stands between them. A quotation that is not closed has no closing mark in it.
structure Between (t : Token) (opening body closing : List Char) : Prop where
  marks : (opening,closing) ∈ t.kind.marks
  lexeme : t.lexeme = opening ++ (body ++ closing)
  unclosed : closing = [] → ¬ ['\\','E'] <:+: body

def Marked (t : Token) : Prop := ∃ opening body closing, t.Between opening body closing

-- The lexemes of these kinds that have no marks: a property of one letter, a number, a group without a name.
def Bare (t : Token) : Prop :=
  match t.kind with
  | .property => ∃ c ∈ ['p','P'], ∃ letter, isLetter letter = true ∧ t.lexeme = ['\\',c,letter]
  | .backRef => ∃ number, (∀ c ∈ number, isDigit c = true ∨ c = '-') ∧
      (t.lexeme = '\\' :: number ∨ t.lexeme = '\\' :: 'g' :: number)
  | .groupOpen => t.lexeme ∈ [['('],['(','?',':'],['(','?','>'],['(','?','='],['(','?','!'],['(','?','<','='],
      ['(','?','<','!']]
  | _ => False

section Marks

variable {t : Token} {s x rest stop : List Char} {depth : Nat} {ts : List Token}

theorem not_infix_of_splitAfter? (missing : splitAfter? stop s = none) : ¬ stop <:+: s := by
  induction s with
  | nil =>
    rw [splitAfter?] at missing
    rintro ⟨front,back,same⟩
    have nothing : stop = [] := by
      have none := List.append_eq_nil_iff.mp same
      exact (List.append_eq_nil_iff.mp none.1).2
    simp [nothing] at missing
  | cons c s ih =>
    rw [splitAfter?] at missing
    split at missing
    · cases missing
    · rename_i elsewhere
      rw [List.infix_cons_iff]
      rintro (here | later)
      · exact elsewhere (List.isPrefixOf_iff_prefix.mpr here)
      · exact ih (Option.map_eq_none_iff.mp missing) later

theorem splitAfter?_eq_none (missing : ¬ stop <:+: s) : splitAfter? stop s = none := by
  induction s with
  | nil =>
    have visible : stop.isEmpty = false := by
      cases stop with
      | nil => exact absurd (List.nil_infix) missing
      | cons c stop => rfl
    rw [splitAfter?,visible]
    rfl
  | cons c s ih =>
    rw [List.infix_cons_iff,not_or] at missing
    rw [splitAfter?,if_neg fun here => missing.1 (List.isPrefixOf_iff_prefix.mp here),ih missing.2]
    rfl

-- A stretch ends with the first closing mark, even when the text before it ends like one.
theorem splitAfter?_eq_some {y : List Char} (visible : stop ≠ []) (first : ¬ stop <:+: y ++ stop.dropLast) :
    splitAfter? stop (y ++ (stop ++ rest)) = some (y ++ stop,rest) := by
  induction y with
  | nil =>
    cases stop with
    | nil => exact absurd rfl visible
    | cons c stop => simp [splitAfter?]
  | cons c y ih =>
    rw [List.cons_append,List.infix_cons_iff,not_or] at first
    have later : ¬ stop.isPrefixOf (c :: (y ++ (stop ++ rest))) = true := by
      intro here
      have shorter : c :: (y ++ stop.dropLast) <+: c :: (y ++ (stop ++ rest)) := by
        refine ⟨stop.getLast visible :: rest,?_⟩
        conv_rhs => rw [← List.dropLast_append_getLast visible]
        simp
      refine first.1 (List.prefix_of_prefix_length_le (List.isPrefixOf_iff_prefix.mp here) shorter ?_)
      simp only [List.length_cons,List.length_append,List.length_dropLast]
      omega
    rw [List.cons_append,splitAfter?,if_neg later,ih first.2]
    rfl

theorem Cut.read (cut : Cut depth (t :: ts)) :
    t.kind.shape.read? (t.lexeme ++ written ts) = some (t.lexeme,written ts) := by
  cases cut with
  | cons found _ =>
    obtain ⟨rule,member,kind,read⟩ := rule_of_firstFit? found
    rwa [Mode.shape_of_mem _ rule member,kind] at read

-- A quotation ends with its first closing mark, or with the text when there is none.
theorem marks_of_quote (read : Kind.quote.shape.read? s = some (x,rest)) :
    ∃ body closing, (['\\','Q'],closing) ∈ Kind.quote.marks ∧ x = ['\\','Q'] ++ (body ++ closing) ∧
      (closing = [] → ¬ ['\\','E'] <:+: body) := by
  unfold Kind.shape Rule.quote at read
  rw [Shape.read?] at read
  split at read
  · cases read
  · rename_i y s' front
    obtain rfl : y = ['\\','Q'] := Shape.fits_of_read? front
    split at read
    · cases read
    · rename_i z s'' behind
      cases read
      rw [Shape.read?] at behind
      split at behind
      · rename_i found ends
        cases behind
        obtain ⟨body,rfl⟩ := Shape.splitAfter?_fits ends
        exact ⟨body,['\\','E'],by simp [Kind.marks],rfl,by simp⟩
      · rename_i endless
        cases behind
        refine ⟨s'.takeWhile fun _ => true,[],by simp [Kind.marks],by simp,fun _ => ?_⟩
        rw [List.takeWhile_eq_self_iff.mpr (by simp)]
        exact not_infix_of_splitAfter? endless

theorem marked_of_lexeme (opening closing : List Char) {body : List Char} (marks : (opening,closing) ∈ t.kind.marks)
    (lexeme : t.lexeme = opening ++ (body ++ closing)) (closes : closing ≠ []) : t.Marked :=
  ⟨opening,body,closing,marks,lexeme,fun none => absurd none closes⟩

theorem marked_or_bare_property (kind : t.kind = .property) (fits : Kind.property.shape.Fits t.lexeme) :
    t.Marked ∨ t.Bare := by
  obtain ⟨_,_,front,braces | ⟨letter,isLetter,rfl⟩,same⟩ := fits
  all_goals obtain ⟨c,listed,rfl⟩ := fits_escapeOf front
  · obtain ⟨y,rfl⟩ := fits_delimited braces
    refine .inl (marked_of_lexeme ['\\',c,'{'] ['}'] ?_ same (by simp))
    simpa [kind,Kind.marks] using listed
  · refine .inr ?_
    simp only [Bare,kind]
    exact ⟨c,listed,letter,isLetter,same⟩

theorem marked_or_bare_backRef (kind : t.kind = .backRef) (fits : Kind.backRef.shape.Fits t.lexeme) :
    t.Marked ∨ t.Bare := by
  obtain fits | fits | fits | fits | fits | fits := fits
  case inl =>
    obtain ⟨_,_,rfl,⟨_,others,⟨c,first,rfl⟩,digits,rfl⟩,same⟩ := fits
    have numeral : ∀ d ∈ others, isDigit d = true := digits
    refine .inr ?_
    simp only [Bare,kind]
    have digit : isDigit c = true := by
      have between : '1' ≤ c ∧ c ≤ '9' := by simpa using first
      simpa [isDigit] using ⟨le_trans (by decide) between.1,between.2⟩
    exact ⟨c :: others,List.forall_mem_cons.mpr ⟨.inl digit,fun d member => .inl (numeral d member)⟩,.inl same⟩
  case inr.inr.inr.inr.inr =>
    obtain ⟨_,_,rfl,⟨sign,_,signs,⟨_,others,⟨c,first,rfl⟩,digits,rfl⟩,rfl⟩,same⟩ := fits
    have numeral : ∀ d ∈ others, isDigit d = true := digits
    refine .inr ?_
    simp only [Bare,kind]
    refine ⟨sign ++ c :: others,List.forall_mem_append.mpr ⟨?_,List.forall_mem_cons.mpr
      ⟨.inl first,fun d member => .inl (numeral d member)⟩⟩,.inr same⟩
    obtain rfl | rfl := signs
    · simp
    · simp
  all_goals
    obtain ⟨y,same⟩ := fits_delimited fits
    exact .inl (marked_of_lexeme _ _ (by simp [kind,Kind.marks]) same (by simp))

theorem marked_or_bare_groupOpen (kind : t.kind = .groupOpen) (fits : Kind.groupOpen.shape.Fits t.lexeme) :
    t.Marked ∨ t.Bare := by
  obtain ⟨_,_,rfl,⟨_,_,rfl,fits,rfl⟩ | rfl,same⟩ := fits
  · obtain rfl | rfl | rfl | rfl | rfl | rfl | fits | fits := fits
    case inr.inr.inr.inr.inr.inr.inl =>
      obtain ⟨_,_,letters,⟨_,_,rfl,⟨y,_,_,rfl,rfl⟩,rfl⟩,rfl⟩ := fits
      obtain rfl | rfl := letters
      · exact .inl (marked_of_lexeme ['(','?','P','<'] ['>'] (by simp [kind,Kind.marks]) same (by simp))
      · exact .inl (marked_of_lexeme ['(','?','<'] ['>'] (by simp [kind,Kind.marks]) same (by simp))
    case inr.inr.inr.inr.inr.inr.inr =>
      obtain ⟨_,_,rfl,⟨y,_,_,rfl,rfl⟩,rfl⟩ := fits
      exact .inl (marked_of_lexeme ['(','?','\''] ['\''] (by simp [kind,Kind.marks]) same (by simp))
    all_goals
      refine .inr ?_
      simp [Bare,kind,same]
  · refine .inr ?_
    simp [Bare,kind,same]

theorem Cut.marked_or_bare (cut : Cut depth (t :: ts)) (marked : t.kind.marks ≠ []) : t.Marked ∨ t.Bare := by
  have fits := cut.lexed.fits
  have read := cut.read
  obtain ⟨kind,lexeme,pos⟩ := t
  dsimp only at fits read marked
  cases kind with
  | property => exact marked_or_bare_property rfl fits
  | backRef => exact marked_or_bare_backRef rfl fits
  | groupOpen => exact marked_or_bare_groupOpen rfl fits
  | namedChar =>
    obtain ⟨y,same⟩ := fits_namedChar fits
    exact .inl (marked_of_lexeme _ _ (by simp [Kind.marks]) same (by simp))
  | posix =>
    obtain ⟨y,same⟩ := fits_posix fits
    exact .inl (marked_of_lexeme _ _ (by simp [Kind.marks]) same (by simp))
  | subpatternCall =>
    obtain fits | fits := fits
    all_goals
      obtain ⟨y,same⟩ := fits_delimited fits
      exact .inl (marked_of_lexeme _ _ (by simp [Kind.marks]) same (by simp))
  | recurse =>
    obtain ⟨y,same⟩ := fits_recurse fits
    exact .inl (marked_of_lexeme _ _ (by simp [Kind.marks]) same (by simp))
  | optionsOpen =>
    obtain ⟨c,listed,y,_,same⟩ := fits_optionsOpen fits
    refine .inl (marked_of_lexeme ['(','?'] [c] ?_ same (by simp))
    simpa [Kind.marks,or_comm] using listed
  | interpolation =>
    obtain ⟨y,same⟩ := fits_interpolation fits
    exact .inl (marked_of_lexeme _ _ (by simp [Kind.marks]) same (by simp))
  | quote =>
    obtain ⟨body,closing,marks,same,unclosed⟩ := marks_of_quote read
    exact .inl ⟨_,body,closing,marks,same,unclosed⟩
  | _ => exact absurd rfl marked

end Marks

end LexPattern.Token
