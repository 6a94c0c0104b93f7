import Mathlib
import LexPattern.Surface.Payload
import LexPattern.Proofs.Token.Lexemes

namespace LexPattern.Surface

open Token (Kind)

inductive Defect where
  | scanning (fault : Token.ScanFault)
  -- No token, or no character, at that place.
  | index (place : Nat)
  | slice (text : List Char)
  | notFound (mark : Char) (text : List Char)
  -- A part of the tree is not of the form that it was taken for.
  | form
  | unexpected (lexeme : List Char)
  | unmatchedClose
  | unexpectedEnd
  -- A class ends with a token that is not the bracket that closes it.
  | skipped (token : Option Token.Scanned)
  -- Not inside as many brackets as the lexer was.
  | context (token : Token.Scanned) (brackets : Nat)

-- Offsets count bytes. Where every character has one byte, they count characters as well.
def narrow (cs : List Char) : Bool := cs.all (·.utf8Size == 1)

def charAt (place : Nat) (cs : List Char) : Except Defect Char :=
  match cs[place]? with
  | some c => if narrow (cs.take (place + 1)) then .ok c else .error (.slice cs)
  | none => .error (.index place)

def innerOf (front back : Nat) (cs : List Char) : Except Defect (List Char) :=
  if front + back ≤ cs.length ∧ narrow (cs.take front) = true ∧ narrow (cs.drop (cs.length - back)) = true then
    .ok (inner front back cs)
  else .error (.slice cs)

def between (start stop : Nat) (cs : List Char) : Except Defect (List Char) :=
  if start ≤ stop ∧ stop ≤ cs.length ∧ narrow (cs.take stop) = true then .ok ((cs.take stop).drop start)
  else .error (.slice cs)

def digitsOf (body : List Char) : Except Defect (List Char) :=
  if body.head? = some '{' then innerOf 1 1 body else .ok body

def checkedScalars (lexeme : List Char) : Except Defect (Except ScalarFault (List CodePoint)) := do
  let mark ← charAt 1 lexeme
  let base := if mark = 'o' then 8 else 16
  let body ← innerOf 2 0 lexeme
  let digits ← digitsOf body
  return match Text.fields digits with
    | [] => .error .noDigits
    | fields => fields.mapM (readScalar base)

def checkedAtomKind (t : Token) : Except Defect (Except Cause AtomKind) :=
  match t.kind with
  | .escaped => do
    let body ← innerOf 1 0 t.lexeme
    let c := body.headD (Char.ofNat 0xFFFD)
    return if introducers.contains c then .error (.malformedEscape t.lexeme)
      else .ok (.escaped ((controlEscape? c).getD (.ofChar c)))
  | .scalar => do
    let scalars ← checkedScalars t.lexeme
    return match scalars with
      | .error fault => .error (.invalidScalar t.lexeme fault)
      | .ok [c] => .ok (.scalar c)
      | .ok cs => .ok (.scalarSequence cs)
  | .namedChar => do
    let name ← innerOf 3 1 t.lexeme
    .ok (.ok (.namedCharacter (String.ofList name)))
  | .property => do
    let name ← innerOf 2 0 t.lexeme
    .ok (.ok (.property (String.ofList (trim ['{','}'] name))))
  | .posix => do
    let name ← innerOf 2 2 t.lexeme
    .ok (.ok (.property (String.ofList name)))
  | .backRef => do
    let name ← innerOf 1 0 t.lexeme
    .ok (.ok (.backreference (String.ofList (trim ['<','>','\'','{','}'] (name.dropWhile ['k','g'].contains)))))
  | .subpatternCall => do
    let name ← innerOf 2 0 t.lexeme
    .ok (.ok (.subpattern (String.ofList (trim ['<','>','\''] name))))
  -- The others are read without offsets.
  | _ => .ok (atomKind t)

def checkedAmount (lexeme : List Char) : Except Defect (Amount × List Char) := do
  let mark ← charAt 0 lexeme
  if mark = '*' then
    let modifier ← innerOf 1 0 lexeme
    .ok (.zeroOrMore,modifier)
  else if mark = '+' then
    let modifier ← innerOf 1 0 lexeme
    .ok (.oneOrMore,modifier)
  else if mark = '?' then
    let modifier ← innerOf 1 0 lexeme
    .ok (.zeroOrOne,modifier)
  else
    match lexeme.idxOf? '}' with
    | none => .error (.notFound '}' lexeme)
    | some stop =>
      let bounds ← between 1 stop lexeme
      let modifier ← innerOf (stop + 1) 0 lexeme
      .ok (readBounds bounds,modifier)

-- The kind of a group; the flags of one that sets options are put in later.
def checkedGroupKind (t : Token) : Except Defect GroupKind :=
  match t.lexeme with
  | ['('] => .ok .capture
  | ['(','?',':'] => .ok .nonCapture
  | ['(','?','>'] => .ok .atomic
  | ['(','?','='] => .ok .lookahead
  | ['(','?','!'] => .ok .negativeLookahead
  | ['(','?','<','='] => .ok .lookbehind
  | ['(','?','<','!'] => .ok .negativeLookbehind
  | lexeme =>
    if t.kind = .optionsOpen then .ok (.options "")
    else do
      let name ← innerOf 1 1 (lexeme.dropWhile ['(','?','P'].contains)
      .ok (.named (String.ofList name))

section Offsets

theorem innerOf_marks (opening y closing : List Char) (narrowFront : narrow opening = true)
    (narrowBack : narrow closing = true) :
    innerOf opening.length closing.length (opening ++ (y ++ closing)) =
      .ok (inner opening.length closing.length (opening ++ (y ++ closing))) := by
  refine if_pos ⟨by simp,?_,?_⟩
  · rwa [List.take_left]
  · have back : (opening ++ (y ++ closing)).length - closing.length = (opening ++ y).length := by
      simp
      omega
    rwa [back,← List.append_assoc,List.drop_left]

theorem innerOf_front (opening y : List Char) (narrowFront : narrow opening = true) :
    innerOf opening.length 0 (opening ++ y) = .ok ((opening ++ y).drop opening.length) := by
  have cut := innerOf_marks opening y [] narrowFront rfl
  rw [List.append_nil] at cut
  rw [List.length_nil] at cut
  rw [cut,inner]
  simp

theorem charAt_front (opening : List Char) {c : Char} (y : List Char) (narrowFront : narrow (opening ++ [c]) = true) :
    charAt opening.length (opening ++ c :: y) = .ok c := by
  have front : (opening ++ c :: y).take (opening.length + 1) = opening ++ [c] := by
    rw [List.take_append]
    simp
  unfold charAt
  rw [front]
  simp [narrowFront]

theorem between_front (opening y z : List Char) (narrowFront : narrow (opening ++ y) = true) :
    between opening.length (opening ++ y).length (opening ++ y ++ z) = .ok y := by
  unfold between
  rw [if_pos ⟨by simp,by simp,by rwa [List.take_left]⟩,List.take_left,List.drop_left]

theorem idxOf?_mark {mark : Char} {y : List Char} (z : List Char) (free : mark ∉ y) :
    (y ++ mark :: z).idxOf? mark = some y.length := by
  induction y with
  | nil => simp [List.idxOf?_cons]
  | cons c y ih =>
    obtain ⟨other,free⟩ := not_or.mp (mt List.mem_cons.mpr free)
    rw [List.cons_append,List.idxOf?_cons,ih free]
    simp [Ne.symm other]

end Offsets

section Readers

variable {t : Token} {x : List Char}

theorem checkedScalars_eq (fits : Kind.scalar.shape.Fits x) : checkedScalars x = .ok (readScalars x) := by
  obtain ⟨c,letter,y,rfl,braces⟩ := Token.fits_scalar fits
  have short : narrow ['\\',c] = true := by
    simp only [List.mem_cons,List.not_mem_nil,or_false] at letter
    obtain rfl | rfl | rfl | rfl := letter
    all_goals decide
  have mark : charAt 1 ('\\' :: c :: y) = .ok c := charAt_front ['\\'] y short
  have body : innerOf 2 0 ('\\' :: c :: y) = .ok y := innerOf_front ['\\',c] y short
  have digits : digitsOf y = .ok (if y.head? = some '{' then inner 1 1 y else y) := by
    unfold digitsOf
    split
    · rename_i brace
      obtain ⟨z,rfl⟩ := braces brace
      exact innerOf_marks ['{'] z ['}'] rfl rfl
    · rfl
  unfold checkedScalars readScalars
  simp only [mark,body,digits,bind,Except.bind]
  simp
  rfl

theorem checkedAtomKind_eq (fits : t.kind.shape.Fits t.lexeme) : checkedAtomKind t = .ok (atomKind t) := by
  obtain ⟨kind,x,pos⟩ := t
  cases kind with
  | escaped =>
    obtain ⟨c,rfl⟩ := Token.fits_escaped fits
    have body : innerOf 1 0 ['\\',c] = .ok [c] := innerOf_front ['\\'] [c] rfl
    simp only [checkedAtomKind,body,bind,Except.bind,atomKind]
    rfl
  | scalar =>
    simp only [checkedAtomKind,checkedScalars_eq fits,bind,Except.bind,atomKind]
    rfl
  | namedChar =>
    obtain ⟨y,rfl⟩ := Token.fits_namedChar fits
    have body : innerOf 3 1 (['\\','N','{'] ++ (y ++ ['}'])) = .ok (inner 3 1 (['\\','N','{'] ++ (y ++ ['}']))) :=
      innerOf_marks ['\\','N','{'] y ['}'] rfl rfl
    simp only [checkedAtomKind,body,bind,Except.bind,atomKind]
  | property =>
    obtain ⟨c,letter,y,rfl⟩ := Token.fits_property fits
    have short : narrow ['\\',c] = true := by
      simp only [List.mem_cons,List.not_mem_nil,or_false] at letter
      obtain rfl | rfl := letter
      all_goals decide
    have body : innerOf 2 0 ('\\' :: c :: y) = .ok y := innerOf_front ['\\',c] y short
    simp only [checkedAtomKind,body,bind,Except.bind,atomKind]
    rfl
  | posix =>
    obtain ⟨y,rfl⟩ := Token.fits_posix fits
    have body : innerOf 2 2 (['[',':'] ++ (y ++ [':',']'])) = .ok (inner 2 2 (['[',':'] ++ (y ++ [':',']']))) :=
      innerOf_marks ['[',':'] y [':',']'] rfl rfl
    simp only [checkedAtomKind,body,bind,Except.bind,atomKind]
  | backRef =>
    obtain ⟨y,rfl⟩ := Token.fits_backRef fits
    have body : innerOf 1 0 ('\\' :: y) = .ok y := innerOf_front ['\\'] y rfl
    simp only [checkedAtomKind,body,bind,Except.bind,atomKind]
    rfl
  | subpatternCall =>
    obtain ⟨y,rfl⟩ := Token.fits_subpatternCall fits
    have body : innerOf 2 0 ('\\' :: 'g' :: y) = .ok y := innerOf_front ['\\','g'] y rfl
    simp only [checkedAtomKind,body,bind,Except.bind,atomKind]
    rfl
  | _ => rfl

theorem checkedAmount_quant (fits : Kind.quant.shape.Fits x) : checkedAmount x = .ok (readAmount x) := by
  obtain ⟨c,mark,y,rfl⟩ := Token.fits_quant fits
  have short : narrow [c] = true := by
    simp only [List.mem_cons,List.not_mem_nil,or_false] at mark
    obtain rfl | rfl | rfl := mark
    all_goals decide
  have first : charAt 0 (c :: y) = .ok c := charAt_front [] y short
  have modifier : innerOf 1 0 (c :: y) = .ok y := innerOf_front [c] y short
  simp only [checkedAmount,first,modifier,bind,Except.bind]
  simp only [List.mem_cons,List.not_mem_nil,or_false] at mark
  obtain rfl | rfl | rfl := mark
  all_goals rfl

theorem utf8Size_digit {c : Char} (digit : Token.isDigit c = true) : c.utf8Size = 1 := by
  simp only [Token.isDigit,Bool.and_eq_true,decide_eq_true_eq] at digit
  have small : c.val ≤ 0x7F := Std.le_trans digit.2 (by decide)
  simp [Char.utf8Size,small]

theorem checkedAmount_count (fits : Kind.count.shape.Fits x) : checkedAmount x = .ok (readAmount x) := by
  obtain ⟨y,z,digits,rfl⟩ := Token.fits_count fits
  have free : ∀ c ∈ y, c ≠ '}' := by
    rintro _ member rfl
    exact absurd (digits _ member) (by decide)
  have short : narrow ('{' :: y) = true := by
    refine List.all_eq_true.mpr fun c member => ?_
    obtain rfl | member := List.mem_cons.mp member
    · rfl
    · obtain digit | rfl := digits c member
      · simp [utf8Size_digit digit]
      · rfl
  have first : charAt 0 ('{' :: (y ++ '}' :: z)) = .ok '{' := charAt_front [] (y ++ '}' :: z) rfl
  have found : ('{' :: (y ++ '}' :: z)).idxOf? '}' = some (y.length + 1) := by
    refine idxOf?_mark (y := '{' :: y) z fun member => ?_
    obtain brace | member := List.mem_cons.mp member
    · exact absurd brace (by decide)
    · exact free _ member rfl
  have bounds : between 1 (y.length + 1) ('{' :: (y ++ '}' :: z)) = .ok y := between_front ['{'] y ('}' :: z) short
  have modifier : innerOf (y.length + 1 + 1) 0 ('{' :: (y ++ '}' :: z)) = .ok z := by
    have braces : narrow ('{' :: y ++ ['}']) = true := by
      rw [narrow,List.all_append,← narrow,short]
      rfl
    have cut := innerOf_front ('{' :: y ++ ['}']) z braces
    simpa using cut
  have taken : (y ++ '}' :: z).takeWhile (· != '}') = y := by
    rw [List.takeWhile_append_of_pos (by simpa using free)]
    simp
  have dropped : (y ++ '}' :: z).dropWhile (· != '}') = '}' :: z := by
    rw [List.dropWhile_append_of_pos (by simpa using free)]
    simp
  simp only [checkedAmount,first,found,bounds,modifier,bind,Except.bind]
  simp [readAmount,taken,dropped]

theorem checkedGroupKind_eq (kind : t.kind = .groupOpen) (fits : Kind.groupOpen.shape.Fits t.lexeme) :
    checkedGroupKind t = .ok (readGroupKind t.lexeme) := by
  obtain ⟨_,x,pos⟩ := t
  obtain rfl := kind
  obtain fixed | ⟨m,left,n,right,y,named⟩ := Token.fits_groupOpen fits
  · dsimp only at fixed ⊢
    simp only [List.mem_cons,List.not_mem_nil,or_false] at fixed
    obtain rfl | rfl | rfl | rfl | rfl | rfl | rfl := fixed
    all_goals rfl
  · have short {c : Char} (mark : c ∈ ['<','>','\'']) : narrow [c] = true := by
      simp only [List.mem_cons,List.not_mem_nil,or_false] at mark
      obtain rfl | rfl | rfl := mark
      all_goals decide
    have name := innerOf_marks [m] y [n] (short (by grind)) (short (by grind))
    rw [← named] at name
    unfold checkedGroupKind
    dsimp only at name ⊢
    split
    case h_8 =>
      have cut : innerOf 1 1 (x.dropWhile ['(','?','P'].contains) = .ok (inner 1 1 (x.dropWhile ['(','?','P'].contains)) := name
      have read : readGroupKind x = .named (String.ofList (inner 1 1 (x.dropWhile ['(','?','P'].contains))) := by
        unfold readGroupKind
        split
        case h_8 => rfl
        all_goals simp_all
      rw [if_neg (by decide),cut,read]
      rfl
    all_goals rfl

theorem checkedGroupKind_options (kind : t.kind = .optionsOpen) (fits : Kind.optionsOpen.shape.Fits t.lexeme) :
    checkedGroupKind t = .ok (.options "") := by
  obtain ⟨c,last,y,visible,same⟩ := Token.fits_optionsOpen fits
  have ends : t.lexeme.getLast? = some c := by rw [same,← List.append_assoc,List.getLast?_concat]
  have size : 3 < t.lexeme.length := by
    have : 0 < y.length := List.length_pos_iff.mpr visible
    rw [same]
    simp
    omega
  unfold checkedGroupKind
  split
  case h_8 => exact if_pos kind
  case h_6 | h_7 =>
    rename_i fixed
    rw [fixed] at ends
    cases ends
    simp at last
  all_goals
    rename_i fixed
    rw [fixed] at size
    simp at size

end Readers

end LexPattern.Surface
