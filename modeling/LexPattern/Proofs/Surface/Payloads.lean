import Mathlib
import LexPattern.Proofs.Surface.Locations
import LexPattern.Proofs.Token.Marks

namespace LexPattern.Token

-- The characters that are taken off both ends of what a token of some kind carries.
def Kind.trimmed : Kind → List Char
  | property => ['{','}']
  | backRef => ['<','>','\'','{','}']
  | subpatternCall => ['<','>','\'']
  | _ => []

end LexPattern.Token

namespace LexPattern.Surface

open Text (Position Span)

section Trimming

variable {set body opening closing : List Char} {first last : Char}

theorem trim_marks (atStart : first ∈ set) (atEnd : last ∈ set) : trim set (first :: (body ++ [last])) = trim set body := by
  unfold trim
  rw [List.dropWhile_cons_of_pos (List.contains_iff_mem.mpr atStart),List.dropWhile_append]
  split
  · rename_i nothing
    rw [List.isEmpty_iff.mp nothing]
    simp [atEnd]
  · rw [List.reverse_append,List.reverse_singleton,List.singleton_append,
      List.dropWhile_cons_of_pos (List.contains_iff_mem.mpr atEnd)]

theorem trim_nil : trim [] body = body := by
  have none : ∀ cs : List Char, cs.dropWhile [].contains = cs := fun cs => by cases cs <;> rfl
  rw [trim,none,none,List.reverse_reverse]

def Clear (set body : List Char) : Prop := (∀ c ∈ body.head?, c ∉ set) ∧ ∀ c ∈ body.getLast?, c ∉ set

theorem dropWhile_eq_self_iff_head {cs : List Char} : cs.dropWhile set.contains = cs ↔ ∀ c ∈ cs.head?, c ∉ set := by
  cases cs with
  | nil => simp
  | cons c cs =>
    rw [List.dropWhile_cons]
    split
    · rename_i taken
      refine iff_of_false (fun same => ?_) (by simpa using taken)
      have shorter := (List.dropWhile_suffix (l := cs) set.contains).length_le
      rw [same,List.length_cons] at shorter
      omega
    · rename_i stays
      exact iff_of_true rfl (by simpa using stays)

theorem trim_eq_self_iff : trim set body = body ↔ Clear set body := by
  have back : ∀ cs : List Char, (cs.reverse.dropWhile set.contains).reverse = cs ↔ ∀ c ∈ cs.getLast?, c ∉ set := by
    intro cs
    rw [← List.head?_reverse,← dropWhile_eq_self_iff_head,List.reverse_eq_iff]
  rw [trim,Clear,← dropWhile_eq_self_iff_head]
  constructor
  · intro same
    -- Nothing is gained by trimming, so nothing was lost at the front.
    have front : body.dropWhile set.contains = body := by
      refine (List.dropWhile_suffix _).eq_of_length_le ?_
      calc body.length = ((body.dropWhile set.contains).reverse.dropWhile set.contains).reverse.length := by rw [same]
        _ ≤ (body.dropWhile set.contains).reverse.length := by
          rw [List.length_reverse]
          exact (List.dropWhile_suffix _).length_le
        _ = (body.dropWhile set.contains).length := List.length_reverse
    rw [front] at same
    exact ⟨front,(back body).mp same⟩
  · rintro ⟨front,last⟩
    rw [front]
    exact (back body).mpr last

theorem trim_exact {kind : Token.Kind} (exact : kind.trimmed = []) : trim kind.trimmed body = body := by
  rw [exact,trim_nil]

theorem inner_marks (opening body closing : List Char) :
    inner opening.length closing.length (opening ++ (body ++ closing)) = body := by
  unfold inner
  rw [List.drop_left]
  have length : (opening ++ (body ++ closing)).length - opening.length - closing.length = body.length := by simp
  rw [length,List.take_left]

end Trimming

def AtomKind.payload? : AtomKind → Option String
  | property name | namedCharacter name | backreference name | subpattern name | changeMatchingOptions name => some name
  | _ => none

def Constituent.payload? : Constituent → Option String
  | node (.group _ (.named name) _) | node (.group _ (.options name) _) => some name
  | node (.quote _ literal) | member (.quote _ literal) => some literal
  | node (.interpolation _ text) => some text
  | node (.atom a) | member (.atom a) => a.kind.payload?
  | _ => none

structure Constituent.Keeps (p : Constituent) (t : Token) : Prop where
  place : p.span.start = t.pos
  payload : ∀ opening body closing, t.Between opening body closing →
    p.payload? = some (String.ofList (trim t.kind.trimmed body))

section Tokens

variable {t : Token} {kind : AtomKind} {opening body closing : List Char} {n : Node}

theorem some_inner {kind : Token.Kind} (exact : kind.trimmed = []) (opening body closing : List Char) :
    some (String.ofList (inner opening.length closing.length (opening ++ (body ++ closing)))) =
      some (String.ofList (trim kind.trimmed body)) := by
  rw [inner_marks,trim_exact exact]

theorem some_trim {set : List Char} {first last : Char} (atStart : first ∈ set) (atEnd : last ∈ set) :
    some (String.ofList (trim set (first :: (body ++ [last])))) = some (String.ofList (trim set body)) := by
  rw [trim_marks atStart atEnd]

theorem atomKind_payload (read : atomKind t = .ok kind) (between : t.Between opening body closing) :
    kind.payload? = some (String.ofList (trim t.kind.trimmed body)) := by
  obtain ⟨tokenKind,lexeme,pos⟩ := t
  obtain ⟨marks,same,_⟩ := between
  dsimp only at marks same ⊢
  subst same
  cases tokenKind with
  | namedChar =>
    cases List.mem_singleton.mp marks
    cases read
    exact some_inner rfl ['\\','N','{'] body ['}']
  | posix =>
    cases List.mem_singleton.mp marks
    cases read
    exact some_inner rfl ['[',':'] body [':',']']
  | property =>
    simp only [Token.Kind.marks,List.mem_cons,List.not_mem_nil,or_false,Prod.mk.injEq] at marks
    obtain ⟨rfl,rfl⟩ | ⟨rfl,rfl⟩ := marks
    all_goals
      cases read
      exact some_trim (by decide) (by decide)
  | backRef =>
    simp only [Token.Kind.marks,List.mem_cons,List.not_mem_nil,or_false,Prod.mk.injEq] at marks
    obtain ⟨rfl,rfl⟩ | ⟨rfl,rfl⟩ | ⟨rfl,rfl⟩ | ⟨rfl,rfl⟩ := marks
    all_goals
      cases read
      exact some_trim (by decide) (by decide)
  | subpatternCall =>
    simp only [Token.Kind.marks,List.mem_cons,List.not_mem_nil,or_false,Prod.mk.injEq] at marks
    obtain ⟨rfl,rfl⟩ | ⟨rfl,rfl⟩ := marks
    all_goals
      cases read
      exact some_trim (by decide) (by decide)
  | quote | recurse | groupOpen | optionsOpen | interpolation => cases read
  | _ => cases marks

theorem quotedText_between (marks : (opening,closing) ∈ Token.Kind.quote.marks)
    (unclosed : closing = [] → ¬ ['\\','E'] <:+: body) :
    quotedText (opening ++ (body ++ closing)) = String.ofList body := by
  simp only [Token.Kind.marks,List.mem_cons,List.not_mem_nil,or_false,Prod.mk.injEq] at marks
  obtain ⟨rfl,rfl⟩ | ⟨rfl,rfl⟩ := marks
  · change String.ofList (if ['\\','E'].isSuffixOf (body ++ ['\\','E']) then
      (body ++ ['\\','E']).take ((body ++ ['\\','E']).length - 2) else body ++ ['\\','E']) = _
    rw [if_pos (List.isSuffixOf_iff_suffix.mpr (List.suffix_append _ _)),List.length_append]
    exact congrArg String.ofList List.take_left
  · change String.ofList (if ['\\','E'].isSuffixOf (body ++ []) then (body ++ []).take ((body ++ []).length - 2)
      else body ++ []) = _
    rw [List.append_nil,if_neg fun ends => unclosed rfl (List.isSuffixOf_iff_suffix.mp ends).isInfix]

theorem readGroupKind_between (marks : (opening,closing) ∈ Token.Kind.groupOpen.marks) :
    readGroupKind (opening ++ (body ++ closing)) = .named (String.ofList body) := by
  simp only [Token.Kind.marks,List.mem_cons,List.not_mem_nil,or_false,Prod.mk.injEq] at marks
  obtain ⟨rfl,rfl⟩ | ⟨rfl,rfl⟩ | ⟨rfl,rfl⟩ := marks
  all_goals
    unfold readGroupKind
    split
    case h_8 => exact congrArg (fun name => GroupKind.named (String.ofList name)) (inner_marks [_] body [_])
    all_goals
      rename_i same
      simp [List.append_eq_singleton_iff] at same

theorem readAtom_keeps {a : Atom} (read : readAtom t = .ok a) :
    (Constituent.node (.atom a)).Keeps t ∧ (Constituent.member (.atom a)).Keeps t := by
  obtain ⟨kind,found,rfl⟩ := readAtom_eq_ok_iff.mp read
  exact ⟨⟨rfl,fun _ _ _ => atomKind_payload found⟩,rfl,fun _ _ _ => atomKind_payload found⟩

theorem item_keeps (read : Builder.item t = .ok n) : (Constituent.node n).Keeps t := by
  refine ⟨congrArg Span.start (item_span read),fun opening body closing between => ?_⟩
  obtain ⟨kind,lexeme,pos⟩ := t
  obtain ⟨marks,same,unclosed⟩ := between
  dsimp only at marks same ⊢
  subst same
  cases kind with
  | quote =>
    cases read
    rw [Constituent.payload?,quotedText_between marks unclosed,trim_exact rfl]
  | interpolation =>
    cases List.mem_singleton.mp marks
    cases read
    exact some_inner rfl ['<','{'] body ['}','>']
  | recurse =>
    cases List.mem_singleton.mp marks
    cases read
    exact some_inner rfl ['(','?'] body [')']
  | namedChar | property | posix | backRef | subpatternCall =>
    unfold Builder.item at read
    dsimp only at read
    split at read
    · rename_i a found
      cases read
      exact (readAtom_keeps found).1.payload _ _ _ ⟨marks,rfl,unclosed⟩
    · cases read
  | groupOpen | optionsOpen => cases read
  | _ => cases marks

theorem options_payload (kind : t.kind = .optionsOpen) (between : t.Between opening body closing) :
    some (String.ofList (inner 2 1 t.lexeme)) = some (String.ofList (trim t.kind.trimmed body)) := by
  obtain ⟨marks,same,_⟩ := between
  rw [same]
  simp only [kind,Token.Kind.marks,List.mem_cons,List.not_mem_nil,or_false,Prod.mk.injEq] at marks ⊢
  obtain ⟨rfl,rfl⟩ | ⟨rfl,rfl⟩ := marks
  all_goals exact some_inner rfl ['(','?'] body [_]

end Tokens

-- Tokens before one that stands between the opening of a condition and the parenthesis that ends it. A condition is text,
-- and nothing is kept of the tokens in it.
def InCondition (before : List Token) : Prop :=
  ∃ front opening inside, before = front ++ opening :: inside ∧ opening.kind = .condOpen ∧
    ∀ c ∈ inside, c.kind ≠ .groupClose

-- Every token with marks, unless it is in a condition, has a part that keeps what it carries.
def Stored (ts : List Token) (parts : List Constituent) : Prop :=
  ∀ before t after, ts = before ++ t :: after → ¬ InCondition before → t.kind.marks ≠ [] →
    ∃ whole ∈ parts, ∃ part, whole.Within part ∧ part.Keeps t

namespace Stored

variable {ts us : List Token} {ps qs : List Constituent} {p : Constituent} {t : Token}

theorem none : Stored [] ps := by
  intro before t after split
  simp at split

theorem unmarked (kind : t.kind.marks = []) : Stored [t] ps := by
  intro before other after split _ marked
  obtain rfl : other = t := List.mem_singleton.mp (by rw [split]; simp)
  exact absurd kind marked

theorem single (keeps : p.Keeps t) : Stored [t] [p] := by
  intro before other after split _ _
  obtain rfl : other = t := List.mem_singleton.mp (by rw [split]; simp)
  exact ⟨p,List.mem_singleton_self p,p,.refl,keeps⟩

theorem append (one : Stored ts ps) (another : Stored us qs) : Stored (ts ++ us) (ps ++ qs) := by
  intro before t after split outside marked
  -- In the second list, what is before the token has more in front of it, and is in a condition if that is.
  have later : ∀ front inside, before = front ++ inside → us = inside ++ t :: after →
      ∃ whole ∈ ps ++ qs, ∃ part, whole.Within part ∧ part.Keeps t := by
    rintro front inside rfl split'
    have outside' : ¬ InCondition inside := by
      rintro ⟨more,opening,condition,rfl,kind,within⟩
      exact outside ⟨front ++ more,opening,condition,by simp,kind,within⟩
    obtain ⟨whole,listed,found⟩ := another inside t after split' outside' marked
    exact ⟨whole,List.mem_append_right _ listed,found⟩
  obtain ⟨inside,same,split'⟩ | ⟨rest,rfl,split'⟩ := List.append_eq_append_iff.mp split
  · exact later ts inside same split'
  · cases rest with
    | nil => exact later before [] (List.append_nil _).symm split'.symm
    | cons first rest =>
      cases split'
      obtain ⟨whole,listed,found⟩ := one before t rest rfl outside marked
      exact ⟨whole,List.mem_append_left _ listed,found⟩

theorem snoc (stored : Stored ts ps) (kind : t.kind.marks = []) : Stored (ts ++ [t]) ps := by
  have last : Stored [t] [] := unmarked kind
  simpa using stored.append last

theorem cons (kind : t.kind.marks = []) (stored : Stored ts ps) : Stored (t :: ts) ps := by
  have first : Stored [t] [] := unmarked kind
  simpa using first.append stored

theorem condition {close : Token} (kind : t.kind = .condOpen) (inside : ∀ c ∈ ts, c.kind ≠ .groupClose) :
    Stored (t :: ts ++ [close]) ps := by
  intro before other after split outside marked
  cases before with
  | nil =>
    cases split
    exact absurd (by rw [kind]; rfl) marked
  | cons first before =>
    obtain ⟨rfl,split'⟩ := List.cons.inj split
    have included : before ⊆ ts := by
      obtain ⟨rest,rfl,last⟩ | ⟨rest,rfl,_⟩ := List.append_eq_append_iff.mp split'
      · obtain ⟨rfl,_⟩ : rest = [] ∧ _ := by simpa using (List.append_eq_singleton_iff.mp last.symm)
        simp
      · exact List.subset_append_left _ _
    exact absurd ⟨[],t,before,rfl,kind,fun c member => inside c (included member)⟩ outside

theorem into (stored : Stored ts ps) (inside : ∀ q ∈ ps, p.Within q) : Stored ts [p] := by
  intro before t after split outside marked
  obtain ⟨whole,listed,part,within,keeps⟩ := stored before t after split outside marked
  exact ⟨p,List.mem_singleton_self p,part,(inside whole listed).trans within,keeps⟩

theorem parent (stored : Stored ts p.children) : Stored ts [p] :=
  stored.into fun _ child => Relation.ReflTransGen.single child

end Stored

def Phrase.parts : Phrase → List Constituent
  | expression n | branch n | item n | atom n => [.node n]
  | branches ns | items ns => ns.map .node
  | operation ms | members ms => ms.map .member
  | member m => [.member m]

section Phrases

variable {eof : Position} {room : Nat} {phrase : Phrase} {front ts rest : List Token} {n : Node} {ns : List Node}
  {span : Span} {p : Constituent} {enclosure : Enclosure}

theorem choice_within (listed : p ∈ ns.map .node) : (Constituent.node (choice span ns)).Within p := by
  unfold choice
  split
  · cases List.mem_singleton.mp listed
    exact .refl
  · exact .single listed

theorem sequence_within (listed : p ∈ ns.map .node) : (Constituent.node (sequence span ns)).Within p := by
  unfold sequence
  split
  · cases listed
  · cases List.mem_singleton.mp listed
    exact .refl
  · exact .single listed

theorem close_within : (Constituent.node (enclosure.close span n)).Within (.node n) := by
  have children : (Constituent.node (enclosure.close span n)).children = [.node n] := by cases enclosure <;> rfl
  exact .single (by simp [children])

theorem Opens.stored (opens : Opens front enclosure) (place : span.start = firstPos eof front) :
    Stored front [.node (enclosure.close span n)] := by
  cases opens with
  | group kind =>
    refine .single ⟨place,fun opening body closing between => ?_⟩
    obtain ⟨marks,same,_⟩ := between
    rw [kind] at marks ⊢
    rw [same,readGroupKind_between marks,trim_exact rfl]
    rfl
  | options kind _ => exact .single ⟨place,fun _ _ _ between => options_payload kind between⟩
  | absent kind => exact .unmarked (by rw [kind]; rfl)
  | conditional kind inside _ => exact .condition kind inside

theorem Opens.enclosed_stored (opens : Opens front enclosure) {close : Token} (closed : close.kind = .groupClose)
    (inner : Stored ts [.node n]) : Stored (front ++ ts ++ [close])
      [.node (enclosure.close (stretch eof (front ++ ts ++ [close]) rest) n)] := by
  have place : (stretch eof (front ++ ts ++ [close]) rest).start = firstPos eof front := by
    simp only [stretch,List.append_assoc]
    exact firstPos_append opens.ne_nil
  have outer : Stored front [.node (enclosure.close (stretch eof (front ++ ts ++ [close]) rest) n)] := opens.stored place
  refine ((outer.append inner).snoc (by rw [closed]; rfl)).into fun p listed => ?_
  obtain rfl | inside := List.mem_cons.mp listed
  · exact .refl
  · cases List.mem_singleton.mp inside
    exact close_within

theorem Derives.stored (derived : Derives eof room phrase ts rest) : Stored ts phrase.parts := by
  induction derived with
  | expression _ ih => exact ih.into fun _ => choice_within
  | firstBranch _ ih => exact ih
  | nextBranch _ kind _ before next =>
    have stored := before.append (next.cons (by rw [kind]; rfl))
    simpa [Phrase.parts] using stored
  | branch _ ih => exact ih.into fun _ => sequence_within
  | noItem => exact .none
  | nextItem _ _ before next =>
    have stored := before.append next
    simpa [Phrase.parts] using stored
  | once _ ih => exact ih
  | quantified _ kind ih =>
    refine .parent (ih.snoc ?_)
    obtain kind | kind := kind
    all_goals
      rw [kind]
      rfl
  | enclosed opens _ closed ih => exact opens.enclosed_stored closed ih
  | bracketed kind _ closed ih => exact .parent ((ih.snoc (by rw [closed]; rfl)).cons (by rw [kind]; rfl))
  | settings kind _ => exact .single ⟨rfl,fun _ _ _ between => options_payload kind between⟩
  | token read => exact .single (item_keeps read)
  | operand _ ih => exact ih
  | operated _ kind _ left right => exact .parent (left.append (right.cons (by rw [kind]; rfl)))
  | noMember => exact .none
  | nextMember _ _ before next =>
    have stored := before.append next
    simpa [Phrase.parts] using stored
  | nested kind _ closed ih => exact .parent ((ih.snoc (by rw [closed]; rfl)).cons (by rw [kind]; rfl))
  | quotation kind =>
    refine .single ⟨rfl,fun opening body closing between => ?_⟩
    obtain ⟨marks,same,unclosed⟩ := between
    rw [kind] at marks ⊢
    rw [same,quotedText_between marks unclosed,trim_exact rfl]
    rfl
  | dash kind => exact .unmarked (by rw [kind]; rfl)
  | single read _ => exact .single (readAtom_keeps read).2
  | range readFirst kind readLast =>
    have low := Stored.single (readAtom_keeps readFirst).2
    have high := Stored.single (readAtom_keeps readLast).2
    exact .parent (low.append (high.cons (by rw [kind]; rfl)))

end Phrases

-- Every token whose rule has marks carries what stands between them, unless it is of a form without. A pattern that is
-- accepted keeps it in the tree where the token stands, but takes certain characters off the ends of what properties,
-- references and calls carry. So the marks and what is kept make up the token exactly when none of these is at an end.
theorem parse_keeps_payloads (limit : Int) (text : String) :
    (∀ t ∈ Token.lex text.toList, t.kind.marks ≠ [] → t.Marked ∨ t.Bare) ∧
      ∀ n, parse limit text.toUTF8 = .ok n → ∀ before t after, Token.lex text.toList = before ++ t :: after →
        ¬ InCondition before → ∀ opening body closing, t.Between opening body closing →
          ∃ part payload, (Constituent.node n).Within part ∧ part.span.start = t.pos ∧
            part.payload? = some (String.ofList payload) ∧ payload = trim t.kind.trimmed body ∧
            (opening ++ (payload ++ closing) = t.lexeme ↔ Clear t.kind.trimmed body) := by
  constructor
  · intro t member marked
    obtain ⟨before,after,split⟩ := List.append_of_mem member
    have cut := Token.lex_cut text.toList
    rw [split] at cut
    exact (Token.cut_append cut).marked_or_bare marked
  · intro n read before t after split outside opening body closing between
    rw [parse_toUTF8] at read
    have marked : t.kind.marks ≠ [] := List.ne_nil_of_mem between.marks
    obtain ⟨whole,listed,part,within,keeps⟩ := (derives_of_ofTokens read).stored before t after split outside marked
    cases List.mem_singleton.mp listed
    refine ⟨part,_,within,keeps.place,keeps.payload opening body closing between,rfl,?_⟩
    rw [between.lexeme,List.append_cancel_left_eq,List.append_cancel_right_eq,trim_eq_self_iff]

-- A property, a reference and a call, each with marks at the ends of what it carries.
def edged : String := "\\p\x7b\x7ba\x7d\\k<'b'>\\g<<c>"

theorem payloads_lose_marks : (Token.lex edged.toList).map (fun t => (t.kind,t.text)) =
    [(.property,"\\p\x7b" ++ "\x7ba" ++ "\x7d"),(.backRef,"\\k<" ++ "'b'" ++ ">"),(.subpatternCall,"\\g<" ++ "<c" ++ ">")] ∧
      ∃ n, parse defaultDepth edged.toUTF8 = .ok n ∧
        (Constituent.node n).children.map Constituent.payload? = [some "a",some "b",some "c"] := by
  have parsed : (parse defaultDepth edged.toUTF8).toOption.map
      (fun n => (Constituent.node n).children.map Constituent.payload?) = some [some "a",some "b",some "c"] := by
    decide +kernel
  refine ⟨by decide +kernel,?_⟩
  cases outcome : parse defaultDepth edged.toUTF8 with
  | error fault =>
    rw [outcome] at parsed
    cases parsed
  | ok n =>
    rw [outcome] at parsed
    exact ⟨n,rfl,Option.some.inj parsed⟩

end LexPattern.Surface
