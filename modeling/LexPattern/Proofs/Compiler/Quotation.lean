import Mathlib
import LexPattern.Proofs.Automaton.Chain
import LexPattern.Proofs.Compiler.Stages
import LexPattern.Proofs.Core.Meaning
import LexPattern.Proofs.Surface.Payloads
import LexPattern.Proofs.Text.Utf8

namespace LexPattern.Token

open Shape

section Quotations

variable {body closing rest : List Char} {pos : Text.Position}

-- The text of a quotation may end in a backslash: together with that of the closing mark it makes no mark.
theorem splitAfter?_closing (unclosed : ¬ ['\\','E'] <:+: body) :
    splitAfter? ['\\','E'] (body ++ (['\\','E'] ++ rest)) = some (body ++ ['\\','E'],rest) := by
  have first : ¬ ['\\','E'] <:+: body ++ ['\\','E'].dropLast := by
    intro early
    rcases List.infix_concat_iff.mp early with ⟨front,same⟩ | inside
    · have last := congrArg List.getLast? same
      simp at last
    · exact unclosed inside
  exact splitAfter?_eq_some (by simp) first

theorem read?_quote (unclosed : ¬ ['\\','E'] <:+: body) (closes : closing = ['\\','E'] ∨ closing = [] ∧ rest = []) :
    Rule.quote.shape.read? (['\\','Q'] ++ (body ++ closing) ++ rest) = some (['\\','Q'] ++ (body ++ closing),rest) := by
  have reached : (either (through ['\\','E']) (run fun _ => true)).read? (body ++ (closing ++ rest)) =
      some (body ++ closing,rest) := by
    rcases closes with rfl | ⟨rfl,rfl⟩
    · exact read?_first (splitAfter?_closing unclosed)
    · have endless : (through ['\\','E']).read? body = none := splitAfter?_eq_none unclosed
      have whole : (run fun _ => true).read? (body ++ []) = some (body,[]) := read?_run (by simp) (by simp)
      rw [List.append_nil] at whole
      simpa using (read?_second endless).trans whole
  rw [List.append_assoc,List.append_assoc]
  exact read?_seq (x := ['\\','Q']) rfl reached

theorem lex_quote (unclosed : ¬ ['\\','E'] <:+: body) (closes : closing = ['\\','E'] ∨ closing = []) :
    lex (['\\','Q'] ++ (body ++ closing)) = [⟨.quote,['\\','Q'] ++ (body ++ closing),.start⟩] := by
  have read : Rule.quote.shape.read? (['\\','Q'] ++ (body ++ closing) ++ []) = some (['\\','Q'] ++ (body ++ closing),[]) :=
    read?_quote unclosed (closes.imp_right fun none => ⟨none,rfl⟩)
  have found : firstLexeme? (rulesAt 0) (['\\','Q'] ++ (body ++ closing)) =
      some (.quote,['\\','Q'] ++ (body ++ closing),[]) := by
    have split : rulesAt 0 = Rule.quote :: Rule.outside.drop 1 := rfl
    rw [List.append_nil] at read
    rw [split,firstLexeme?,read]
    rfl
  rw [lex,lexFrom_some found,lexFrom]

theorem lex_quote_brackets (unclosed : ¬ ['\\','E'] <:+: body) : ∃ place last,
    lex ('[' :: (['\\','Q'] ++ (body ++ ['\\','E']) ++ [']'])) =
      [⟨.classOpen,['['],.start⟩,⟨.quote,['\\','Q'] ++ (body ++ ['\\','E']),place⟩,⟨.classClose,[']'],last⟩] := by
  have opening : firstLexeme? (rulesAt 0) ('[' :: (['\\','Q'] ++ (body ++ ['\\','E']) ++ [']'])) =
    some (.classOpen,['['],['\\','Q'] ++ (body ++ ['\\','E']) ++ [']']) := firstLexeme?_opening (by simp)
  have quoted : firstLexeme? (rulesAt 1) (['\\','Q'] ++ (body ++ ['\\','E']) ++ [']']) =
      some (.quote,['\\','Q'] ++ (body ++ ['\\','E']),[']']) := by
    have reached (s : List Char) : firstLexeme? (rulesAt 1) (['\\','Q'] ++ s ++ [']']) =
      firstLexeme? (Rule.quote :: Rule.inside.drop 4) (['\\','Q'] ++ s ++ [']']) := rfl
    rw [reached,firstLexeme?,read?_quote unclosed (.inl rfl)]
    rfl
  have close : firstLexeme? (rulesAt 1) [']'] = some (.classClose,[']'],[]) := rfl
  have inner (pos : Text.Position) : lexFrom 1 pos (['\\','Q'] ++ (body ++ ['\\','E']) ++ [']']) =
      [⟨.quote,['\\','Q'] ++ (body ++ ['\\','E']),pos⟩,
        ⟨.classClose,[']'],pos.advance (['\\','Q'] ++ (body ++ ['\\','E']))⟩] := by
    have within : depthAfter 1 .quote = 1 := rfl
    rw [lexFrom_some quoted,within,lexFrom_some close,lexFrom]
  exact ⟨Text.Position.start.advance ['['],_,by rw [lex,lexFrom_some opening,depthAfter,inner]⟩

end Quotations

end LexPattern.Token

namespace LexPattern.Surface

open Text (Position)

variable {limit : Int} {pattern text : String} {closing : List Char}

theorem parse_quote (chars : pattern.toList = ['\\','Q'] ++ (text.toList ++ closing))
    (unclosed : ¬ ['\\','E'] <:+: text.toList) (closes : closing = ['\\','E'] ∨ closing = []) :
    parse limit pattern.toUTF8 = .ok (.quote ⟨.start,Position.start.advance pattern.toList⟩ text) := by
  have marks : (['\\','Q'],closing) ∈ Token.Kind.quote.marks := by simpa [Token.Kind.marks] using closes
  have literal : quotedText (['\\','Q'] ++ (text.toList ++ closing)) = text := by
    rw [quotedText_between marks fun _ => unclosed,String.ofList_toList]
  rw [parse_toUTF8,ofChars,chars,Token.lex_quote unclosed closes]
  exact congrArg (fun literal => Except.ok (Node.quote _ literal)) literal

theorem parse_quote_brackets (limit : Int) (unclosed : ¬ ['\\','E'] <:+: text.toList)
    (chars : pattern.toList = '[' :: (['\\','Q'] ++ (text.toList ++ ['\\','E']) ++ [']'])) : ∃ span inner,
    parse limit pattern.toUTF8 = .ok (.customClass span false [.quote inner text]) := by
  obtain ⟨place,last,lexed⟩ := Token.lex_quote_brackets unclosed
  have literal : quotedText (['\\','Q'] ++ (text.toList ++ ['\\','E'])) = text := by
    rw [quotedText_between (by simp [Token.Kind.marks]) fun _ => unclosed,String.ofList_toList]
  rw [parse_toUTF8,ofChars,chars,lexed]
  let quoted : Token := ⟨.quote,['\\','Q'] ++ (text.toList ++ ['\\','E']),place⟩
  let close : Token := ⟨.classClose,[']'],last⟩
  have member (eof : Position) : Derives eof 0 (.member (.quote quoted.span text)) [quoted] [close] := by
    have derived : Derives eof 0 (.member (.quote quoted.span (quotedText quoted.lexeme))) [quoted] [close] := .quotation rfl
    rwa [literal] at derived
  have members (eof : Position) : Derives eof 0 (.members [.quote quoted.span text]) [quoted] [close] :=
    .nextMember .noMember (member eof)
  exact ⟨_,_,(members _).ofTokens_class rfl rfl (inForce_pos (by decide) limit)⟩

end LexPattern.Surface

namespace LexPattern

open LexPattern.Automaton (Dfa Nfa)
open LexPattern.Core (Expr lower quoteClass)

variable {text : String} {w : List CodePoint}

section Spelling

def Core.spelling (text : String) : Expr := if text.isEmpty then .empty else .literal (text.toList.map .ofChar)

open LexPattern.Core (spelling)

theorem lower_quote (limit : Int) (names : String → Option String) (span : Text.Span) (text : String) :
    lower limit names (.quote span text) = .ok (spelling text) := by
  simp only [lower,Core.lowerNode,spelling]
  split <;> rfl

theorem spelling_language : w ∈ (spelling text).language ↔ w = text.toList.map .ofChar := by
  unfold spelling
  split
  · rename_i nothing
    rw [String.isEmpty_iff.mp nothing,Expr.language]
    exact Language.mem_one w
  · rw [Expr.language]
    exact Set.mem_singleton_iff

theorem spelling_wellFormed : (spelling text).WellFormed := by
  unfold spelling
  split
  · rw [Expr.WellFormed]
    trivial
  · rw [Expr.WellFormed]
    intro x member
    obtain ⟨c,_,rfl⟩ := List.mem_map.mp member
    exact Core.isScalar_ofChar c

theorem spelling_stateCount : (spelling text).stateCount = max 1 (2 * text.length) := by
  unfold spelling
  split
  · rename_i nothing
    rw [String.isEmpty_iff.mp nothing,Expr.stateCount]
    rfl
  · rw [Expr.stateCount,List.length_map,String.length_toList]

-- While a text is read its automaton is in one place.
theorem spelling_few {bound : Nat} {n : Nfa} (constructed : Nfa.ofExpr? bound (spelling text) = some n) :
    n.reached.ncard ≤ n.size := by
  have recognises := Nfa.ofExpr?_recognises spelling_wellFormed constructed
  have some := Nat.zero_lt_of_lt recognises.start_lt
  unfold spelling at constructed
  split at constructed
  · have few := Automaton.reached_ncard_le_one (Automaton.ofExpr?_silent constructed)
    omega
  · rename_i nonempty
    obtain ⟨c,cs,chars⟩ : ∃ c cs, text.toList = c :: cs := by
      refine List.exists_cons_of_ne_nil fun nothing => nonempty ?_
      rw [String.isEmpty_iff,← String.toList_eq_nil_iff,nothing]
    rw [chars,List.map_cons] at constructed
    obtain ⟨chained,begins⟩ := Automaton.ofExpr?_chained constructed
    have few := Automaton.reached_ncard_le chained begins recognises.framed
    omega

end Spelling

-- The pattern is a quotation of the text, and what it is compiled to accepts the text alone. Compiling it fails only
-- for want of states, of which a text needs two for each character and one more.
def Quotes (pattern : ByteArray) (text : String) : Prop :=
  (∀ limit, ∃ span, Surface.parse limit pattern = .ok (.quote span text)) ∧ ∀ (settings : Settings) file,
    if max 1 (2 * text.length) + 1 ≤ inForce Automaton.defaultLimit settings.states then
      ∃ p, compile settings file pattern = .ok p ∧ ∀ w, p.dfa.accepts w = true ↔ w = text.toList.map .ofChar
    else compile settings file pattern = .error (.tooLarge ⟨.nfa,inForce Automaton.defaultLimit settings.states⟩)

theorem quotes_of_parse {pattern : ByteArray} (parsed : ∀ limit, ∃ span, Surface.parse limit pattern = .ok (.quote span text)) :
    Quotes pattern text := by
  refine ⟨parsed,fun settings file => ?_⟩
  obtain ⟨span,read⟩ := parsed settings.depth
  have lowered := lower_quote settings.depth settings.names span text
  have few : ∀ bound n, Nfa.ofExpr? bound (Core.spelling text) = some n → n.reached.ncard ≤ n.size := fun _ _ => spelling_few
  have built := Dfa.ofExpr_of_few spelling_wellFormed few settings.states
  rw [spelling_stateCount] at built
  split
  · rename_i room
    rw [if_pos room] at built
    obtain ⟨dfa,built⟩ := built
    have compiled : compile settings file pattern = .ok ⟨file,pattern,_,Core.spelling text,dfa⟩ :=
      compile_eq_ok_iff.mpr ⟨rfl,rfl,read,lowered,built⟩
    exact ⟨_,compiled,fun w => (compile_accepts compiled w).trans spelling_language⟩
  · rename_i full
    rw [if_neg full] at built
    simp only [compile,read,lowered,built]

-- A text without the closing mark can be quoted, whether the mark follows it or the pattern ends. In brackets, the
-- quotation stands for the characters of the text.
theorem quotes_unclosed_text (text : String) (unclosed : ¬ ['\\','E'] <:+: text.toList) :
    Quotes ("\\Q" ++ text ++ "\\E").toUTF8 text ∧ Quotes ("\\Q" ++ text).toUTF8 text ∧
    ∀ depth limit names, ∃ n c, Surface.parse depth ("[\\Q" ++ text ++ "\\E]").toUTF8 = .ok n ∧
      lower limit names n = .ok (.charClass c) ∧ ∀ x, c.contains x = true ↔ ∃ ch ∈ text.toList, x = .ofChar ch := by
  refine ⟨quotes_of_parse fun limit => ⟨_,Surface.parse_quote ?_ unclosed (.inl rfl)⟩,
    quotes_of_parse fun limit => ⟨_,Surface.parse_quote ?_ unclosed (.inr rfl)⟩,fun depth limit names => ?_⟩
  · simp
  · simp
  · have chars : ("[\\Q" ++ text ++ "\\E]").toList = '[' :: (['\\','Q'] ++ (text.toList ++ ['\\','E']) ++ [']']) := by simp
    obtain ⟨span,inner,parsed⟩ := Surface.parse_quote_brackets depth unclosed chars
    refine ⟨_,quoteClass text,parsed,Core.lower_customClass rfl,fun x => ?_⟩
    rw [(Core.quoteClass_denotes text).contains_iff,and_iff_right_iff_imp]
    rintro ⟨ch,_,rfl⟩
    exact Core.isScalar_ofChar ch

theorem quotes_unclosed_text_marks : ¬ ['\\','E'] <:+: "[^.]\n\\Q(E\\".toList ∧
    Quotes "\\Q[^.]\n\\Q(E\\\\E".toUTF8 "[^.]\n\\Q(E\\" ∧ Quotes "\\Q[^.]\n\\Q(E\\".toUTF8 "[^.]\n\\Q(E\\" ∧
    ∀ depth limit names, ∃ n c, Surface.parse depth "[\\Q[^.]\n\\Q(E\\\\E]".toUTF8 = .ok n ∧
      lower limit names n = .ok (.charClass c) ∧ ∀ x, c.contains x = true ↔ ∃ ch ∈ "[^.]\n\\Q(E\\".toList, x = .ofChar ch := by
  have unclosed : ¬ ['\\','E'] <:+: "[^.]\n\\Q(E\\".toList := by decide
  exact ⟨unclosed,quotes_unclosed_text "[^.]\n\\Q(E\\" unclosed⟩

end LexPattern
