import Mathlib
import LexPattern.Token.Lexer

namespace LexPattern.Token

open Shape

variable {c x : Char} {s rest : List Char} {rules skipped : List Rule}

section Shapes

variable {s' x y : List Char} {first second : Shape}

theorem Shape.read?_seq (front : first.read? s = some (x,s')) (behind : second.read? s' = some (y,rest)) :
    (seq first second).read? s = some (x ++ y,rest) := by
  simp only [read?,front,behind]

theorem Shape.read?_first (front : first.read? s = some (x,rest)) : (either first second).read? s = some (x,rest) := by
  simp only [read?,front]

theorem Shape.read?_second (front : first.read? s = none) : (either first second).read? s = second.read? s := by
  simp only [read?,front]

-- A run ends before the first character that does not belong to it.
theorem Shape.read?_run {allowed : Char → Bool} (inside : ∀ c ∈ x, allowed c = true)
    (stops : ∀ c ∈ rest.head?, allowed c = false) : (run allowed).read? (x ++ rest) = some (x,rest) := by
  have nothing : rest.takeWhile allowed = [] ∧ rest.dropWhile allowed = rest := by
    cases rest with
    | nil => exact ⟨rfl,rfl⟩
    | cons c rest => simp [stops c rfl]
  rw [read?,List.takeWhile_append_of_pos inside,List.dropWhile_append_of_pos inside,nothing.1,nothing.2,List.append_nil]

theorem Shape.read?_closedBy (solid : ∀ d ∈ x, d ≠ c) : (closedBy c).read? (x ++ c :: s) = some (x ++ [c],s) := by
  have inside : ∀ d ∈ x, (d != c) = true := fun d member => by simpa using solid d member
  have stops : ∀ d ∈ (c :: s).head?, (d != c) = false := by simp
  exact read?_seq (read?_run inside stops) (by simp [read?])

end Shapes

-- Whether a shape can read anything from a text that begins with the character.
def Shape.mayStart (c : Char) : Shape → Bool
  | word [] => true
  | word (d :: _) => c == d
  | one allowed => allowed c
  | run _ => true
  | through _ => true
  | seq first _ => first.mayStart c
  | either first second => first.mayStart c || second.mayStart c

theorem Shape.read?_eq_none {shape : Shape} (never : shape.mayStart c = false) : shape.read? (c :: s) = none := by
  induction shape with
  | word cs =>
    cases cs with
    | nil => cases never
    | cons d cs =>
      have differ : ¬ d = c := fun same => by simp [mayStart,same] at never
      simp [read?,List.isPrefixOf,differ]
  | one allowed =>
    simp only [mayStart] at never
    simp [read?,never]
  | run allowed => cases never
  | through stop => cases never
  | seq first second ih₁ _ => simp [read?,ih₁ never]
  | either first second ih₁ ih₂ =>
    simp only [mayStart,Bool.or_eq_false_iff] at never
    simp [read?,ih₁ never.1,ih₂ never.2]

-- Rules that read nothing from a text can be left out.
theorem firstLexeme?_leave (nothing : ∀ rule ∈ skipped, rule.shape.read? s = none) :
    firstLexeme? (skipped ++ rules) s = firstLexeme? rules s := by
  induction skipped with
  | nil => rfl
  | cons rule skipped ih =>
    rw [List.cons_append,firstLexeme?,nothing rule List.mem_cons_self]
    exact ih fun other member => nothing other (List.mem_cons_of_mem rule member)

theorem firstLexeme?_skip (never : ∀ rule ∈ skipped, rule.shape.mayStart c = false) :
    firstLexeme? (skipped ++ rules) (c :: s) = firstLexeme? rules (c :: s) :=
  firstLexeme?_leave fun rule member => Shape.read?_eq_none (never rule member)

theorem escapes_mayStart (other : c ≠ '\\') : ∀ rule ∈ Rule.escapes, rule.shape.mayStart c = false := by
  simp [Rule.escapes,Rule.quote,Rule.namedChar,Rule.property,Rule.scalar,Rule.metaControl,Rule.metaKey,Rule.control,
    Rule.backRef,Rule.subpatternCall,Rule.builtinClass,Rule.assertion,Rule.escaped,Rule.escape,Rule.escapeOf,
    Rule.delimited,firstOf,inOrder,Shape.mayStart,other]

-- A character without a meaning of its own in brackets is no lexeme of a rule, unless it is doubled to an operator.
theorem firstLexeme?_plain (plain : c ∉ ['\\',']','[','-']) (single : c = '&' ∨ c = '~' → s.head? ≠ some c) :
    firstLexeme? Rule.inside (c :: s) = none := by
  simp only [List.mem_cons,List.not_mem_nil,or_false,not_or] at plain
  obtain ⟨backslash,close,opening,dash⟩ := plain
  have brackets : ∀ rule ∈ [Rule.posix,Rule.classOpen,Rule.classClose], rule.shape.mayStart c = false := by
    simp [Rule.posix,Rule.classOpen,Rule.classClose,inOrder,Shape.mayStart,opening,close]
  have dashes : ∀ rule ∈ [Rule.dash], rule.shape.mayStart c = false := by
    simp [Rule.dash,Shape.mayStart,dash]
  have operator : Rule.setOp.shape.read? (c :: s) = none := by
    cases s with
    | nil => simp [Rule.setOp,firstOf,read?,List.isPrefixOf]
    | cons x s =>
      have apart : c = '&' ∨ c = '~' → c ≠ x := fun doubled same => single doubled (by simp [same])
      simp [Rule.setOp,firstOf,read?,List.isPrefixOf]
      grind
  rw [Rule.inside,List.append_assoc,firstLexeme?_skip brackets,firstLexeme?_skip (escapes_mayStart backslash),firstLexeme?,
    operator]
  exact firstLexeme?_skip dashes

theorem firstLexeme?_dash (alone : s.head? ≠ some '-') : firstLexeme? Rule.inside ('-' :: s) = some (.dash,['-'],s) := by
  have reached : firstLexeme? Rule.inside ('-' :: s) = firstLexeme? [Rule.setOp,Rule.dash] ('-' :: s) := rfl
  rw [reached]
  cases s with
  | nil => rfl
  | cons x s =>
    have apart : ¬ '-' = x := fun same => alone (congrArg some same.symm)
    simp [firstLexeme?,Rule.setOp,Rule.dash,firstOf,read?,List.isPrefixOf,apart]

theorem firstLexeme?_opening (upright : s.head? ≠ some '^') :
    firstLexeme? Rule.outside ('[' :: s) = some (.classOpen,['['],s) := by
  have reached : firstLexeme? Rule.outside ('[' :: s) = firstLexeme? [Rule.classOpen] ('[' :: s) := rfl
  rw [reached]
  cases s with
  | nil => rfl
  | cons x s =>
    have apart : ¬ '^' = x := fun same => upright (congrArg some same.symm)
    simp [firstLexeme?,Rule.classOpen,Shape.optional,read?,List.isPrefixOf,apart]

theorem read?_braced {letter : Char} {digits : List Char} (listed : letter ∈ ['x','u','o']) (solid : ∀ c ∈ digits, c ≠ '}') :
    Rule.scalar.shape.read? ('\\' :: letter :: '{' :: (digits ++ '}' :: s)) =
      some ('\\' :: letter :: '{' :: (digits ++ ['}']),s) := by
  have front : (Rule.escapeOf ['x','u','o']).read? ('\\' :: letter :: '{' :: (digits ++ '}' :: s)) =
      some (['\\',letter],'{' :: (digits ++ '}' :: s)) := by
    have single : (oneOf ['x','u','o']).read? (letter :: '{' :: (digits ++ '}' :: s)) =
      some ([letter],'{' :: (digits ++ '}' :: s)) := if_pos (List.contains_iff_mem.mpr listed)
    exact read?_seq (x := ['\\']) rfl single
  exact read?_first (read?_seq front (read?_seq (x := ['{']) rfl (read?_closedBy solid)))

theorem firstLexeme?_number {digits : List Char} (solid : ∀ c ∈ digits, c ≠ '}') :
    firstLexeme? Rule.inside ('\\' :: 'x' :: '{' :: (digits ++ '}' :: s)) =
      some (.scalar,'\\' :: 'x' :: '{' :: (digits ++ ['}']),s) := by
  have reached (text : List Char) : firstLexeme? Rule.inside ('\\' :: 'x' :: text) =
    firstLexeme? (Rule.scalar :: Rule.inside.drop 7) ('\\' :: 'x' :: text) := rfl
  rw [reached,firstLexeme?,read?_braced (by decide) solid]
  rfl

section Lexing

variable {depth : Nat} {pos : Text.Position} {kind : Kind} {lexeme : List Char}

theorem lexFrom_some (found : firstLexeme? (rulesAt depth) s = some (kind,lexeme,rest)) :
    lexFrom depth pos s = ⟨kind,lexeme,pos⟩ :: lexFrom (depthAfter depth kind) (pos.advance lexeme) rest := by
  cases s with
  | nil =>
    obtain ⟨split,some⟩ := firstLexeme?_append found
    exact absurd (List.append_eq_nil_iff.mp split.symm).1 some
  | cons c s =>
    rw [lexFrom]
    split
    · rename_i found'
      rw [found] at found'
      cases found'
      rfl
    · rename_i found'
      rw [found] at found'
      cases found'

theorem lexFrom_none (found : firstLexeme? (rulesAt depth) (c :: s) = none) :
    lexFrom depth pos (c :: s) = ⟨.char,[c],pos⟩ :: lexFrom depth (pos.next c) s := by
  rw [lexFrom]
  split
  · rename_i found'
    rw [found] at found'
    cases found'
  · rfl

theorem rule_of_firstLexeme? (found : firstLexeme? rules s = some (kind,lexeme,rest)) :
    ∃ rule ∈ rules, rule.kind = kind ∧ rule.shape.read? s = some (lexeme,rest) := by
  induction rules with
  | nil => cases found
  | cons rule rules ih =>
    rw [firstLexeme?] at found
    split at found
    · rename_i read
      cases found
      exact ⟨rule,List.mem_cons_self,rfl,read⟩
    · obtain ⟨other,member,kind,read⟩ := ih found
      exact ⟨other,List.mem_cons_of_mem rule member,kind,read⟩

theorem kind_ne_dash {t : Token} {ts : List Token} (front : s.head? ≠ some '-') (lexed : lexFrom (depth + 1) pos s = t :: ts) :
    t.kind ≠ .dash := by
  cases s with
  | nil =>
    rw [lexFrom] at lexed
    cases lexed
  | cons c s =>
    rw [lexFrom] at lexed
    split at lexed
    · rename_i kind x rest found
      cases lexed
      intro (dash : kind = .dash)
      subst dash
      obtain ⟨rule,member,kind,read⟩ := rule_of_firstLexeme? found
      have dashes : ∀ rule ∈ Rule.inside, rule.kind = .dash → rule.shape = word ['-'] := by
        simp [Rule.inside,Rule.escapes,Rule.posix,Rule.classOpen,Rule.classClose,Rule.quote,Rule.namedChar,Rule.property,
          Rule.scalar,Rule.metaControl,Rule.metaKey,Rule.control,Rule.backRef,Rule.subpatternCall,Rule.builtinClass,
          Rule.assertion,Rule.escaped,Rule.setOp,Rule.dash]
      have never : (word ['-']).mayStart c = false := by
        simpa [Shape.mayStart] using front
      rw [dashes rule member kind,Shape.read?_eq_none never] at read
      cases read
    · cases lexed
      exact Kind.noConfusion

end Lexing

end LexPattern.Token
