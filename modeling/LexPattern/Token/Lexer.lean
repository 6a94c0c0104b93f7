import LexPattern.Token.Rules

namespace LexPattern.Token

open Text (Position)

def rulesAt (depth : Nat) : List Rule := if depth = 0 then Rule.outside else Rule.inside

def firstLexeme? : List Rule → List Char → Option (Kind × List Char × List Char)
  | [],_ => none
  | rule :: rules,s =>
    match rule.shape.read? s with
    | some (c :: x,rest) => some (rule.kind,c :: x,rest)
    | _ => firstLexeme? rules s

def depthAfter (depth : Nat) : Kind → Nat
  | .classOpen => depth + 1
  | .classClose => depth - 1
  | _ => depth

theorem firstLexeme?_append {rules : List Rule} {s x rest : List Char} {kind : Kind}
    (found : firstLexeme? rules s = some (kind,x,rest)) : s = x ++ rest ∧ x ≠ [] := by
  induction rules with
  | nil => cases found
  | cons rule rules ih =>
    simp only [firstLexeme?] at found
    split at found
    · next c y r read =>
      cases found
      exact ⟨Shape.read?_append read,List.cons_ne_nil _ _⟩
    · exact ih found

theorem firstLexeme?_shorter {rules : List Rule} {s x rest : List Char} {kind : Kind}
    (found : firstLexeme? rules s = some (kind,x,rest)) : rest.length < s.length := by
  obtain ⟨rfl,nonempty⟩ := firstLexeme?_append found
  rw [List.length_append]
  exact Nat.lt_add_of_pos_left (List.length_pos_iff.mpr nonempty)

def lexFrom (depth : Nat) (pos : Position) : List Char → List Token
  | [] => []
  | c :: cs =>
    match _found : firstLexeme? (rulesAt depth) (c :: cs) with
    | some (kind,x,rest) =>
      ⟨kind,x,pos⟩ :: lexFrom (depthAfter depth kind) (pos.advance x) rest
    | none => ⟨.char,[c],pos⟩ :: lexFrom depth (pos.next c) cs
termination_by s => s.length
decreasing_by
  · exact firstLexeme?_shorter _found
  · exact Nat.lt_succ_self _

def lex (s : List Char) : List Token := lexFrom 0 .start s

end LexPattern.Token
