import Mathlib
import LexPattern.Proofs.Token.Brackets
import LexPattern.Proofs.Token.Places

namespace LexPattern.Token

open Text (Position placeAfter)
open Shape

inductive Mode where
  | root
  | brackets
deriving DecidableEq, Repr

def Rule.char : Rule := ⟨.char,Rule.anyChar⟩

def Mode.rules : Mode → List Rule
  | root => Rule.outside ++ [Rule.char]
  | brackets => Rule.inside ++ [Rule.char]

def firstFit? : List Rule → List Char → Option (Kind × List Char × List Char)
  | [],_ => none
  | rule :: rules,s =>
    match rule.shape.read? s with
    | some (x,rest) => some (rule.kind,x,rest)
    | none => firstFit? rules s

-- An opening bracket puts a mode on the stack, a closing one takes the last one off.
def stackAfter (modes : List Mode) : Kind → List Mode
  | .classOpen => .brackets :: modes
  | .classClose => modes.tail
  | _ => modes

-- A token with the stack of modes that it was read with, the last one apart.
structure Scanned where
  mode : Mode
  outer : List Mode
  token : Token
deriving DecidableEq, Repr

inductive ScanFault where
  | noMode (pos : Position)
  | noRule (pos : Position)
  | nothingRead (kind : Kind) (pos : Position)
deriving DecidableEq, Repr

theorem firstFit?_append {rules : List Rule} {s x rest : List Char} {kind : Kind}
    (found : firstFit? rules s = some (kind,x,rest)) : s = x ++ rest := by
  induction rules with
  | nil => cases found
  | cons rule rules ih =>
    rw [firstFit?] at found
    split at found
    · rename_i read
      cases found
      exact read?_append read
    · exact ih found

def scanFrom (modes : List Mode) (pos : Position) (s : List Char) : Except ScanFault (List Scanned × Position) :=
  match modes,s with
  | [],_ => .error (.noMode pos)
  | _ :: _,[] => .ok ([],pos)
  | mode :: modes,c :: cs =>
    match _found : firstFit? mode.rules (c :: cs) with
    | none => .error (.noRule pos)
    | some (kind,[],_) => .error (.nothingRead kind pos)
    | some (kind,d :: x,rest) => do
      let (scanned,stop) ← scanFrom (stackAfter (mode :: modes) kind) (pos.advance (d :: x)) rest
      .ok (⟨mode,modes,kind,d :: x,pos⟩ :: scanned,stop)
termination_by s.length
decreasing_by
  rw [firstFit?_append _found,List.length_append,List.length_cons]
  omega

def scan (s : List Char) : Except ScanFault (List Scanned × Position) := scanFrom [.root] .start s

section Rules

variable {rules : List Rule} {s x rest : List Char} {c : Char} {kind : Kind} {mode : Mode}

def Shape.solid : Shape → Bool
  | word cs => !cs.isEmpty
  | one _ => true
  | run _ => false
  | through stop => !stop.isEmpty
  | seq first second => first.solid || second.solid
  | either first second => first.solid && second.solid

theorem Shape.splitAfter?_ne_nil {stop : List Char} (visible : stop ≠ []) (found : splitAfter? stop s = some (x,rest)) :
    x ≠ [] := by
  cases s with
  | nil => simp [splitAfter?,visible] at found
  | cons c cs =>
    rw [splitAfter?] at found
    split at found
    · cases found
      exact visible
    · obtain ⟨⟨y,r⟩,_,joined⟩ := Option.map_eq_some_iff.mp found
      cases joined
      exact List.cons_ne_nil _ _

theorem Shape.ne_nil_of_solid {shape : Shape} (solid : shape.solid = true) (found : shape.read? s = some (x,rest)) : x ≠ [] := by
  induction shape generalizing s x rest with
  | word cs =>
    rw [read?] at found
    split at found
    · cases found
      simpa [Shape.solid] using solid
    · cases found
  | one allowed =>
    cases s with
    | nil => cases found
    | cons c s =>
      rw [read?] at found
      split at found
      · cases found
        exact List.cons_ne_nil _ _
      · cases found
  | run allowed => cases solid
  | through stop => exact splitAfter?_ne_nil (by simpa [Shape.solid] using solid) found
  | seq first second ih₁ ih₂ =>
    rw [read?] at found
    split at found
    · cases found
    · rename_i y s' read
      split at found
      · cases found
      · rename_i z s'' read'
        cases found
        rw [Shape.solid,Bool.or_eq_true] at solid
        intro nothing
        obtain ⟨noFirst,noSecond⟩ := List.append_eq_nil_iff.mp nothing
        obtain first | second := solid
        · exact ih₁ first read noFirst
        · exact ih₂ second read' noSecond
  | either first second ih₁ ih₂ =>
    rw [Shape.solid,Bool.and_eq_true] at solid
    rw [read?] at found
    split at found
    · rename_i y read
      cases found
      exact ih₁ solid.1 read
    · exact ih₂ solid.2 found

-- Every rule reads something, so the first that fits is the first that reads something.
theorem firstFit?_eq (solid : ∀ rule ∈ rules, rule.shape.solid = true) : firstFit? rules s = firstLexeme? rules s := by
  induction rules with
  | nil => rfl
  | cons rule rules ih =>
    have others := ih fun other member => solid other (List.mem_cons_of_mem rule member)
    rw [firstFit?,firstLexeme?]
    cases read : rule.shape.read? s with
    | none => exact others
    | some found =>
      obtain ⟨y,r⟩ := found
      cases y with
      | nil => exact absurd rfl (ne_nil_of_solid (solid rule List.mem_cons_self) read)
      | cons d y => rfl

theorem Mode.rules_solid (mode : Mode) : ∀ rule ∈ mode.rules, rule.shape.solid = true := by
  cases mode with
  | root => decide
  | brackets => decide

theorem firstLexeme?_char : firstLexeme? (rules ++ [Rule.char]) (c :: s) =
    some ((firstLexeme? rules (c :: s)).getD (.char,[c],s)) := by
  induction rules with
  | nil => rfl
  | cons rule rules ih =>
    rw [List.cons_append,firstLexeme?,firstLexeme?]
    split
    · rfl
    · exact ih

def modeAt (depth : Nat) : Mode := if depth = 0 then .root else .brackets

theorem modeAt_rules (depth : Nat) : (modeAt depth).rules = rulesAt depth ++ [Rule.char] := by
  unfold modeAt rulesAt
  split
  · rfl
  · rfl

theorem firstFit?_modeAt (depth : Nat) : firstFit? (modeAt depth).rules (c :: s) =
    some ((firstLexeme? (rulesAt depth) (c :: s)).getD (.char,[c],s)) := by
  rw [firstFit?_eq (modeAt depth).rules_solid,modeAt_rules,firstLexeme?_char]

theorem rule_of_firstFit? (found : firstFit? rules s = some (kind,x,rest)) :
    ∃ rule ∈ rules, rule.kind = kind ∧ rule.shape.read? s = some (x,rest) := by
  induction rules with
  | nil => cases found
  | cons rule rules ih =>
    rw [firstFit?] at found
    split at found
    · rename_i read
      cases found
      exact ⟨rule,List.mem_cons_self,rfl,read⟩
    · obtain ⟨other,member,kind,read⟩ := ih found
      exact ⟨other,List.mem_cons_of_mem rule member,kind,read⟩

theorem Mode.ne_nil (found : firstFit? mode.rules s = some (kind,x,rest)) : x ≠ [] := by
  obtain ⟨rule,member,_,read⟩ := rule_of_firstFit? found
  exact ne_nil_of_solid (mode.rules_solid rule member) read

-- Outside brackets there is nothing to close: a closing bracket stands for itself.
theorem root_ne_classClose (found : firstFit? Mode.root.rules s = some (kind,x,rest)) : kind ≠ .classClose := by
  obtain ⟨rule,member,rfl,_⟩ := rule_of_firstFit? found
  have never : ∀ rule ∈ Mode.root.rules, rule.kind ≠ .classClose := by decide
  exact never rule member

theorem root_closing (found : firstFit? Mode.root.rules (']' :: s) = some (kind,x,rest)) : kind = .char ∧ x = [']'] := by
  have never : ∀ rule ∈ Rule.outside, rule.shape.mayStart ']' = false := by decide
  rw [firstFit?_eq Mode.root.rules_solid,Mode.rules,firstLexeme?_skip never] at found
  cases found
  exact ⟨rfl,rfl⟩

end Rules

-- Tokens that are cut one after another from their own text, the first of them at the depth.
inductive Cut : Nat → List Token → Prop where
  | nil {depth : Nat} : Cut depth []
  | cons {depth : Nat} {t : Token} {ts : List Token}
      (found : firstFit? (modeAt depth).rules (t.lexeme ++ written ts) = some (t.kind,t.lexeme,written ts))
      (behind : Cut (depthAfter depth t.kind) ts) : Cut depth (t :: ts)

section Runs

variable {depth : Nat} {pos : Position} {t : Token} {ts us : List Token}

theorem lexFrom_cut (depth : Nat) (front s : List Char) : Cut depth (lexFrom depth (placeAfter front) s) := by
  generalize place : placeAfter front = pos
  fun_induction lexFrom depth pos s generalizing front with
  | case1 => exact .nil
  | case2 depth pos c cs kind x rest found ih =>
    subst place
    rw [Text.placeAfter_advance] at ih ⊢
    refine .cons ?_ (ih _ rfl)
    rw [(lexFrom_stand _ _ rest).2,← (firstLexeme?_append found).1,firstFit?_modeAt,found,Option.getD_some]
  | case3 depth pos c cs found ih =>
    subst place
    rw [Text.placeAfter_next] at ih ⊢
    refine .cons ?_ (ih _ rfl)
    rw [(lexFrom_stand _ _ cs).2,List.singleton_append,firstFit?_modeAt,found,Option.getD_none]

theorem lex_cut (s : List Char) : Cut 0 (lex s) := by
  have cut := lexFrom_cut 0 [] s
  rwa [Text.placeAfter_nil] at cut

def depthBehind (depth : Nat) (ts : List Token) : Nat := ts.foldl (fun depth t => depthAfter depth t.kind) depth

def opened (ts : List Token) : Nat := ts.countP (·.kind = .classOpen)

def closed (ts : List Token) : Nat := ts.countP (·.kind = .classClose)

theorem cut_append : Cut depth (ts ++ us) → Cut (depthBehind depth ts) us := by
  intro cut
  induction ts generalizing depth with
  | nil => exact cut
  | cons t ts ih =>
    cases cut with
    | cons _ behind => exact ih behind

-- A step keeps the balance of brackets, as nothing is closed at the root.
theorem depthAfter_balance {s x rest : List Char} {kind : Kind}
    (found : firstFit? (modeAt depth).rules s = some (kind,x,rest)) :
    depthAfter depth kind + (if kind = .classClose then 1 else 0) = depth + (if kind = .classOpen then 1 else 0) := by
  cases kind with
  | classClose =>
    have inside : depth ≠ 0 := by
      rintro rfl
      exact root_ne_classClose found rfl
    simp [depthAfter]
    omega
  | _ => simp [depthAfter]

theorem Cut.balance (cut : Cut depth (ts ++ us)) : depthBehind depth ts + closed ts = depth + opened ts := by
  induction ts generalizing depth with
  | nil => rfl
  | cons t ts ih =>
    cases cut with
    | cons found behind =>
      have step := depthAfter_balance found
      have steps := ih behind
      simp only [depthBehind,closed,opened,List.foldl_cons,List.countP_cons,decide_eq_true_eq] at steps ⊢
      omega

def stackAt (depth : Nat) : List Mode := List.replicate depth .brackets ++ [.root]

def outerAt : Nat → List Mode
  | 0 => []
  | depth + 1 => stackAt depth

theorem stackAt_cons (depth : Nat) : stackAt depth = modeAt depth :: outerAt depth := by
  cases depth with
  | zero => rfl
  | succ depth => rfl

theorem length_outerAt (depth : Nat) : (outerAt depth).length = depth := by
  cases depth with
  | zero => rfl
  | succ depth => simp [outerAt,stackAt]

theorem stackAfter_stackAt {s x rest : List Char} {kind : Kind}
    (found : firstFit? (modeAt depth).rules s = some (kind,x,rest)) :
    stackAfter (stackAt depth) kind = stackAt (depthAfter depth kind) := by
  cases kind with
  | classClose =>
    cases depth with
    | zero => exact absurd rfl (root_ne_classClose found)
    | succ depth => rfl
  | _ => rfl

theorem scanFrom_cons {mode : Mode} {modes : List Mode} {s x rest : List Char} {kind : Kind} {scanned : List Scanned}
    {stop : Position} (found : firstFit? mode.rules s = some (kind,x,rest))
    (behind : scanFrom (stackAfter (mode :: modes) kind) (pos.advance x) rest = .ok (scanned,stop)) :
    scanFrom (mode :: modes) pos s = .ok (⟨mode,modes,kind,x,pos⟩ :: scanned,stop) := by
  obtain ⟨d,y,rfl⟩ := List.exists_cons_of_ne_nil (mode.ne_nil found)
  obtain rfl := firstFit?_append found
  rw [List.cons_append] at found ⊢
  rw [Token.scanFrom]
  split
  · rename_i failed
    rw [found] at failed
    cases failed
  · rename_i empty
    rw [found] at empty
    cases empty
  · rename_i taken
    rw [found] at taken
    cases taken
    rw [behind]
    rfl

def moded (depth : Nat) : List Token → List Scanned
  | [] => []
  | t :: ts => ⟨modeAt depth,outerAt depth,t⟩ :: moded (depthAfter depth t.kind) ts

-- A scan follows the cuts: it meets no fault and ends behind the text.
theorem Cut.scanFrom {front : List Char} (cut : Cut depth ts) (stand : Stand front ts) :
    Token.scanFrom (stackAt depth) (placeAfter front) (written ts) = .ok (moded depth ts,placeAfter (front ++ written ts)) := by
  induction cut generalizing front with
  | nil =>
    rw [stackAt_cons,written,List.flatMap_nil,List.append_nil,Token.scanFrom]
    rfl
  | @cons depth t ts found behind ih =>
    obtain ⟨place,stand⟩ := stand
    have further := ih stand
    rw [← stackAfter_stackAt found,stackAt_cons,← Text.placeAfter_advance] at further
    rw [written_cons,← List.append_assoc,stackAt_cons,scanFrom_cons found further,← place]
    rfl

theorem stack_of_moded {before after : List Scanned} {m : Scanned} (split : moded depth ts = before ++ m :: after) :
    m.mode = modeAt (depthBehind depth (before.map Scanned.token)) ∧
      m.outer = outerAt (depthBehind depth (before.map Scanned.token)) := by
  induction before generalizing depth ts with
  | nil =>
    cases ts with
    | nil => cases split
    | cons t ts =>
      cases split
      exact ⟨rfl,rfl⟩
  | cons other before ih =>
    cases ts with
    | nil => cases split
    | cons t ts =>
      obtain ⟨rfl,tail⟩ := List.cons.inj split
      exact ih tail

theorem tokens_moded : (moded depth ts).map Scanned.token = ts := by
  induction ts generalizing depth with
  | nil => rfl
  | cons t ts ih => exact congrArg _ ih

theorem modeAt_eq_brackets : modeAt depth = .brackets ↔ 0 < depth := by
  unfold modeAt
  split
  · simp_all
  · simp_all [Nat.pos_iff_ne_zero]

-- What was scanned before a token and what is behind it tell where it starts, its mode and its lexeme.
structure Scanned.Placed (before : List Token) (m : Scanned) (after : List Token) : Prop where
  visible : m.token.lexeme ≠ []
  pos : m.token.pos = Position.start.advance (written before)
  within : closed before ≤ opened before
  mode : m.mode = .brackets ↔ closed before < opened before
  -- One mode for every bracket that is open, before the root.
  height : m.outer.length + closed before = opened before
  first : firstFit? m.mode.rules (m.token.lexeme ++ written after) = some (m.token.kind,m.token.lexeme,written after)
  -- Outside brackets a closing bracket is a character like others.
  plain : m.mode = .root → m.token.lexeme.head? = some ']' → m.token.kind = .char ∧ m.token.lexeme = [']']

theorem scanned_placed {s : List Char} {before after : List Token} (lexed : lex s = before ++ t :: after) :
    Scanned.Placed before ⟨modeAt (depthBehind 0 before),outerAt (depthBehind 0 before),t⟩ after := by
  have cut := lex_cut s
  have finish := lex_finish s
  rw [lexed] at cut finish
  have balance := cut.balance
  have start : t.pos = placeAfter (written before) := finish.skip.1.1
  cases cut_append cut with
  | cons found _ =>
    refine ⟨Mode.ne_nil found,?_,by omega,?_,?_,found,fun root closing => ?_⟩
    · rw [start,Text.start_advance]
    · rw [modeAt_eq_brackets]
      omega
    · rw [length_outerAt]
      omega
    · dsimp only at root closing
      obtain ⟨tail,whole⟩ := List.head?_eq_some_iff.mp closing
      rw [root,whole] at found
      have kept := root_closing found
      rwa [← whole] at kept

end Runs

theorem scan_eq (s : List Char) : scan s = .ok (moded 0 (lex s),Position.start.advance s) := by
  have finish := lex_finish s
  have scanned := (lex_cut s).scanFrom finish.1
  rwa [← finish.2,← List.nil_append (written (lex s)),← finish.2,Text.placeAfter_nil,← Text.start_advance] at scanned

theorem scan_lex (s : List Char) : ∃ scanned, scan s = .ok (scanned,Position.start.advance s) ∧
    scanned.map Scanned.token = lex s ∧ written (lex s) = s ∧
    ∀ before m after, scanned = before ++ m :: after →
      m.Placed (before.map Scanned.token) (after.map Scanned.token) := by
  refine ⟨moded 0 (lex s),scan_eq s,tokens_moded,(lex_finish s).2.symm,?_⟩
  rintro before ⟨mode,outer,t⟩ after split
  have tokens : lex s = before.map Scanned.token ++ t :: after.map Scanned.token := by
    rw [← @tokens_moded 0 (lex s),split,List.map_append,List.map_cons]
  obtain ⟨rfl,rfl⟩ := stack_of_moded split
  exact scanned_placed tokens

end LexPattern.Token
