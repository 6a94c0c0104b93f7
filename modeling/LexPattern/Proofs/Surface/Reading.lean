import Mathlib
import LexPattern.Proofs.Surface.Grammar

namespace LexPattern.Surface

open Text (Position Span)

namespace Builder

inductive Takes (limit : Nat) (eof : Position) : Builder → List Token → List Token → Builder → Prop where
  | none : Takes limit eof b [] rest b
  | more (stepped : b.step limit t (ts ++ rest) eof = .ok b₁) (others : Takes limit eof b₁ ts rest b₂) :
      Takes limit eof b (t :: ts) rest b₂

variable {limit : Nat} {eof stop : Position} {b b₁ b₂ : Builder} {t : Token} {ts us rest following : List Token}
  {d : Draft} {frames : List Frame} {c : ClassDraft} {outer : List ClassDraft}

namespace Takes

theorem append (first : Takes limit eof b ts following b₁) (same : following = us ++ rest)
    (second : Takes limit eof b₁ us rest b₂) : Takes limit eof b (ts ++ us) rest b₂ := by
  induction first with
  | none => exact second
  | more stepped _ ih =>
    rw [List.cons_append]
    refine .more ?_ (ih same second)
    rw [List.append_assoc,← same]
    exact stepped

theorem single (stepped : b.step limit t rest eof = .ok b₁) : Takes limit eof b [t] rest b₁ := .more stepped .none

theorem run (taken : Takes limit eof b ts rest b₁) : b.run limit eof (ts ++ rest) = b₁.run limit eof rest := by
  induction taken with
  | none => rfl
  | more stepped _ ih =>
    rw [List.cons_append,Builder.run]
    simp only [stepped]
    exact ih

end Takes

section Steps

theorem step_expression : (⟨stop,d,frames,.expression⟩ : Builder).step limit t rest eof =
    (stepExpression limit ⟨stop,d,frames,.expression⟩ t (firstPos eof rest)).map fun b => {b with stop := t.stop} := by
  cases rest <;> rfl

theorem step_brackets : (⟨stop,d,frames,.brackets c outer⟩ : Builder).step limit t rest eof =
    (stepBrackets limit ⟨stop,d,frames,.brackets c outer⟩ c outer t rest).map fun b => {b with stop := t.stop} := rfl

theorem step_condition {opening : Token} {text : List Char} :
    (⟨stop,d,frames,.condition opening text⟩ : Builder).step limit t rest eof =
      .ok {stepCondition ⟨stop,d,frames,.condition opening text⟩ opening text t (firstPos eof rest) with stop := t.stop} := by
  cases rest <;> rfl

theorem enter_eq_ok_iff {u : Unit} : b.enter limit t = .ok u ↔ b.depth + 1 ≤ limit := by
  unfold enter
  split
  · simp; omega
  · simp; omega

theorem stepExpression_item {n : Node} {next : Position} (read : item t = .ok n) :
    b.stepExpression limit t next = .ok (b.push n) := by
  unfold stepExpression
  split
  case h_10 => rw [read]; rfl
  all_goals
    rename_i kind
    simp [item,kind,readAtom,atomKind,Except.map] at read

theorem rangeFollows_iff : rangeFollows ts = true ↔ DashOpensRange ts := by
  unfold DashOpensRange
  match ts with
  | [] => simp [rangeFollows]
  | [t] => simp [rangeFollows]
  | dash :: next :: more => simp [rangeFollows,and_assoc]

theorem stepBrackets_atom {a : Atom} (idle : c.range = .idle) (read : readAtom t = .ok a) :
    b.stepBrackets limit c outer t rest =
      .ok {b with focus := .brackets (if rangeFollows rest then {c with range := .low a} else c.push (.atom a)) outer} := by
  unfold stepBrackets
  rw [idle]
  dsimp only
  split
  case h_6 =>
    rw [read]
    dsimp only
    split <;> rfl
  all_goals
    rename_i kind
    simp [kind,readAtom,atomKind,Except.map] at read

end Steps

section Parentheses

theorem takes_condition {opening : Token} {text : List Char} (inside : ∀ t ∈ ts, t.kind ≠ .groupClose) :
    Takes limit eof ⟨stop,d,frames,.condition opening text⟩ ts rest
      ⟨lastStop stop ts,d,frames,.condition opening (text ++ ts.flatMap Token.lexeme)⟩ := by
  induction ts generalizing stop text with
  | nil =>
    rw [List.flatMap_nil,List.append_nil]
    exact .none
  | cons t ts ih =>
    rw [List.flatMap_cons,← List.append_assoc]
    refine .more ?_ (ih fun u member => inside u (List.mem_cons_of_mem t member))
    simp [step_condition,stepCondition,inside t List.mem_cons_self]

theorem takes_opening {front : List Token} {enclosure : Enclosure} (opens : Opens front enclosure) (stop : Position)
    (d : Draft) (rest : List Token) (room : frames.length + 1 ≤ limit) : ∃ opening : Token, opening.pos = firstPos eof front ∧
      Takes limit eof ⟨stop,d,frames,.expression⟩ front rest
        ⟨lastStop stop front,.new (firstPos eof rest),⟨opening,enclosure,d⟩ :: frames,.expression⟩ := by
  have entered {t : Token} : enter limit ⟨stop,d,frames,.expression⟩ t = .ok () :=
    enter_eq_ok_iff.mpr room
  cases opens with
  | @group t kind =>
    refine ⟨t,rfl,.single ?_⟩
    rw [step_expression]
    simp only [stepExpression,kind,entered]
    rfl
  | @options t kind opens =>
    refine ⟨t,rfl,.single ?_⟩
    rw [step_expression]
    simp only [stepExpression,kind,entered,if_neg opens]
    rfl
  | @absent t kind =>
    refine ⟨t,rfl,.single ?_⟩
    rw [step_expression]
    simp only [stepExpression,kind,entered]
    rfl
  | conditional kind inside closed =>
    rename_i condition t close
    refine ⟨t,rfl,?_⟩
    have opened : Takes limit eof ⟨stop,d,frames,.expression⟩ [t] (condition ++ [close] ++ rest)
        ⟨t.stop,d,frames,.condition t []⟩ := by
      refine .single ?_
      rw [step_expression]
      simp only [stepExpression,kind,entered]
      rfl
    have kept : Takes limit eof ⟨t.stop,d,frames,.condition t []⟩ condition ([close] ++ rest)
        ⟨lastStop t.stop condition,d,frames,.condition t (condition.flatMap Token.lexeme)⟩ := takes_condition inside
    refine opened.append rfl (kept.append rfl (.single ?_))
    rw [step_condition,stepCondition,if_pos closed,List.cons_append,← List.singleton_append,lastStop_append,lastStop_snoc]
    rfl

end Parentheses

end Builder

open Builder (Takes)

-- What taking the tokens of a phrase comes to, in the place where such a phrase can stand.
def Phrase.Taken (limit : Nat) (eof : Position) (room : Nat) (ts rest : List Token) : Phrase → Prop
  | expression n => ∀ stop frames, frames.length + room ≤ limit → ∃ d : Draft,
      Takes limit eof ⟨stop,.new (firstPos eof (ts ++ rest)),frames,.expression⟩ ts rest
        ⟨lastStop stop ts,d,frames,.expression⟩ ∧ d.finish (lastStop stop ts) = n
  | branches ns => ∀ stop start before frames, frames.length + room ≤ limit → ∃ d : Draft,
      Takes limit eof ⟨stop,⟨start,before,firstPos eof (ts ++ rest),[]⟩,frames,.expression⟩ ts rest
        ⟨lastStop stop ts,d,frames,.expression⟩ ∧ d.start = start ∧
      d.branch (lastStop stop ts) :: d.branches = ns.reverse ++ before
  | branch n => ∀ stop start before frames, frames.length + room ≤ limit → ∃ items : List Node,
      Takes limit eof ⟨stop,⟨start,before,firstPos eof (ts ++ rest),[]⟩,frames,.expression⟩ ts rest
        ⟨lastStop stop ts,⟨start,before,firstPos eof (ts ++ rest),items⟩,frames,.expression⟩ ∧
      Draft.branch ⟨start,before,firstPos eof (ts ++ rest),items⟩ (lastStop stop ts) = n
  | items ns => ∀ stop start branches branchStart before frames, frames.length + room ≤ limit →
      Takes limit eof ⟨stop,⟨start,branches,branchStart,before⟩,frames,.expression⟩ ts rest
        ⟨lastStop stop ts,⟨start,branches,branchStart,ns.reverse ++ before⟩,frames,.expression⟩
  | item n | atom n => ∀ stop d frames, frames.length + room ≤ limit →
      Takes limit eof ⟨stop,d,frames,.expression⟩ ts rest ⟨lastStop stop ts,d.push n,frames,.expression⟩
  | operation ms => ∀ stop d frames opening outer, frames.length + (outer.length + 1) + room ≤ limit → ∃ c : ClassDraft,
      Takes limit eof ⟨stop,d,frames,.brackets (.new opening) outer⟩ ts rest
        ⟨lastStop stop ts,d,frames,.brackets c outer⟩ ∧
      c.opening = opening ∧ c.range = .idle ∧ c.operand (lastStop stop ts) = ms
  | members ms => ∀ stop d frames opening left before outer, frames.length + (outer.length + 1) + room ≤ limit →
      Takes limit eof ⟨stop,d,frames,.brackets ⟨opening,left,before,.idle⟩ outer⟩ ts rest
        ⟨lastStop stop ts,d,frames,.brackets ⟨opening,left,ms.reverse ++ before,.idle⟩ outer⟩
  | member m => ∀ stop d frames opening left before outer, frames.length + (outer.length + 1) + room ≤ limit →
      Takes limit eof ⟨stop,d,frames,.brackets ⟨opening,left,before,.idle⟩ outer⟩ ts rest
        ⟨lastStop stop ts,d,frames,.brackets ⟨opening,left,m :: before,.idle⟩ outer⟩

section Taking

variable {limit room : Nat} {eof stop : Position} {ts rest : List Token}

theorem sequence_of_several {span : Span} {ns : List Node} (several : 2 ≤ ns.length) :
    sequence span ns = .concatenation span ns := by
  match ns with
  | [] | [_] => simp at several
  | _ :: _ :: _ => rfl

theorem choice_of_several {span : Span} {ns : List Node} (several : 2 ≤ ns.length) :
    choice span ns = .alternation span ns := by
  match ns with
  | [] | [_] => simp at several
  | _ :: _ :: _ => rfl

theorem branch_eq_sequence {d : Draft} {ns : List Node} (derived : Derives eof room (.items ns) ts rest)
    (items : ns.reverse = d.items) (start : d.branchStart = firstPos eof (ts ++ rest)) :
    d.branch (lastStop stop ts) = sequence (stretch eof ts rest) ns := by
  obtain ⟨none,_⟩ := derived.spans
  rw [List.reverse_eq_iff] at items
  subst items
  unfold Draft.branch
  rw [start]
  split
  · rename_i shape
    rw [shape] at none ⊢
    cases none.mp rfl
    rfl
  · rename_i n shape
    rw [shape]
    rfl
  · rename_i notNone notOne
    have several : 2 ≤ d.items.reverse.length := by
      match shape : d.items with
      | [] => exact absurd shape notNone
      | [n] => exact absurd shape (notOne n)
      | _ :: _ :: _ => simp
    have some : ts ≠ [] := fun empty => notNone (List.reverse_eq_nil_iff.mp (none.mpr empty))
    rw [sequence_of_several several,lastStop_eq some]
    rfl

theorem finish_eq_choice {d : Draft} {ns : List Node} (derived : Derives eof room (.branches ns) ts rest)
    (branches : d.branch (lastStop stop ts) :: d.branches = ns.reverse) (start : d.start = firstPos eof (ts ++ rest)) :
    d.finish (lastStop stop ts) = choice (stretch eof ts rest) ns := by
  rw [← List.reverse_eq_iff] at branches
  subst branches
  unfold Draft.finish
  split
  · rename_i shape
    rw [shape]
    rfl
  · rename_i further
    have several : 2 ≤ (d.branch (lastStop stop ts) :: d.branches).reverse.length := by
      match shape : d.branches with
      | [] => exact absurd shape further
      | _ :: _ => simp
    have some : ts ≠ [] := derived.spans.2.1 several
    rw [choice_of_several several,start,lastStop_eq some]
    rfl

namespace Phrase.Taken

variable {n : Node} {ns : List Node} {us : List Token}

theorem nextBranch {bar : Token} (before : Taken limit eof room ts (bar :: us ++ rest) (.branches ns))
    (kind : bar.kind = .alt) (next : Taken limit eof room us rest (.branch n)) :
    Taken limit eof room (ts ++ bar :: us) rest (.branches (ns ++ [n])) := by
  intro stop start earlier frames enough
  obtain ⟨d,taken,rfl,branches⟩ := before stop start earlier frames enough
  obtain ⟨items,further,rfl⟩ := next bar.stop d.start (ns.reverse ++ earlier) frames enough
  refine ⟨⟨d.start,ns.reverse ++ earlier,firstPos eof (us ++ rest),items⟩,?_,rfl,?_⟩
  · rw [lastStop_append,List.append_assoc]
    refine taken.append rfl (.more ?_ further)
    rw [Builder.step_expression]
    simp only [Builder.stepExpression,kind,← branches]
    rfl
  · rw [lastStop_append,List.reverse_append]
    rfl

theorem quantified {q : Token} (inner : Taken limit eof room ts (q :: rest) (.item n))
    (place : n.span.start = firstPos eof (ts ++ q :: rest)) (kind : q.kind = .quant ∨ q.kind = .count) :
    Taken limit eof room (ts ++ [q]) rest (.item (.quantification (stretch eof (ts ++ [q]) rest) (readAmount q.lexeme).1
      (readGreed (readAmount q.lexeme).2) n)) := by
  intro stop d frames enough
  refine (inner stop d frames enough).append rfl (.single ?_)
  rw [Builder.step_expression,lastStop_snoc,stretch_snoc,← place]
  obtain kind | kind := kind
  · simp only [Builder.stepExpression,kind]
    rfl
  · simp only [Builder.stepExpression,kind]
    rfl

theorem enclosed {front : List Token} {enclosure : Enclosure} {close : Token} (opens : Opens front enclosure)
    (inner : Taken limit eof room ts (close :: rest) (.expression n)) (closed : close.kind = .groupClose) :
    Taken limit eof (room + 1) (front ++ ts ++ [close]) rest
      (.atom (enclosure.close (stretch eof (front ++ ts ++ [close]) rest) n)) := by
  intro stop d frames enough
  obtain ⟨opening,place,opened⟩ : ∃ opening : Token, opening.pos = firstPos eof front ∧
      Takes limit eof ⟨stop,d,frames,.expression⟩ front (ts ++ close :: rest)
        ⟨lastStop stop front,.new (firstPos eof (ts ++ close :: rest)),⟨opening,enclosure,d⟩ :: frames,.expression⟩ :=
    Builder.takes_opening opens stop d _ (by omega)
  obtain ⟨inside,taken,rfl⟩ := inner (lastStop stop front) (⟨opening,enclosure,d⟩ :: frames) (by simp; omega)
  rw [lastStop_snoc,opens.stretch_eq place]
  refine (opened.append rfl taken).append rfl (.single ?_)
  rw [Builder.step_expression]
  simp only [Builder.stepExpression,closed]
  rfl

theorem brackets {ms : List Member} {close : Token} (inner : Taken limit eof room ts (close :: rest) (.operation ms))
    (closed : close.kind = .classClose) (d : Draft) (frames : List Frame) (opening : Token) (outer : List ClassDraft)
    (enough : frames.length + (outer.length + 1) + room ≤ limit) :
    ∃ c : ClassDraft, c.opening = opening ∧ c.operand (lastStop opening.stop ts) = ms ∧
      Takes limit eof ⟨opening.stop,d,frames,.brackets (.new opening) outer⟩ (ts ++ [close]) rest
        {Builder.closeBrackets ⟨lastStop opening.stop ts,d,frames,.brackets c outer⟩ close c outer with stop := close.stop} := by
  obtain ⟨c,taken,opened,idle,members⟩ := inner opening.stop d frames opening outer enough
  refine ⟨c,opened,members,taken.append rfl (.single ?_)⟩
  rw [Builder.step_brackets]
  simp only [Builder.stepBrackets,idle,closed]
  rfl

theorem bracketed {ms : List Member} {opening close : Token} (kind : opening.kind = .classOpen)
    (inner : Taken limit eof room ts (close :: rest) (.operation ms)) (closed : close.kind = .classClose) :
    Taken limit eof (room + 1) (opening :: ts ++ [close]) rest
      (.atom (.customClass (stretch eof (opening :: ts ++ [close]) rest) (opening.lexeme == ['[','^']) ms)) := by
  intro stop d frames enough
  obtain ⟨c,rfl,rfl,taken⟩ := brackets inner closed d frames opening [] (by simp; omega)
  rw [lastStop_snoc,stretch_snoc]
  refine .more ?_ taken
  have entered : Builder.enter limit ⟨stop,d,frames,.expression⟩ c.opening = .ok () :=
    Builder.enter_eq_ok_iff.mpr (show frames.length + 1 ≤ limit by omega)
  rw [Builder.step_expression]
  simp only [Builder.stepExpression,kind,entered]
  rfl

theorem nested {ms : List Member} {opening close : Token} (kind : opening.kind = .classOpen)
    (inner : Taken limit eof room ts (close :: rest) (.operation ms)) (closed : close.kind = .classClose) :
    Taken limit eof (room + 1) (opening :: ts ++ [close]) rest
      (.member (.customClass (stretch eof (opening :: ts ++ [close]) rest) (opening.lexeme == ['[','^']) ms)) := by
  intro stop d frames around left before outer enough
  obtain ⟨c,rfl,rfl,taken⟩ :=
    brackets inner closed d frames opening (⟨around,left,before,.idle⟩ :: outer) (by simp; omega)
  rw [lastStop_snoc,stretch_snoc]
  refine .more ?_ taken
  have entered : Builder.enter limit ⟨stop,d,frames,.brackets ⟨around,left,before,.idle⟩ outer⟩ c.opening = .ok () :=
    Builder.enter_eq_ok_iff.mpr (show frames.length + (outer.length + 1) + 1 ≤ limit by omega)
  rw [Builder.step_brackets]
  simp only [Builder.stepBrackets,kind,entered]
  rfl

theorem operate_eq {c : ClassDraft} {lhs : List Member} {op : Token} (members : c.operand stop = lhs)
    (place : lhs.head?.map (·.span.start) = ts.head?.map Token.pos) : c.operate stop op =
      ⟨c.opening,some ⟨firstPos eof (ts ++ op :: rest),lhs,readSetOp op.lexeme⟩,[],c.range⟩ := by
  unfold ClassDraft.operate
  rw [members]
  cases lhs with
  | nil =>
    cases ts with
    | nil => rfl
    | cons t ts => cases place
  | cons m lhs =>
    cases ts with
    | nil => cases place
    | cons t ts =>
      have same : m.span.start = t.pos := Option.some.inj place
      simp only [same]
      rfl

theorem operated {lhs rhs : List Member} {op : Token} (left : Taken limit eof room ts (op :: us ++ rest) (.operation lhs))
    (place : lhs.head?.map (·.span.start) = ts.head?.map Token.pos) (kind : op.kind = .setOp)
    (right : Taken limit eof room us rest (.members rhs)) : Taken limit eof room (ts ++ op :: us) rest
      (.operation [.setOperation (stretch eof (ts ++ op :: us) rest) lhs (readSetOp op.lexeme) rhs]) := by
  intro stop d frames opening outer enough
  obtain ⟨c,taken,rfl,idle,members⟩ := left stop d frames opening outer enough
  have waiting : c.operate (lastStop stop ts) op =
      ⟨c.opening,some ⟨firstPos eof (ts ++ op :: (us ++ rest)),lhs,readSetOp op.lexeme⟩,[],.idle⟩ := by
    rw [operate_eq members place,idle]
  have stepped : Builder.step limit ⟨lastStop stop ts,d,frames,.brackets c outer⟩ op (us ++ rest) eof =
      .ok ⟨op.stop,d,frames,.brackets (c.operate (lastStop stop ts) op) outer⟩ := by
    rw [Builder.step_brackets]
    simp only [Builder.stepBrackets,idle,kind]
    rfl
  rw [waiting] at stepped
  have further := right op.stop d frames c.opening (some ⟨firstPos eof (ts ++ op :: (us ++ rest)),lhs,readSetOp op.lexeme⟩)
    [] outer enough
  rw [lastStop_append]
  refine ⟨_,taken.append rfl (.more stepped further),rfl,rfl,?_⟩
  have last : lastStop (firstPos eof rest) (ts ++ op :: us) = lastStop op.stop us := by rw [lastStop_append]; rfl
  simp only [ClassDraft.operand,stretch,last,List.append_nil,List.reverse_reverse,List.append_assoc,List.cons_append]
  rfl

theorem range {lo hi : Atom} {first dash last : Token} (readFirst : readAtom first = .ok lo) (kind : dash.kind = .dash)
    (readLast : readAtom last = .ok hi) : Taken limit eof room [first,dash,last] rest
      (.member (.range (stretch eof [first,dash,last] rest) lo hi)) := by
  intro stop d frames opening left before outer _
  have follows : DashOpensRange ([dash,last] ++ rest) := by
    refine ⟨dash,last,rest,rfl,kind,?_,?_⟩
    all_goals
      intro shape
      simp [shape,readAtom,atomKind,Except.map] at readLast
  have low : Builder.step limit ⟨stop,d,frames,.brackets ⟨opening,left,before,.idle⟩ outer⟩ first ([dash,last] ++ rest) eof =
      .ok ⟨first.stop,d,frames,.brackets ⟨opening,left,before,.low lo⟩ outer⟩ := by
    rw [Builder.step_brackets,Builder.stepBrackets_atom rfl readFirst,if_pos (Builder.rangeFollows_iff.mpr follows)]
    rfl
  have dashed : Builder.step limit ⟨first.stop,d,frames,.brackets ⟨opening,left,before,.low lo⟩ outer⟩ dash ([last] ++ rest)
      eof = .ok ⟨dash.stop,d,frames,.brackets ⟨opening,left,before,.dashed lo⟩ outer⟩ := rfl
  refine .more low (.more dashed (.single ?_))
  obtain ⟨_,_,rfl⟩ := readAtom_eq_ok_iff.mp readFirst
  rw [Builder.step_brackets]
  simp only [Builder.stepBrackets,readLast]
  rfl

end Phrase.Taken

theorem Derives.taken {phrase : Phrase} (derived : Derives eof room phrase ts rest) :
    phrase.Taken limit eof room ts rest := by
  induction derived with
  | expression inner ih =>
    intro stop frames enough
    obtain ⟨d,taken,start,branches⟩ := ih stop _ [] frames enough
    rw [List.append_nil] at branches
    exact ⟨d,taken,finish_eq_choice inner branches start⟩
  | firstBranch _ ih =>
    intro stop start before frames enough
    obtain ⟨items,taken,rfl⟩ := ih stop start before frames enough
    exact ⟨_,taken,rfl,rfl⟩
  | nextBranch _ kind _ ih₁ ih₂ => exact .nextBranch ih₁ kind ih₂
  | branch inner ih =>
    intro stop start before frames enough
    exact ⟨_,ih stop start before _ [] frames enough,branch_eq_sequence inner (List.append_nil _).symm rfl⟩
  | noItem =>
    intro stop start branches branchStart before frames _
    exact .none
  | nextItem _ _ ih₁ ih₂ =>
    intro stop start branches branchStart before frames enough
    rw [lastStop_append,List.reverse_append]
    exact (ih₁ stop start branches branchStart before frames enough).append rfl (ih₂ _ _ frames enough)
  | once _ ih => exact ih
  | quantified inner kind ih => exact .quantified ih (congrArg Span.start inner.spans.2) kind
  | enclosed opens _ closed ih => exact .enclosed opens ih closed
  | bracketed kind _ closed ih => exact .bracketed kind ih closed
  | settings kind closed =>
    intro stop d frames _
    refine .single ?_
    rw [Builder.step_expression]
    simp only [Builder.stepExpression,kind,if_pos closed]
    rfl
  | token read =>
    intro stop d frames _
    refine .single ?_
    rw [Builder.step_expression,Builder.stepExpression_item read]
    rfl
  | operand inner ih =>
    intro stop d frames opening outer enough
    refine ⟨_,ih stop d frames opening none [] outer enough,rfl,rfl,?_⟩
    simp [ClassDraft.operand]
  | operated left kind _ ih₁ ih₂ => exact .operated ih₁ left.spans kind ih₂
  | noMember =>
    intro stop d frames opening left before outer _
    exact .none
  | nextMember _ _ ih₁ ih₂ =>
    intro stop d frames opening left before outer enough
    rw [lastStop_append,List.reverse_append]
    exact (ih₁ stop d frames opening left before outer enough).append rfl (ih₂ _ d frames opening left _ outer enough)
  | nested kind _ closed ih => exact .nested kind ih closed
  | quotation kind =>
    intro stop d frames opening left before outer _
    refine .single ?_
    rw [Builder.step_brackets]
    simp only [Builder.stepBrackets,kind]
    rfl
  | dash kind =>
    intro stop d frames opening left before outer _
    refine .single ?_
    rw [Builder.step_brackets]
    simp only [Builder.stepBrackets,kind]
    rfl
  | single read ends =>
    intro stop d frames opening left before outer _
    refine .single ?_
    rw [Builder.step_brackets,Builder.stepBrackets_atom rfl read,if_neg (mt Builder.rangeFollows_iff.mp ends)]
    rfl
  | range readFirst kind readLast => exact .range readFirst kind readLast

theorem ofTokens_eq : ofTokens limit ts eof = (Builder.new (firstPos eof ts)).run limit eof ts := by
  cases ts with
  | nil => rfl
  | cons t ts => rfl

-- Tokens that the grammar derives are read as the derived tree, under any limit that leaves room for it.
theorem Derives.ofTokens_eq_ok {n : Node} (derived : Derives eof room (.expression n) ts []) (enough : room ≤ limit) :
    ofTokens limit ts eof = .ok n := by
  obtain ⟨d,taken,rfl⟩ := derived.taken (firstPos eof ts) [] (by simpa using enough)
  have built := taken.run
  rw [List.append_nil] at built
  rw [ofTokens_eq]
  exact built

theorem Derives.ofTokens_item {n : Node} (item : Derives eof room (.item n) ts []) (enough : room ≤ limit) :
    ofTokens limit ts eof = .ok n := by
  have items : Derives eof room (.items [n]) ts [] := .nextItem .noItem item
  exact (Derives.expression (.firstBranch (.branch items))).ofTokens_eq_ok enough

theorem Derives.ofTokens_class {ms : List Member} {opening close : Token} (members : Derives eof 0 (.members ms) ts [close])
    (opens : opening.kind = .classOpen) (closes : close.kind = .classClose) (enough : 1 ≤ limit) :
    ofTokens limit (opening :: ts ++ [close]) eof = .ok (.customClass (stretch eof (opening :: ts ++ [close]) [])
      (opening.lexeme == ['[','^']) ms) :=
  Derives.ofTokens_item (.once (.bracketed opens (.operand members) closes)) enough

end Taking

end LexPattern.Surface
