import LexPattern.Surface.Payload

namespace LexPattern.Surface

open Text (Position Span)

inductive Enclosure where
  | group (kind : GroupKind)
  | absent
  | conditional (condition : String)

-- An alternation in progress: finished branches and the items of the branch being read, both newest
-- first, and where each started.
structure Draft where
  start : Position
  branches : List Node
  branchStart : Position
  items : List Node

structure Frame where
  opening : Token
  enclosure : Enclosure
  outer : Draft

inductive RangeState where
  | idle
  | low (lo : Atom)
  | dashed (lo : Atom)

structure LeftOperand where
  start : Position
  members : List Member
  op : SetOp

structure ClassDraft where
  opening : Token
  left : Option LeftOperand
  members : List Member
  range : RangeState

inductive Focus where
  | expression
  | condition (opening : Token) (text : List Char)
  | brackets (current : ClassDraft) (outer : List ClassDraft)

structure Builder where
  stop : Position
  draft : Draft
  frames : List Frame
  focus : Focus

namespace Draft

def new (start : Position) : Draft := ⟨start,[],start,[]⟩

def push (d : Draft) (n : Node) : Draft := {d with items := n :: d.items}

def branch (d : Draft) (stop : Position) : Node :=
  match d.items with
  | [] => .empty ⟨d.branchStart,d.branchStart⟩
  | [item] => item
  | items => .concatenation ⟨d.branchStart,stop⟩ items.reverse

def finish (d : Draft) (stop : Position) : Node :=
  match d.branches with
  | [] => d.branch stop
  | branches => .alternation ⟨d.start,stop⟩ (d.branch stop :: branches).reverse

def split (d : Draft) (stop next : Position) : Draft :=
  {d with branches := d.branch stop :: d.branches,branchStart := next,items := []}

end Draft

namespace ClassDraft

def new (opening : Token) : ClassDraft := ⟨opening,none,[],.idle⟩

def push (c : ClassDraft) (m : Member) : ClassDraft := {c with members := m :: c.members,range := .idle}

def operand (c : ClassDraft) (stop : Position) : List Member :=
  match c.left with
  | none => c.members.reverse
  | some left => [.setOperation ⟨left.start,stop⟩ left.members left.op c.members.reverse]

def operate (c : ClassDraft) (stop : Position) (t : Token) : ClassDraft :=
  let members := c.operand stop
  let start := match members with
    | [] => t.pos
    | m :: _ => m.span.start
  {c with left := some ⟨start,members,readSetOp t.lexeme⟩,members := []}

def inverted (c : ClassDraft) : Bool := c.opening.lexeme == ['[','^']

end ClassDraft

def Enclosure.close (span : Span) (child : Node) : Enclosure → Node
  | group kind => .group span kind child
  | absent => .absent span child
  | conditional condition => .conditional span condition child

def Focus.depth : Focus → Nat
  | expression => 0
  | condition _ _ => 1
  | brackets _ outer => outer.length + 1

namespace Builder

def new (start : Position) : Builder := ⟨start,.new start,[],.expression⟩

def depth (b : Builder) : Nat := b.frames.length + b.focus.depth

def enter (limit : Nat) (b : Builder) (t : Token) : Except Fault Unit :=
  if limit < b.depth + 1 then .error ⟨t.pos,.tooDeep limit⟩ else .ok ()

def push (b : Builder) (n : Node) : Builder := {b with draft := b.draft.push n}

def openFrame (b : Builder) (t : Token) (enclosure : Enclosure) (next : Position) : Builder :=
  {b with frames := ⟨t,enclosure,b.draft⟩ :: b.frames,draft := .new next,focus := .expression}

-- A quantifier takes the item before it, together with the quantifiers already on it.
def quantify (b : Builder) (t : Token) : Except Fault Builder :=
  match b.draft.items with
  | [] => .error ⟨t.pos,.nothingToRepeat t.lexeme⟩
  | item :: items =>
    let (amount,modifier) := readAmount t.lexeme
    let node := .quantification ⟨item.span.start,t.stop⟩ amount (readGreed modifier) item
    .ok {b with draft := {b.draft with items := node :: items}}

def closeFrame (b : Builder) (t : Token) : Except Fault Builder :=
  match b.frames with
  | [] => .error ⟨t.pos,.unmatchedClose⟩
  | frame :: frames =>
    let child := b.draft.finish b.stop
    let node := frame.enclosure.close ⟨frame.opening.pos,t.stop⟩ child
    .ok {b with frames := frames,draft := frame.outer.push node}

def openBrackets (b : Builder) (t : Token) (outer : List ClassDraft) : Builder :=
  {b with focus := .brackets (.new t) outer}

def closeBrackets (b : Builder) (t : Token) (c : ClassDraft) (outer : List ClassDraft) : Builder :=
  let span : Span := ⟨c.opening.pos,t.stop⟩
  let members := c.operand b.stop
  match outer with
  | [] => {b.push (.customClass span c.inverted members) with focus := .expression}
  | around :: outer =>
    {b with focus := .brackets (around.push (.customClass span c.inverted members)) outer}

def item (t : Token) : Except Fault Node :=
  let atom (kind : AtomKind) : Except Fault Node := .ok (.atom (atomOf t kind))
  match t.kind with
  | .quote => .ok (.quote t.span (quotedText t.lexeme))
  | .comment => .ok (.trivia t.span t.text)
  | .interpolation => .ok (.interpolation t.span (String.ofList (inner 2 2 t.lexeme)))
  | .dot => atom .dot
  | .caret => atom .startOfLine
  | .dollar => atom .endOfLine
  | .callout => atom .callout
  | .verb => atom .backtrackingDirective
  | .recurse => atom (.subpattern (String.ofList (inner 2 1 t.lexeme)))
  | _ =>
    match readAtom t with
    | .ok a => .ok (.atom a)
    | .error cause => .error ⟨t.pos,cause⟩

def stepExpression (limit : Nat) (b : Builder) (t : Token) (next : Position) : Except Fault Builder :=
  match t.kind with
  | .groupOpen => do
    b.enter limit t
    return b.openFrame t (.group (readGroupKind t.lexeme)) next
  | .optionsOpen =>
    let flags := String.ofList (inner 2 1 t.lexeme)
    if t.lexeme.getLast? = some ')' then
      .ok (b.push (.atom (atomOf t (.changeMatchingOptions flags))))
    else do
      b.enter limit t
      return b.openFrame t (.group (.options flags)) next
  | .condOpen => do
    b.enter limit t
    return {b with focus := .condition t []}
  | .absentOpen => do
    b.enter limit t
    return b.openFrame t .absent next
  | .classOpen => do
    b.enter limit t
    return b.openBrackets t []
  | .groupClose => b.closeFrame t
  | .alt => .ok {b with draft := b.draft.split b.stop next}
  | .quant | .count => b.quantify t
  | _ => (item t).map b.push

-- The two tokens after an atom that make it the low end of a range: a dash, and anything but the end
-- of the operand.
def rangeFollows : List Token → Bool
  | dash :: hi :: _ => dash.kind == .dash && hi.kind != .classClose && hi.kind != .setOp
  | _ => false

def stepBrackets (limit : Nat) (b : Builder) (c : ClassDraft) (outer : List ClassDraft) (t : Token)
    (rest : List Token) : Except Fault Builder :=
  let put (c : ClassDraft) : Except Fault Builder := .ok {b with focus := .brackets c outer}
  match c.range with
  | .low lo => put {c with range := .dashed lo}
  | .dashed lo =>
    match readAtom t with
    | .ok hi => put (c.push (.range ⟨lo.span.start,t.stop⟩ lo hi))
    | .error _ => .error ⟨t.pos,.invalidRangeEnd t.lexeme⟩
  | .idle =>
    match t.kind with
    | .classOpen => do
      b.enter limit t
      return b.openBrackets t (c :: outer)
    | .classClose => .ok (b.closeBrackets t c outer)
    | .setOp => put (c.operate b.stop t)
    | .quote => put (c.push (.quote t.span (quotedText t.lexeme)))
    | .dash => put (c.push (.atom (atomOf t (.char (.ofChar '-')))))
    | _ =>
      match readAtom t with
      | .error cause => .error ⟨t.pos,cause⟩
      | .ok a => if rangeFollows rest then put {c with range := .low a} else put (c.push (.atom a))

def stepCondition (b : Builder) (opening : Token) (text : List Char) (t : Token) (next : Position) :
    Builder :=
  if t.kind = .groupClose then b.openFrame opening (.conditional (String.ofList text)) next
  else {b with focus := .condition opening (text ++ t.lexeme)}

def step (limit : Nat) (b : Builder) (t : Token) (rest : List Token) (eof : Position) :
    Except Fault Builder :=
  let next := match rest with
    | [] => eof
    | t :: _ => t.pos
  let after := match b.focus with
    | .expression => b.stepExpression limit t next
    | .condition opening text => .ok (b.stepCondition opening text t next)
    | .brackets c outer => b.stepBrackets limit c outer t rest
  after.map fun b => {b with stop := t.stop}

def finish (b : Builder) : Except Fault Node :=
  match b.focus with
  | .condition opening _ => .error ⟨opening.pos,.unterminatedCondition⟩
  | .brackets c _ => .error ⟨c.opening.pos,.missingBracket c.opening.lexeme⟩
  | .expression =>
    match b.frames with
    | frame :: _ => .error ⟨frame.opening.pos,.missingParenthesis frame.opening.lexeme⟩
    | [] => .ok (b.draft.finish b.stop)

def run (limit : Nat) (b : Builder) (eof : Position) : List Token → Except Fault Node
  | [] => b.finish
  | t :: rest =>
    match b.step limit t rest eof with
    | .error fault => .error fault
    | .ok b => run limit b eof rest

end Builder

end LexPattern.Surface
