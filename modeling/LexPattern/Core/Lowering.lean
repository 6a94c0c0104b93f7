import LexPattern.Core.Expr
import LexPattern.Core.Rejection
import LexPattern.Limit

namespace LexPattern.Core

open Surface (Node Member Atom AtomKind GroupKind Amount Count SetOp)
open Text (Span)

def defaultDepth : Nat := 1000

structure Context where
  limit : Nat
  names : String → Option String

def reject (span : Span) (reason : Reason) : Except Rejection α := .error ⟨span,reason⟩

def Context.enter (ctx : Context) (depth : Nat) (span : Span) : Except Rejection Unit :=
  if ctx.limit < depth + 1 then reject span (.tooDeep ctx.limit) else .ok ()

def amountBounds : Amount → Option (Int × Int)
  | .zeroOrMore => some (0,unbounded)
  | .oneOrMore => some (1,unbounded)
  | .zeroOrOne => some (0,1)
  | .exactly n => n.map fun n => (n,n)
  | .atLeast n => n.map fun n => (n,unbounded)
  | .atMost n => n.map fun n => (0,n)
  | .between n m => n.bind fun n => m.map fun m => (n,m)

def lowerAmount (span : Span) (amount : Amount) : Except Rejection (Int × Option Int) :=
  match amountBounds amount with
  | none => reject span .badCount
  | some (least,most) =>
    if least < 0 ∨ (most ≠ unbounded ∧ most < least) then reject span (.badBounds least most)
    else .ok (least,upperBound most)

def controlCode (c : CodePoint) : CodePoint := if c = .ofChar '?' then 0x7F else c % 0x20

def metaCode (c : CodePoint) : CodePoint := if c / 0x80 % 2 = 1 then c else c + 0x80

def requireScalar (span : Span) (c : CodePoint) : Except Rejection CodePoint :=
  if c.isScalar then .ok c else reject span (.notScalar c)

def nameCode (ctx : Context) (span : Span) (name : String) : Except Rejection CodePoint :=
  match ctx.names name with
  | none => reject span (.unknownName name)
  | some text =>
    match text.toList with
    | [c] => .ok (.ofChar c)
    | cs => reject span (.longName name cs.length)

def atomCode (ctx : Context) (a : Atom) : Except Rejection CodePoint :=
  match a.kind with
  | .char c | .escaped c | .scalar c => requireScalar a.span c
  | .keyboardControl c =>
    if 0x80 ≤ c then reject a.span (.controlKey c) else .ok (controlCode c)
  | .keyboardMeta c =>
    if 0x80 ≤ c then reject a.span (.metaKey c) else .ok (metaCode c)
  | .keyboardMetaControl c =>
    if 0x80 ≤ c then reject a.span (.controlKey c) else .ok (controlCode c + 0x80)
  | .namedCharacter name => nameCode ctx a.span name
  | _ => reject a.span (.notOneCharacter a.text)

def atomReason? (a : Atom) : Option Reason :=
  match a.kind with
  | .scalarSequence _ => some .scalarSequence
  | .property name => some (.property name)
  | .builtinClass => some (.builtinClass a.text)
  | .startOfLine | .endOfLine => some (.anchor a.text)
  | .assertion => some (.assertion a.text)
  | .backreference _ => some .backreference
  | .subpattern _ => some .subpattern
  | .callout => some .callout
  | .backtrackingDirective => some (.backtracking a.text)
  | .changeMatchingOptions _ => some .matchingOptions
  | .invalid => some (.invalidAtom a.text)
  | _ => none

def lowerAtom (ctx : Context) (a : Atom) : Except Rejection Expr :=
  if a.kind = .dot then .ok (.charClass .any)
  else match atomReason? a with
    | some reason => reject a.span reason
    | none => do
      let c ← atomCode ctx a
      return .literal [c]

def lowerRange (ctx : Context) (span : Span) (lo hi : Atom) : Except Rejection CharClass := do
  let first ← atomCode ctx lo
  let last ← atomCode ctx hi
  if last < first then reject span (.rangeOrder lo.text hi.text)
  else return .ofRanges [⟨first,last⟩]

def quoteClass (text : String) : CharClass :=
  text.toList.foldl (fun c x => c.insert (.ofChar x)) .empty

def combine : SetOp → CharClass → CharClass → CharClass
  | .subtraction,c,d => c.diff d
  | .intersection,c,d => c.inter d
  | .symmetricDifference,c,d => c.symmDiff d

mutual

def lowerMember (ctx : Context) (depth : Nat) : Member → Except Rejection CharClass
  | .customClass span inverted members => do
    ctx.enter depth span
    let c ← lowerMembers ctx (depth + 1) members
    return if inverted then c.complement else c
  | .range span lo hi => lowerRange ctx span lo hi
  | .atom a => do
    let c ← atomCode ctx a
    return .single c
  | .quote _ literal => .ok (quoteClass literal)
  | .trivia _ _ => .ok .empty
  | .setOperation span lhs op rhs => do
    ctx.enter depth span
    let c ← lowerMembers ctx (depth + 1) lhs
    let d ← lowerMembers ctx (depth + 1) rhs
    return combine op c d

def lowerMembers (ctx : Context) (depth : Nat) : List Member → Except Rejection CharClass
  | [] => .ok .empty
  | m :: ms => do
    let c ← lowerMember ctx depth m
    joinMembers ctx depth c ms

def joinMembers (ctx : Context) (depth : Nat) (c : CharClass) :
    List Member → Except Rejection CharClass
  | [] => .ok c
  | m :: ms => do
    let d ← lowerMember ctx depth m
    joinMembers ctx depth (c.union d) ms

end

def groupReason? : GroupKind → Option Reason
  | .capture | .named _ | .nonCapture => none
  | .options flags => some (.optionsGroup flags)
  | kind => some (.groupKind kind)

mutual

def lowerNode (ctx : Context) (depth : Nat) : Node → Except Rejection Expr
  | .alternation _ branches => do
    let es ← lowerNodes ctx depth branches
    return .alternation es
  | .concatenation _ items => do
    let es ← lowerNodes ctx depth items
    return .concat es
  | .group span kind child => do
    ctx.enter depth span
    match groupReason? kind with
    | some reason => reject span reason
    | none =>
      let e ← lowerNode ctx (depth + 1) child
      return .group e
  | .quantification span amount greed child => do
    ctx.enter depth span
    if greed = .possessive then reject span .possessive
    else
      let (least,most) ← lowerAmount span amount
      let e ← lowerNode ctx (depth + 1) child
      return .repetition least most (greed == .eager) e
  | .quote _ literal =>
    if literal.isEmpty then .ok .empty else .ok (.literal (literal.toList.map .ofChar))
  | .trivia _ _ | .empty _ => .ok .empty
  | .atom a => lowerAtom ctx a
  | .customClass span inverted members => do
    let c ← lowerMember ctx depth (.customClass span inverted members)
    return .charClass c
  | .conditional span _ _ => reject span .conditional
  | .absent span _ => reject span .absent
  | .interpolation span _ => reject span .interpolation

def lowerNodes (ctx : Context) (depth : Nat) : List Node → Except Rejection (List Expr)
  | [] => .ok []
  | n :: ns => do
    let e ← lowerNode ctx depth n
    let es ← lowerNodes ctx depth ns
    return e :: es

end

def lower (limit : Int) (names : String → Option String) (n : Node) : Except Rejection Expr :=
  lowerNode ⟨inForce defaultDepth limit,names⟩ 0 n

end LexPattern.Core
