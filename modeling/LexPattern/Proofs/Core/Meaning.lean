import Mathlib
import LexPattern.Core.Lowering
import LexPattern.Proofs.Core.Language

namespace LexPattern.Surface

open LexPattern.Core (oneOf repeated)

def controlKey (c : CodePoint) : CodePoint := if c = .ofChar '?' then 0x7F else Int.ofNat (c.toNat &&& 0x1F)

def metaKey (c : CodePoint) : CodePoint := Int.ofNat (c.toNat ||| 0x80)

def AtomKind.Denotes (names : String → Option String) (x : CodePoint) : AtomKind → Prop
  | char c => x = c
  | escaped c => x = c
  | scalar c => x = c
  | keyboardControl c => x = controlKey c
  | keyboardMeta c => x = metaKey c
  | keyboardMetaControl c => x = metaKey (controlKey c)
  | namedCharacter name => ∃ c : Char, names name = some (String.singleton c) ∧ x = .ofChar c
  | dot => x.isScalar = true
  | _ => False

def Amount.Allows (k : Nat) : Amount → Prop
  | zeroOrMore => True
  | oneOrMore => 1 ≤ k
  | zeroOrOne => k ≤ 1
  | exactly n => ∃ count, n = some count ∧ (k : Int) = count
  | atLeast n => ∃ count, n = some count ∧ count ≤ k
  | atMost n => ∃ count, n = some count ∧ (k : Int) ≤ count
  | between n m => ∃ lower upper, n = some lower ∧ m = some upper ∧ lower ≤ k ∧ (k : Int) ≤ upper

mutual

-- The pointwise meaning of a member of a class. Only a class of its own is complemented.
def Member.Holds (names : String → Option String) (x : CodePoint) : Member → Prop
  | .customClass _ inverted members => if inverted then ¬ AnyHolds names x members else AnyHolds names x members
  | .range _ lo hi => ∃ first last, lo.kind.Denotes names first ∧ hi.kind.Denotes names last ∧ first ≤ x ∧ x ≤ last
  | .atom a => a.kind.Denotes names x
  | .quote _ literal => ∃ c ∈ literal.toList, x = .ofChar c
  | .trivia _ _ => False
  | .setOperation _ lhs .subtraction rhs => AnyHolds names x lhs ∧ ¬ AnyHolds names x rhs
  | .setOperation _ lhs .intersection rhs => AnyHolds names x lhs ∧ AnyHolds names x rhs
  | .setOperation _ lhs .symmetricDifference rhs => ¬ (AnyHolds names x lhs ↔ AnyHolds names x rhs)

def AnyHolds (names : String → Option String) (x : CodePoint) : List Member → Prop
  | [] => False
  | m :: ms => m.Holds names x ∨ AnyHolds names x ms

end

mutual

-- The texts that a tree matches. Constructs beyond regular expressions match nothing.
def Node.language (names : String → Option String) : Node → Language CodePoint
  | .alternation _ branches => unionLanguage names branches
  | .concatenation _ items => productLanguage names items
  | .group _ .capture child => child.language names
  | .group _ (.named _) child => child.language names
  | .group _ .nonCapture child => child.language names
  | .group _ _ _ => 0
  | .quantification _ amount _ child => repeated (fun k => amount.Allows k) (child.language names)
  | .quote _ literal => {literal.toList.map CodePoint.ofChar}
  | .trivia _ _ => 1
  | .empty _ => 1
  | .atom a => oneOf fun x => a.kind.Denotes names x
  | .customClass span inverted members =>
    oneOf fun x => x.isScalar = true ∧ (Member.customClass span inverted members).Holds names x
  | .conditional _ _ _ => 0
  | .absent _ _ => 0
  | .interpolation _ _ => 0

def productLanguage (names : String → Option String) : List Node → Language CodePoint
  | [] => 1
  | n :: ns => n.language names * productLanguage names ns

def unionLanguage (names : String → Option String) : List Node → Language CodePoint
  | [] => 0
  | n :: ns => n.language names + unionLanguage names ns

end

def AtomKind.Natural : AtomKind → Prop
  | keyboardControl c => 0 ≤ c
  | keyboardMeta c => 0 ≤ c
  | keyboardMetaControl c => 0 ≤ c
  | _ => True

def Amount.Natural : Amount → Prop
  | exactly n => ∀ count ∈ n, 0 ≤ count
  | atLeast n => ∀ count ∈ n, 0 ≤ count
  | atMost n => ∀ count ∈ n, 0 ≤ count
  | between n m => (∀ count ∈ n, 0 ≤ count) ∧ ∀ count ∈ m, 0 ≤ count
  | _ => True

mutual

def Member.Natural : Member → Prop
  | .customClass _ _ members => AllNatural members
  | .range _ lo hi => lo.kind.Natural ∧ hi.kind.Natural
  | .atom a => a.kind.Natural
  | .quote _ _ => True
  | .trivia _ _ => True
  | .setOperation _ lhs _ rhs => AllNatural lhs ∧ AllNatural rhs

def AllNatural : List Member → Prop
  | [] => True
  | m :: ms => m.Natural ∧ AllNatural ms

end

mutual

def Node.Natural : Node → Prop
  | .alternation _ branches => NodesNatural branches
  | .concatenation _ items => NodesNatural items
  | .group _ _ child => child.Natural
  | .quantification _ amount _ child => amount.Natural ∧ child.Natural
  | .atom a => a.kind.Natural
  | .customClass _ _ members => AllNatural members
  | .conditional _ _ branches => branches.Natural
  | .absent _ child => child.Natural
  | .quote _ _ => True
  | .trivia _ _ => True
  | .empty _ => True
  | .interpolation _ _ => True

def NodesNatural : List Node → Prop
  | [] => True
  | n :: ns => n.Natural ∧ NodesNatural ns

end

end LexPattern.Surface

namespace LexPattern.Core

open Surface (Node Member Atom AtomKind GroupKind Amount SetOp)
open Text (Span)

variable {ctx : Context} {depth : Nat}

theorem bind_eq_ok {ε α β : Type} {first : Except ε α} {next : α → Except ε β} {b : β} :
    (first >>= next) = .ok b ↔ ∃ a, first = .ok a ∧ next a = .ok b := by
  cases first with
  | error e => simp [bind,Except.bind]
  | ok a => simp [bind,Except.bind]

theorem reject_ne_ok {α : Type} {span : Span} {reason : Reason} {a : α} : reject span reason ≠ .ok a := by
  simp [reject]

theorem controlCode_eq {c : Int} (lower : 0 ≤ c) : controlCode c = Surface.controlKey c := by
  unfold controlCode Surface.controlKey
  split
  · rfl
  · have mask : c.toNat &&& 0x1F = c.toNat % 0x20 := Nat.and_two_pow_sub_one_eq_mod c.toNat 5
    rw [mask]
    change c % 0x20 = ((c.toNat % 0x20 : Nat) : Int)
    omega

theorem or_eighth_bit : ∀ n < 0x80, n ||| 0x80 = n + 0x80 := by decide

theorem metaKey_eq_add {c : Int} (lower : 0 ≤ c) (upper : c < 0x80) : Surface.metaKey c = c + 0x80 := by
  rw [Surface.metaKey,or_eighth_bit c.toNat (by omega)]
  change ((c.toNat + 0x80 : Nat) : Int) = c + 0x80
  omega

theorem metaCode_eq {c : Int} (lower : 0 ≤ c) (upper : c < 0x80) : metaCode c = Surface.metaKey c := by
  have unset : ¬ c / 0x80 % 2 = 1 := by omega
  rw [metaCode,if_neg unset,metaKey_eq_add lower upper]

theorem isScalar_of_small {c : Int} (lower : 0 ≤ c) (upper : c < 0x100) : CodePoint.isScalar c = true :=
  CodePoint.isScalar_iff.mpr (by omega)

theorem metaKey_isScalar {c : Int} (lower : 0 ≤ c) (upper : c < 0x80) : (Surface.metaKey c).isScalar = true := by
  rw [metaKey_eq_add lower upper]
  exact isScalar_of_small (by omega) (by omega)

theorem controlKey_bounds {c : Int} : 0 ≤ Surface.controlKey c ∧ Surface.controlKey c < 0x80 := by
  unfold Surface.controlKey
  split
  · decide
  · have small : c.toNat &&& 0x1F ≤ 0x1F := Nat.and_le_right
    change 0 ≤ ((c.toNat &&& 0x1F : Nat) : Int) ∧ ((c.toNat &&& 0x1F : Nat) : Int) < 0x80
    omega

theorem isScalar_ofChar (c : Char) : (CodePoint.ofChar c).isScalar = true := by
  have valid : c.toNat < 0xD800 ∨ 0xDFFF < c.toNat ∧ c.toNat < 0x110000 := c.valid
  have converted : CodePoint.ofChar c = (c.toNat : Int) := rfl
  rw [converted,CodePoint.isScalar_iff]
  omega

theorem nameCode_denotes {span : Span} {name : String} {c : CodePoint} (coded : nameCode ctx span name = .ok c) :
    ∃ ch : Char, ctx.names name = some (String.singleton ch) ∧ c = .ofChar ch := by
  unfold nameCode at coded
  split at coded
  · exact absurd coded reject_ne_ok
  · rename_i text found
    split at coded
    · rename_i ch single
      cases coded
      have spelled : text = String.singleton ch := String.toList_injective (by simpa using single)
      exact ⟨ch,by rw [found,spelled],rfl⟩
    · exact absurd coded reject_ne_ok

theorem atomCode_denotes {a : Atom} {c : CodePoint} (natural : a.kind.Natural) (coded : atomCode ctx a = .ok c) :
    c.isScalar = true ∧ ∀ x, a.kind.Denotes ctx.names x ↔ x = c := by
  unfold atomCode at coded
  split at coded
  case h_1 c' kind | h_2 c' kind | h_3 c' kind =>
    unfold requireScalar at coded
    split at coded
    · rename_i scalar
      cases coded
      exact ⟨scalar,fun x => by rw [kind]; exact Iff.rfl⟩
    · exact absurd coded reject_ne_ok
  case h_4 c' kind =>
    rw [kind] at natural
    split at coded
    · exact absurd coded reject_ne_ok
    · cases coded
      rw [controlCode_eq natural,kind]
      have bounds := @controlKey_bounds c'
      exact ⟨isScalar_of_small bounds.1 (Int.lt_trans bounds.2 (by decide)),fun x => Iff.rfl⟩
  case h_5 c' kind =>
    rw [kind] at natural
    split at coded
    · exact absurd coded reject_ne_ok
    · rename_i small
      cases coded
      have upper : c' < 0x80 := Int.not_le.mp small
      have scalar := @metaKey_isScalar c' natural upper
      rw [metaCode_eq natural upper,kind]
      exact ⟨scalar,fun x => Iff.rfl⟩
  case h_6 c' kind =>
    rw [kind] at natural
    split at coded
    · exact absurd coded reject_ne_ok
    · cases coded
      have bounds := @controlKey_bounds c'
      rw [controlCode_eq natural,← metaKey_eq_add bounds.1 bounds.2,kind]
      exact ⟨metaKey_isScalar bounds.1 bounds.2,fun x => Iff.rfl⟩
  case h_7 name kind =>
    obtain ⟨ch,found,rfl⟩ := nameCode_denotes coded
    rw [kind]
    refine ⟨isScalar_ofChar ch,fun x => ⟨?_,fun same => ⟨ch,found,same⟩⟩⟩
    rintro ⟨ch',found',rfl⟩
    rw [found] at found'
    have same : ch = ch' := by simpa using found'
    rw [same]
  case h_8 => exact absurd coded reject_ne_ok

theorem upperBound_of_natural {n : Int} (natural : 0 ≤ n) : upperBound n = some n := by
  have different : ¬ n = unbounded := by
    unfold unbounded
    omega
  rw [upperBound,if_neg different]

theorem mem_upperBound {most m : Int} : m ∈ upperBound most ↔ most ≠ unbounded ∧ m = most := by
  unfold upperBound
  split
  · rename_i unlimited
    simp [unlimited]
  · rename_i limited
    simp [limited,eq_comm]

theorem lowerAmount_eq_ok {span : Span} {amount : Amount} {least : Int} {most : Option Int}
    (lowered : lowerAmount span amount = .ok (least,most)) : ∃ upper, amountBounds amount = some (least,upper) ∧
      most = upperBound upper ∧ 0 ≤ least ∧ (upper ≠ unbounded → least ≤ upper) := by
  unfold lowerAmount at lowered
  split at lowered
  · exact absurd lowered reject_ne_ok
  rename_i lower upper bounds
  split at lowered
  · exact absurd lowered reject_ne_ok
  · rename_i ordered
    cases lowered
    rw [not_or,not_and,not_lt,not_lt] at ordered
    exact ⟨upper,bounds,rfl,ordered⟩

theorem lowerAmount_within {span : Span} {amount : Amount} {least : Int} {most : Option Int} (natural : amount.Natural)
    (lowered : lowerAmount span amount = .ok (least,most)) (k : Nat) : Within least most k ↔ amount.Allows k := by
  obtain ⟨upper,bounds,rfl,_⟩ := lowerAmount_eq_ok lowered
  unfold Within
  cases amount with
  | zeroOrMore =>
    cases bounds
    simp [Amount.Allows,upperBound]
  | oneOrMore =>
    cases bounds
    simp only [Amount.Allows,upperBound,if_true,Option.not_mem_none,false_imp_iff,implies_true,and_true]
    omega
  | zeroOrOne =>
    cases bounds
    have one : upperBound 1 = some 1 := rfl
    simp only [Amount.Allows,one,Option.mem_some_iff,forall_eq']
    omega
  | exactly n =>
    obtain ⟨count,rfl,same⟩ := Option.map_eq_some_iff.mp bounds
    obtain ⟨rfl,rfl⟩ := Prod.mk.inj same
    simp only [Amount.Allows,upperBound_of_natural (natural count rfl),Option.mem_some_iff,forall_eq',Option.some.injEq,
      exists_eq_left']
    omega
  | atLeast n =>
    obtain ⟨count,rfl,same⟩ := Option.map_eq_some_iff.mp bounds
    obtain ⟨rfl,rfl⟩ := Prod.mk.inj same
    simp [Amount.Allows,upperBound]
  | atMost n =>
    obtain ⟨count,rfl,same⟩ := Option.map_eq_some_iff.mp bounds
    obtain ⟨rfl,rfl⟩ := Prod.mk.inj same
    simp [Amount.Allows,upperBound_of_natural (natural count rfl)]
  | between n m =>
    obtain ⟨lower,rfl,rest⟩ := Option.bind_eq_some_iff.mp bounds
    obtain ⟨upper,rfl,same⟩ := Option.map_eq_some_iff.mp rest
    obtain ⟨rfl,rfl⟩ := Prod.mk.inj same
    simp [Amount.Allows,upperBound_of_natural (natural.2 upper rfl)]

theorem quoteClass_denotes (literal : String) :
    (quoteClass literal).Denotes fun x => ∃ c ∈ literal.toList, x = .ofChar c := by
  have grown : ∀ (cs : List Char) (c : CharClass) (p : CodePoint → Prop), c.Denotes p →
      (cs.foldl (fun c x => c.insert (.ofChar x)) c).Denotes fun x => p x ∨ ∃ ch ∈ cs, x = .ofChar ch := by
    intro cs
    induction cs with
    | nil => exact fun c p denotes => denotes.congr fun x _ => by simp
    | cons ch cs ih =>
      intro c p denotes
      refine (ih _ _ (denotes.insert (isScalar_ofChar ch))).congr fun x _ => ?_
      simp [or_assoc]
  exact (grown literal.toList .empty _ .empty).congr fun x _ => by simp

theorem lowerRange_denotes {span : Span} {lo hi : Atom} {c : CharClass} (naturalLo : lo.kind.Natural)
    (naturalHi : hi.kind.Natural) (lowered : lowerRange ctx span lo hi = .ok c) :
    c.Denotes fun x => (Member.range span lo hi).Holds ctx.names x := by
  obtain ⟨first,codedLo,rest⟩ := bind_eq_ok.mp lowered
  obtain ⟨last,codedHi,rest⟩ := bind_eq_ok.mp rest
  obtain ⟨scalarLo,denotesLo⟩ := atomCode_denotes naturalLo codedLo
  obtain ⟨scalarHi,denotesHi⟩ := atomCode_denotes naturalHi codedHi
  split at rest
  · exact absurd rest reject_ne_ok
  · rename_i order
    cases rest
    refine (CharClass.Denotes.range (Int.not_lt.mp order) scalarLo scalarHi).congr fun x _ => ?_
    simp [Member.Holds,denotesLo,denotesHi]

theorem combine_denotes {span : Span} {lhs rhs : List Member} {op : SetOp} {c d : CharClass}
    (left : c.Denotes fun x => Surface.AnyHolds ctx.names x lhs)
    (right : d.Denotes fun x => Surface.AnyHolds ctx.names x rhs) :
    (combine op c d).Denotes fun x => (Member.setOperation span lhs op rhs).Holds ctx.names x := by
  cases op with
  | subtraction => exact (left.diff right).congr fun x _ => by rw [Member.Holds]
  | intersection => exact (left.inter right).congr fun x _ => by rw [Member.Holds]
  | symmetricDifference =>
    refine (left.symmDiff right).congr fun x _ => ?_
    rw [Member.Holds]
    tauto

mutual

-- The induction follows the members; a list of them carries the class already joined.
theorem lowerMember_denotes (depth : Nat) (c : CharClass) : (m : Member) → m.Natural →
    lowerMember ctx depth m = .ok c → c.Denotes fun x => m.Holds ctx.names x
  | .customClass span inverted members,natural,lowered => by
    rw [lowerMember] at lowered
    obtain ⟨_,_,lowered⟩ := bind_eq_ok.mp lowered
    obtain ⟨inner,lowered,result⟩ := bind_eq_ok.mp lowered
    rw [Member.Natural] at natural
    have denotes := lowerMembers_denotes (depth + 1) inner members natural lowered
    cases inverted with
    | false =>
      cases result
      exact denotes.congr fun x _ => by simp [Member.Holds]
    | true =>
      cases result
      exact denotes.complement.congr fun x _ => by simp [Member.Holds]
  | .range span lo hi,natural,lowered => by
    rw [Member.Natural] at natural
    rw [lowerMember] at lowered
    exact lowerRange_denotes natural.1 natural.2 lowered
  | .atom a,natural,lowered => by
    rw [Member.Natural] at natural
    rw [lowerMember] at lowered
    obtain ⟨code,coded,result⟩ := bind_eq_ok.mp lowered
    obtain ⟨scalar,denotes⟩ := atomCode_denotes natural coded
    cases result
    exact (CharClass.Denotes.single scalar).congr fun x _ => by rw [Member.Holds,denotes]
  | .quote span literal,_,lowered => by
    rw [lowerMember] at lowered
    cases lowered
    exact (quoteClass_denotes literal).congr fun x _ => by rw [Member.Holds]
  | .trivia span text,_,lowered => by
    rw [lowerMember] at lowered
    cases lowered
    exact CharClass.Denotes.empty.congr fun x _ => by rw [Member.Holds]
  | .setOperation span lhs op rhs,natural,lowered => by
    rw [lowerMember] at lowered
    obtain ⟨_,_,lowered⟩ := bind_eq_ok.mp lowered
    obtain ⟨left,loweredL,lowered⟩ := bind_eq_ok.mp lowered
    obtain ⟨right,loweredR,result⟩ := bind_eq_ok.mp lowered
    rw [Member.Natural] at natural
    cases result
    exact combine_denotes (lowerMembers_denotes (depth + 1) left lhs natural.1 loweredL)
      (lowerMembers_denotes (depth + 1) right rhs natural.2 loweredR)

theorem lowerMembers_denotes (depth : Nat) (c : CharClass) : (ms : List Member) → Surface.AllNatural ms →
    lowerMembers ctx depth ms = .ok c → c.Denotes fun x => Surface.AnyHolds ctx.names x ms
  | [],_,lowered => by
    rw [lowerMembers] at lowered
    cases lowered
    exact CharClass.Denotes.empty.congr fun x _ => by rw [Surface.AnyHolds]
  | m :: ms,natural,lowered => by
    rw [lowerMembers] at lowered
    obtain ⟨first,loweredM,lowered⟩ := bind_eq_ok.mp lowered
    rw [Surface.AllNatural] at natural
    have denotes := lowerMember_denotes depth first m natural.1 loweredM
    refine (joinMembers_denotes depth first c _ denotes ms natural.2 lowered).congr fun x _ => ?_
    rw [Surface.AnyHolds]

theorem joinMembers_denotes (depth : Nat) (c d : CharClass) (p : CodePoint → Prop) (sofar : c.Denotes p) :
    (ms : List Member) → Surface.AllNatural ms → joinMembers ctx depth c ms = .ok d →
      d.Denotes fun x => p x ∨ Surface.AnyHolds ctx.names x ms
  | [],_,lowered => by
    rw [joinMembers] at lowered
    cases lowered
    exact sofar.congr fun x _ => by simp [Surface.AnyHolds]
  | m :: ms,natural,lowered => by
    rw [joinMembers] at lowered
    obtain ⟨next,loweredM,lowered⟩ := bind_eq_ok.mp lowered
    rw [Surface.AllNatural] at natural
    have denotes := lowerMember_denotes depth next m natural.1 loweredM
    have joined := joinMembers_denotes depth (c.union next) d _ (sofar.union denotes) ms natural.2 lowered
    exact joined.congr fun x _ => by simp [Surface.AnyHolds,or_assoc]

end

theorem lowerAtom_language {a : Atom} {e : Expr} (natural : a.kind.Natural) (lowered : lowerAtom ctx a = .ok e) :
    e.language = oneOf fun x => a.kind.Denotes ctx.names x := by
  unfold lowerAtom at lowered
  split at lowered
  · rename_i dot
    cases lowered
    rw [Expr.language,dot]
    exact oneOf_congr fun x => by simp [CharClass.Denotes.any.contains_iff,AtomKind.Denotes]
  · split at lowered
    · exact absurd lowered reject_ne_ok
    · obtain ⟨c,coded,result⟩ := bind_eq_ok.mp lowered
      obtain ⟨_,denotes⟩ := atomCode_denotes natural coded
      cases result
      ext w
      simp only [Expr.language,mem_oneOf,denotes,exists_eq_left]
      exact Iff.rfl

theorem customClass_language {span : Span} {inverted : Bool} {members : List Member} {c : CharClass}
    (natural : Surface.AllNatural members)
    (lowered : lowerMember ctx depth (.customClass span inverted members) = .ok c) :
    (Expr.charClass c).language = (Node.customClass span inverted members).language ctx.names := by
  have denotes := lowerMember_denotes depth c (.customClass span inverted members) (by rwa [Member.Natural]) lowered
  rw [Expr.language,Node.language]
  exact oneOf_congr fun x => denotes.contains_iff

theorem group_language {span : Span} {kind : GroupKind} {child : Node} (accepted : groupReason? kind = none) :
    (Node.group span kind child).language ctx.names = child.language ctx.names := by
  cases kind with
  | capture => rw [Node.language]
  | named name => rw [Node.language]
  | nonCapture => rw [Node.language]
  | _ => simp [groupReason?] at accepted

-- A relation of trees and expressions that each construct passes on from its parts to the whole. It is told of the
-- constructs that can be lowered, together with what was checked on the way.
structure Passes (ctx : Context) (R : Nat → Node → Expr → Prop) : Prop where
  alternation : ∀ {depth span branches es}, List.Forall₂ (R depth) branches es →
    R depth (.alternation span branches) (.alternation es)
  concatenation : ∀ {depth span items es}, List.Forall₂ (R depth) items es → R depth (.concatenation span items) (.concat es)
  group : ∀ {depth span kind child e}, groupReason? kind = none → R (depth + 1) child e →
    R depth (.group span kind child) (.group e)
  quantification : ∀ {depth span amount greed child least most e}, lowerAmount span amount = .ok (least,most) →
    R (depth + 1) child e → R depth (.quantification span amount greed child) (.repetition least most (greed == .eager) e)
  nothing : ∀ {depth span literal}, literal.isEmpty = true → R depth (.quote span literal) .empty
  quote : ∀ {depth span literal}, literal.isEmpty = false →
    R depth (.quote span literal) (.literal (literal.toList.map .ofChar))
  trivia : ∀ {depth span text}, R depth (.trivia span text) .empty
  empty : ∀ {depth span}, R depth (.empty span) .empty
  atom : ∀ {depth a e}, lowerAtom ctx a = .ok e → R depth (.atom a) e
  customClass : ∀ {depth span inverted members c}, lowerMember ctx depth (.customClass span inverted members) = .ok c →
    R depth (.customClass span inverted members) (.charClass c)

section Passes

variable {R : Nat → Node → Expr → Prop}

mutual

theorem Passes.lowerNode (passes : Passes ctx R) : (n : Node) → (depth : Nat) → (e : Expr) →
    lowerNode ctx depth n = .ok e → R depth n e
  | .alternation span branches,depth,e,lowered => by
    rw [Core.lowerNode] at lowered
    obtain ⟨es,children,result⟩ := bind_eq_ok.mp lowered
    cases result
    exact passes.alternation (passes.lowerNodes branches depth es children)
  | .concatenation span items,depth,e,lowered => by
    rw [Core.lowerNode] at lowered
    obtain ⟨es,children,result⟩ := bind_eq_ok.mp lowered
    cases result
    exact passes.concatenation (passes.lowerNodes items depth es children)
  | .group span kind child,depth,e,lowered => by
    rw [Core.lowerNode] at lowered
    obtain ⟨_,_,lowered⟩ := bind_eq_ok.mp lowered
    split at lowered
    · exact absurd lowered reject_ne_ok
    · rename_i accepted
      obtain ⟨inner,inside,result⟩ := bind_eq_ok.mp lowered
      cases result
      exact passes.group accepted (passes.lowerNode child (depth + 1) inner inside)
  | .quantification span amount greed child,depth,e,lowered => by
    rw [Core.lowerNode] at lowered
    obtain ⟨_,_,lowered⟩ := bind_eq_ok.mp lowered
    split at lowered
    · exact absurd lowered reject_ne_ok
    · obtain ⟨⟨least,most⟩,bounded,lowered⟩ := bind_eq_ok.mp lowered
      obtain ⟨inner,inside,result⟩ := bind_eq_ok.mp lowered
      cases result
      exact passes.quantification bounded (passes.lowerNode child (depth + 1) inner inside)
  | .quote span literal,depth,e,lowered => by
    rw [Core.lowerNode] at lowered
    split at lowered
    · rename_i none
      cases lowered
      exact passes.nothing none
    · rename_i written
      cases lowered
      exact passes.quote (Bool.eq_false_of_not_eq_true written)
  | .trivia span text,depth,e,lowered => by
    rw [Core.lowerNode] at lowered
    cases lowered
    exact passes.trivia
  | .empty span,depth,e,lowered => by
    rw [Core.lowerNode] at lowered
    cases lowered
    exact passes.empty
  | .atom a,depth,e,lowered => by
    rw [Core.lowerNode] at lowered
    exact passes.atom lowered
  | .customClass span inverted members,depth,e,lowered => by
    rw [Core.lowerNode] at lowered
    obtain ⟨c,inside,result⟩ := bind_eq_ok.mp lowered
    cases result
    exact passes.customClass inside
  | .conditional span condition branches,depth,e,lowered => by
    rw [Core.lowerNode] at lowered
    exact absurd lowered reject_ne_ok
  | .absent span child,depth,e,lowered => by
    rw [Core.lowerNode] at lowered
    exact absurd lowered reject_ne_ok
  | .interpolation span text,depth,e,lowered => by
    rw [Core.lowerNode] at lowered
    exact absurd lowered reject_ne_ok

theorem Passes.lowerNodes (passes : Passes ctx R) : (ns : List Node) → (depth : Nat) → (es : List Expr) →
    lowerNodes ctx depth ns = .ok es → List.Forall₂ (R depth) ns es
  | [],depth,es,lowered => by
    rw [Core.lowerNodes] at lowered
    cases lowered
    exact .nil
  | n :: ns,depth,es,lowered => by
    rw [Core.lowerNodes] at lowered
    obtain ⟨first,loweredN,lowered⟩ := bind_eq_ok.mp lowered
    obtain ⟨rest,loweredR,result⟩ := bind_eq_ok.mp lowered
    cases result
    exact .cons (passes.lowerNode n depth first loweredN) (passes.lowerNodes ns depth rest loweredR)

end

end Passes

theorem languages_eq {ns : List Node} {es : List Expr} (natural : Surface.NodesNatural ns)
    (children : List.Forall₂ (fun n e => n.Natural → e.language = n.language ctx.names) ns es) :
    Expr.productLanguage es = Surface.productLanguage ctx.names ns ∧
      Expr.unionLanguage es = Surface.unionLanguage ctx.names ns := by
  induction children with
  | nil => simp [Expr.productLanguage,Expr.unionLanguage,Surface.productLanguage,Surface.unionLanguage]
  | cons first _ ih =>
    rw [Surface.NodesNatural] at natural
    obtain ⟨product,union⟩ := ih natural.2
    rw [Expr.productLanguage,Expr.unionLanguage,Surface.productLanguage,Surface.unionLanguage,first natural.1,product,union]
    exact ⟨rfl,rfl⟩

theorem language_passes : Passes ctx fun _ n e => n.Natural → e.language = n.language ctx.names where
  alternation children natural := by
    rw [Node.Natural] at natural
    rw [Expr.language,Node.language]
    exact (languages_eq natural children).2
  concatenation children natural := by
    rw [Node.Natural] at natural
    rw [Expr.language,Node.language]
    exact (languages_eq natural children).1
  group accepted inside natural := by
    rw [Node.Natural] at natural
    rw [Expr.language,group_language accepted]
    exact inside natural
  quantification bounded inside natural := by
    rw [Node.Natural] at natural
    rw [Expr.language,Node.language,inside natural.2]
    exact repeated_congr _ (lowerAmount_within natural.1 bounded)
  nothing none _ := by
    rw [Expr.language,Node.language,String.isEmpty_iff.mp none]
    rfl
  quote _ _ := by rw [Expr.language,Node.language]
  trivia _ := by rw [Expr.language,Node.language]
  empty _ := by rw [Expr.language,Node.language]
  atom lowered natural := by
    rw [Node.Natural] at natural
    rw [Node.language]
    exact lowerAtom_language natural lowered
  customClass lowered natural := by
    rw [Node.Natural] at natural
    exact customClass_language natural lowered

theorem lowerNode_language (depth : Nat) (e : Expr) (n : Node) (natural : n.Natural)
    (lowered : lowerNode ctx depth n = .ok e) : e.language = n.language ctx.names :=
  language_passes.lowerNode n depth e lowered natural

theorem lower_keeps_language (limit : Int) (names : String → Option String) (n : Node) (e : Expr) (natural : n.Natural)
    (lowered : lower limit names n = .ok e) : e.language = n.language names :=
  lowerNode_language 0 e n natural lowered

theorem lower_customClass {limit : Int} {names : String → Option String} {span : Text.Span} {members : List Member}
    {c : CharClass} (lowered : lowerMembers ⟨inForce defaultDepth limit,names⟩ 1 members = .ok c) :
    lower limit names (.customClass span false members) = .ok (.charClass c) := by
  have entered : (Context.mk (inForce defaultDepth limit) names).enter 0 span = .ok () :=
    if_neg (Nat.not_lt.mpr (inForce_pos (by decide) limit))
  simp only [lower,lowerNode,lowerMember,entered]
  simp only [bind,Except.bind,Nat.zero_add,lowered]
  rfl

-- The pattern `[^a-\M-a--\Qq\E]{2,3}?`, without its places.
def reluctantClass : Node :=
  .quantification default (.between (some 2) (some 3)) .reluctant
    (.customClass default true
      [.setOperation default
        [.range default ⟨default,.char 0x61,"a"⟩ ⟨default,.keyboardMeta 0x61,"\\M-a"⟩] .subtraction
        [.quote default "q"]])

theorem lower_keeps_language_reluctantClass :
    ∃ e, lower 3 (fun _ => none) reluctantClass = .ok e ∧ e.language = reluctantClass.language fun _ => none := by
  have natural : reluctantClass.Natural := by
    simp [reluctantClass,Node.Natural,Amount.Natural,Surface.AllNatural,Member.Natural,AtomKind.Natural]
  exact ⟨_,rfl,lower_keeps_language 3 (fun _ => none) reluctantClass _ natural rfl⟩

end LexPattern.Core
