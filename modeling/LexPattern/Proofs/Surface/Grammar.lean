import Mathlib
import LexPattern.Surface.Parser

namespace LexPattern.Surface

open Text (Position Span)

def firstPos (eof : Position) : List Token → Position
  | [] => eof
  | t :: _ => t.pos

def lastStop (before : Position) (ts : List Token) : Position := ts.foldl (fun _ t => t.stop) before

def stretch (eof : Position) (ts rest : List Token) : Span := ⟨firstPos eof (ts ++ rest),lastStop (firstPos eof rest) ts⟩

def sequence (span : Span) : List Node → Node
  | [] => .empty span
  | [n] => n
  | ns => .concatenation span ns

def choice (span : Span) : List Node → Node
  | [n] => n
  | ns => .alternation span ns

def DashOpensRange (ts : List Token) : Prop :=
  ∃ dash next more, ts = dash :: next :: more ∧ dash.kind = .dash ∧ next.kind ≠ .classClose ∧ next.kind ≠ .setOp

-- The tokens in front of an expression in parentheses, and what they make of it. A condition is any text without a
-- closing parenthesis.
inductive Opens : List Token → Enclosure → Prop where
  | group (kind : t.kind = .groupOpen) : Opens [t] (.group (readGroupKind t.lexeme))
  | options (kind : t.kind = .optionsOpen) (opens : t.lexeme.getLast? ≠ some ')') :
      Opens [t] (.group (.options (String.ofList (inner 2 1 t.lexeme))))
  | absent (kind : t.kind = .absentOpen) : Opens [t] .absent
  | conditional (kind : t.kind = .condOpen) (inside : ∀ c ∈ condition, c.kind ≠ .groupClose)
      (closed : close.kind = .groupClose) :
      Opens (t :: condition ++ [close]) (.conditional (String.ofList (condition.flatMap Token.lexeme)))

inductive Phrase where
  | expression (n : Node)
  | branches (ns : List Node)
  | branch (n : Node)
  | items (ns : List Node)
  | item (n : Node)
  | atom (n : Node)
  | operation (ms : List Member)
  | members (ms : List Member)
  | member (m : Member)

-- The tokens `ts`, followed by `rest`, are a phrase in which at most `room` parentheses and brackets are nested around any
-- point. Every node and every member spans the tokens that it is derived from.
inductive Derives (eof : Position) : Nat → Phrase → List Token → List Token → Prop where
  | expression (inner : Derives eof room (.branches ns) ts rest) :
      Derives eof room (.expression (choice (stretch eof ts rest) ns)) ts rest
  | firstBranch (first : Derives eof room (.branch n) ts rest) : Derives eof room (.branches [n]) ts rest
  | nextBranch (before : Derives eof room (.branches ns) ts (bar :: us ++ rest)) (kind : bar.kind = .alt)
      (next : Derives eof room (.branch n) us rest) : Derives eof room (.branches (ns ++ [n])) (ts ++ bar :: us) rest
  | branch (inner : Derives eof room (.items ns) ts rest) :
      Derives eof room (.branch (sequence (stretch eof ts rest) ns)) ts rest
  | noItem : Derives eof room (.items []) [] rest
  | nextItem (before : Derives eof room (.items ns) ts (us ++ rest)) (next : Derives eof room (.item n) us rest) :
      Derives eof room (.items (ns ++ [n])) (ts ++ us) rest
  | once (inner : Derives eof room (.atom n) ts rest) : Derives eof room (.item n) ts rest
  | quantified (inner : Derives eof room (.item n) ts (q :: rest)) (kind : q.kind = .quant ∨ q.kind = .count) :
      Derives eof room (.item (.quantification (stretch eof (ts ++ [q]) rest) (readAmount q.lexeme).1
        (readGreed (readAmount q.lexeme).2) n)) (ts ++ [q]) rest
  | enclosed (opens : Opens front enclosure) (inner : Derives eof room (.expression n) ts (close :: rest))
      (closed : close.kind = .groupClose) :
      Derives eof (room + 1) (.atom (enclosure.close (stretch eof (front ++ ts ++ [close]) rest) n))
        (front ++ ts ++ [close]) rest
  | bracketed (kind : opening.kind = .classOpen) (inner : Derives eof room (.operation ms) ts (close :: rest))
      (closed : close.kind = .classClose) :
      Derives eof (room + 1) (.atom (.customClass (stretch eof (opening :: ts ++ [close]) rest)
        (opening.lexeme == ['[','^']) ms)) (opening :: ts ++ [close]) rest
  | settings (kind : t.kind = .optionsOpen) (closed : t.lexeme.getLast? = some ')') :
      Derives eof room (.atom (.atom (atomOf t (.changeMatchingOptions (String.ofList (inner 2 1 t.lexeme)))))) [t] rest
  | token (read : Builder.item t = .ok n) : Derives eof room (.atom n) [t] rest
  | operand (inner : Derives eof room (.members ms) ts rest) : Derives eof room (.operation ms) ts rest
  | operated (left : Derives eof room (.operation lhs) ts (op :: us ++ rest)) (kind : op.kind = .setOp)
      (right : Derives eof room (.members rhs) us rest) :
      Derives eof room (.operation [.setOperation (stretch eof (ts ++ op :: us) rest) lhs (readSetOp op.lexeme) rhs])
        (ts ++ op :: us) rest
  | noMember : Derives eof room (.members []) [] rest
  | nextMember (before : Derives eof room (.members ms) ts (us ++ rest)) (next : Derives eof room (.member m) us rest) :
      Derives eof room (.members (ms ++ [m])) (ts ++ us) rest
  | nested (kind : opening.kind = .classOpen) (inner : Derives eof room (.operation ms) ts (close :: rest))
      (closed : close.kind = .classClose) :
      Derives eof (room + 1) (.member (.customClass (stretch eof (opening :: ts ++ [close]) rest)
        (opening.lexeme == ['[','^']) ms)) (opening :: ts ++ [close]) rest
  | quotation (kind : t.kind = .quote) : Derives eof room (.member (.quote t.span (quotedText t.lexeme))) [t] rest
  | dash (kind : t.kind = .dash) : Derives eof room (.member (.atom (atomOf t (.char (.ofChar '-'))))) [t] rest
  | single (read : readAtom t = .ok a) (ends : ¬ DashOpensRange rest) : Derives eof room (.member (.atom a)) [t] rest
  | range (readFirst : readAtom first = .ok lo) (kind : dash.kind = .dash) (readLast : readAtom last = .ok hi) :
      Derives eof room (.member (.range (stretch eof [first,dash,last] rest) lo hi)) [first,dash,last] rest

section Stretches

variable {eof before other : Position} {t close : Token} {ts us rest : List Token}

theorem lastStop_append : lastStop before (ts ++ us) = lastStop (lastStop before ts) us := List.foldl_append

theorem lastStop_snoc : lastStop before (ts ++ [t]) = t.stop := by
  rw [lastStop_append]
  rfl

-- Where tokens end does not depend on what is before them, as long as there are any.
theorem lastStop_eq (some : ts ≠ []) : lastStop before ts = lastStop other ts := by
  cases ts with
  | nil => exact absurd rfl some
  | cons t ts => rfl

theorem firstPos_append (some : ts ≠ []) : firstPos eof (ts ++ us) = firstPos eof ts := by
  cases ts with
  | nil => exact absurd rfl some
  | cons t ts => rfl

theorem stretch_snoc : stretch eof (ts ++ [t]) rest = ⟨firstPos eof (ts ++ t :: rest),t.stop⟩ := by
  simp [stretch,lastStop_snoc]

theorem Opens.ne_nil {front : List Token} {enclosure : Enclosure} (opens : Opens front enclosure) : front ≠ [] := by
  cases opens with
  | conditional => simp
  | _ => simp

-- What is in parentheses reaches from the token that opened them to the one that closes them.
theorem Opens.stretch_eq {front : List Token} {enclosure : Enclosure} {opening : Token} (opens : Opens front enclosure)
    (place : opening.pos = firstPos eof front) : stretch eof (front ++ ts ++ [close]) rest = ⟨opening.pos,close.stop⟩ := by
  rw [stretch_snoc,List.append_assoc,firstPos_append opens.ne_nil,place]

end Stretches

section Spans

variable {eof : Position} {room : Nat} {t : Token} {ts rest : List Token} {n : Node} {ns : List Node} {span : Span}

theorem sequence_span (alone : ∀ n, ns = [n] → n.span = span) : (sequence span ns).span = span := by
  match ns with
  | [] => rfl
  | [n] => exact alone n rfl
  | _ :: _ :: _ => rfl

theorem choice_span (alone : ∀ n, ns = [n] → n.span = span) : (choice span ns).span = span := by
  match ns with
  | [] => rfl
  | [n] => exact alone n rfl
  | _ :: _ :: _ => rfl

theorem readAtom_eq_ok_iff {a : Atom} : readAtom t = .ok a ↔ ∃ kind, atomKind t = .ok kind ∧ a = atomOf t kind := by
  unfold readAtom
  cases atomKind t with
  | error cause => simp [Except.map]
  | ok kind => simp [Except.map,eq_comm]

theorem item_span (read : Builder.item t = .ok n) : n.span = t.span := by
  unfold Builder.item at read
  dsimp only at read
  split at read
  case h_10 =>
    split at read
    · rename_i a found
      cases read
      obtain ⟨kind,_,rfl⟩ := readAtom_eq_ok_iff.mp found
      rfl
    · cases read
  all_goals
    cases read
    rfl

def Phrase.Spans (eof : Position) (ts rest : List Token) : Phrase → Prop
  | expression n | branch n => n.span = stretch eof ts rest
  | branches ns => ns ≠ [] ∧ (1 < ns.length → ts ≠ []) ∧ ∀ n, ns = [n] → n.span = stretch eof ts rest
  | items ns => (ns = [] ↔ ts = []) ∧ ∀ n, ns = [n] → n.span = stretch eof ts rest
  | item n | atom n => ts ≠ [] ∧ n.span = stretch eof ts rest
  | operation ms | members ms => ms.head?.map (·.span.start) = ts.head?.map Token.pos
  | member m => ts ≠ [] ∧ m.span = stretch eof ts rest

theorem head?_append_map {α β : Type} {f : α → β} {as : List α} {a : α} {us : List Token} {g : Token → β}
    (before : as.head?.map f = ts.head?.map g) (next : [a].head?.map f = us.head?.map g) :
    (as ++ [a]).head?.map f = (ts ++ us).head?.map g := by
  cases as with
  | nil =>
    cases ts with
    | nil => exact next
    | cons t ts => cases before
  | cons a as =>
    cases ts with
    | nil => cases before
    | cons t ts => exact before

theorem head?_map_of_span {m : Member} (some : ts ≠ []) (same : m.span = stretch eof ts rest) :
    [m].head?.map (·.span.start) = ts.head?.map Token.pos := by
  cases ts with
  | nil => exact absurd rfl some
  | cons t ts => simp [same,stretch,firstPos]

theorem Derives.spans {phrase : Phrase} (derived : Derives eof room phrase ts rest) : phrase.Spans eof ts rest := by
  induction derived with
  | expression _ ih => exact choice_span ih.2.2
  | firstBranch _ ih =>
    refine ⟨by simp,by simp,?_⟩
    rintro _ ⟨⟩
    exact ih
  | nextBranch _ _ _ ih _ =>
    refine ⟨by simp,by simp,fun n same => ?_⟩
    obtain ⟨none,_⟩ | ⟨_,absurd⟩ := List.append_eq_singleton_iff.mp same
    · exact (ih.1 none).elim
    · cases absurd
  | branch _ ih => exact sequence_span ih.2
  | noItem => exact ⟨by simp,by simp⟩
  | nextItem _ _ ih₁ ih₂ =>
    refine ⟨by simp [ih₂.1],fun n same => ?_⟩
    obtain ⟨none,single⟩ | ⟨_,absurd⟩ := List.append_eq_singleton_iff.mp same
    · cases single
      rw [ih₁.1.mp none]
      exact ih₂.2
    · cases absurd
  | once _ ih => exact ih
  | quantified _ _ _ => exact ⟨by simp,rfl⟩
  | @enclosed _ enclosure _ _ _ _ _ _ _ _ _ =>
    refine ⟨by simp,?_⟩
    cases enclosure <;> rfl
  | bracketed _ _ _ _ => exact ⟨by simp,rfl⟩
  | settings _ _ => exact ⟨by simp,rfl⟩
  | token read => exact ⟨by simp,item_span read⟩
  | operand _ ih => exact ih
  | @operated _ _ _ op ts us rest _ _ _ _ _ => exact head?_map_of_span (by simp) rfl
  | noMember => rfl
  | nextMember _ _ ih₁ ih₂ => exact head?_append_map ih₁ (head?_map_of_span ih₂.1 ih₂.2)
  | nested _ _ _ _ => exact ⟨by simp,rfl⟩
  | quotation _ => exact ⟨by simp,rfl⟩
  | dash _ => exact ⟨by simp,rfl⟩
  | single read _ =>
    obtain ⟨kind,_,rfl⟩ := readAtom_eq_ok_iff.mp read
    exact ⟨by simp,rfl⟩
  | range _ _ _ => exact ⟨by simp,rfl⟩

end Spans

end LexPattern.Surface
