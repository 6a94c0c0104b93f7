import Mathlib
import LexPattern.Proofs.Surface.Derivation
import LexPattern.Proofs.Token.Places

namespace LexPattern.Surface

open Text (Position Span placeAfter placeAfter_offset_le)
open Token (Stand Finish written written_append stand_append)

inductive Tiled : Position → List Span → Position → Prop where
  | none : Tiled p [] p
  | more (others : Tiled span.stop spans stop) : Tiled span.start (span :: spans) stop

inductive Constituent where
  | node (n : Node)
  | member (m : Member)

namespace Constituent

def span : Constituent → Span
  | node n => n.span
  | member m => m.span

def children : Constituent → List Constituent
  | node (.alternation _ ns) | node (.concatenation _ ns) => ns.map node
  | node (.group _ _ n) | node (.quantification _ _ _ n) | node (.conditional _ _ n) | node (.absent _ n) => [node n]
  | node (.customClass _ _ ms) | member (.customClass _ _ ms) => ms.map member
  | member (.range _ lo hi) => [member (.atom lo),member (.atom hi)]
  | member (.setOperation _ lhs _ rhs) => lhs.map member ++ rhs.map member
  | _ => []

def text? : Constituent → Option String
  | node (.atom a) | member (.atom a) => some a.text
  | node (.trivia _ text) | member (.trivia _ text) => some text
  | _ => none

-- The part itself, its children, their children and so on.
def Within (whole part : Constituent) : Prop := Relation.ReflTransGen (fun p child => child ∈ p.children) whole part

def Gapless : Constituent → Prop
  | node (.concatenation span items) => Tiled span.start (items.map Node.span) span.stop
  | _ => True

-- A part stands where the text has it.
structure Placed (text : List Char) (p : Constituent) : Prop where
  spans : ∃ piece, p.span.Covers text piece
  forward : p.span.start.offset ≤ p.span.stop.offset
  inside : ∀ c ∈ p.children, p.span.start.offset ≤ c.span.start.offset ∧ c.span.stop.offset ≤ p.span.stop.offset
  ordered : p.children.Pairwise fun a b => a.span.stop.offset ≤ b.span.start.offset
  gapless : p.Gapless
  kept : ∀ kept ∈ p.text?, p.span.Covers text kept.toList

def AllPlaced (text : List Char) (p : Constituent) : Prop := ∀ q, p.Within q → q.Placed text

end Constituent

-- Parts in the order of the text, between two offsets.
structure Row (text : List Char) (first last : Nat) (parts : List Constituent) : Prop where
  placed : ∀ p ∈ parts, p.AllPlaced text
  inside : ∀ p ∈ parts, first ≤ p.span.start.offset ∧ p.span.stop.offset ≤ last
  ordered : parts.Pairwise fun a b => a.span.stop.offset ≤ b.span.start.offset

section Stretches

variable {text front : List Char} {ts us rest : List Token}

theorem Tiled.snoc {start stop : Position} {spans : List Span} {span : Span} (tiled : Tiled start spans stop)
    (joins : span.start = stop) : Tiled start (spans ++ [span]) span.stop := by
  induction tiled with
  | none =>
    subst joins
    exact .more .none
  | more _ ih => exact .more (ih joins)

theorem firstPos_finish (finish : Finish text front ts) : firstPos (placeAfter text) ts = placeAfter front := by
  cases ts with
  | nil =>
    obtain ⟨_,rfl⟩ := finish
    simp [firstPos,written]
  | cons t ts => exact finish.1.1

theorem lastStop_stand (stand : Stand front ts) : lastStop (placeAfter front) ts = placeAfter (front ++ written ts) := by
  induction ts generalizing front with
  | nil => simp [lastStop,written]
  | cons t ts ih =>
    have further := ih stand.2
    rw [← stand.stop,List.append_assoc] at further
    exact further

theorem stretch_eq (finish : Finish text front (ts ++ rest)) :
    stretch (placeAfter text) ts rest = ⟨placeAfter front,placeAfter (front ++ written ts)⟩ := by
  obtain ⟨first,_⟩ := stand_append.mp finish.1
  -- Without tokens the stretch ends where the rest begins, which is where the text before ends.
  cases ts with
  | nil =>
    have place : firstPos (placeAfter text) rest = placeAfter front := firstPos_finish finish
    simp [stretch,lastStop,written,place]
  | cons t ts =>
    rw [stretch,firstPos_finish finish,lastStop_eq (List.cons_ne_nil t ts),lastStop_stand first]

theorem stretch_covers (finish : Finish text front (ts ++ rest)) :
    (stretch (placeAfter text) ts rest).Covers text (written ts) := by
  refine ⟨front,written rest,?_,stretch_eq finish⟩
  rw [finish.2,written_append,List.append_assoc]

theorem token_covers {t : Token} (finish : Finish text front (t :: rest)) : t.span.Covers text t.lexeme := by
  refine ⟨front,written rest,?_,?_⟩
  · rw [finish.2,List.append_assoc]
    rfl
  · rw [Token.span,finish.1.stop,finish.1.1]

end Stretches

namespace Row

variable {text front piece : List Char} {p : Constituent} {ps qs : List Constituent} {a b c d : Nat}

theorem none : Row text a b [] := ⟨by simp,by simp,.nil⟩

theorem single (placed : p.AllPlaced text) (first : a ≤ p.span.start.offset) (last : p.span.stop.offset ≤ b) :
    Row text a b [p] := by
  refine ⟨?_,?_,List.pairwise_singleton _ _⟩
  · intro q member
    cases List.mem_singleton.mp member
    exact placed
  · intro q member
    cases List.mem_singleton.mp member
    exact ⟨first,last⟩

theorem append (one : Row text a b ps) (other : Row text c d qs) (apart : b ≤ c) (first : a ≤ b) (last : c ≤ d) :
    Row text a d (ps ++ qs) := by
  refine ⟨?_,?_,List.pairwise_append.mpr ⟨one.ordered,other.ordered,?_⟩⟩
  · intro p member
    obtain member | member := List.mem_append.mp member
    · exact one.placed p member
    · exact other.placed p member
  · intro p member
    obtain member | member := List.mem_append.mp member
    · have := one.inside p member
      omega
    · have := other.inside p member
      omega
  · intro p inOne q inOther
    have := one.inside p inOne
    have := other.inside q inOther
    omega

theorem widen (row : Row text b c ps) (first : a ≤ b) (last : c ≤ d) : Row text a d ps := by
  refine ⟨row.placed,fun p member => ?_,row.ordered⟩
  have := row.inside p member
  omega

theorem spanned {ts rest : List Token} (placed : p.AllPlaced text) (finish : Finish text front (ts ++ rest))
    (spans : p.span = stretch (placeAfter text) ts rest) :
    Row text (placeAfter front).offset (placeAfter (front ++ written ts)).offset [p] := by
  rw [stretch_eq finish] at spans
  exact .single placed (by rw [spans]) (by rw [spans])

theorem after {ts gap us : List Token} (one : Row text (placeAfter front).offset (placeAfter (front ++ written ts)).offset ps)
    (other : Row text (placeAfter (front ++ written (ts ++ gap))).offset
      (placeAfter (front ++ written (ts ++ gap) ++ written us)).offset qs) :
    Row text (placeAfter front).offset (placeAfter (front ++ written (ts ++ gap ++ us))).offset (ps ++ qs) := by
  rw [written_append,← List.append_assoc,written_append,← List.append_assoc] at *
  exact one.append other (placeAfter_offset_le _) (placeAfter_offset_le _) (placeAfter_offset_le _)

theorem between {us ts vs : List Token}
    (row : Row text (placeAfter (front ++ written us)).offset (placeAfter (front ++ written us ++ written ts)).offset ps) :
    Row text (placeAfter front).offset (placeAfter (front ++ written (us ++ ts ++ vs))).offset ps := by
  rw [written_append,written_append,← List.append_assoc,← List.append_assoc]
  exact row.widen (placeAfter_offset_le _) (placeAfter_offset_le _)

theorem parent (row : Row text p.span.start.offset p.span.stop.offset p.children) (covers : p.span.Covers text piece)
    (gapless : p.Gapless) (kept : ∀ kept ∈ p.text?, p.span.Covers text kept.toList) : p.AllPlaced text := by
  intro q within
  obtain rfl | ⟨child,member,below⟩ := Relation.ReflTransGen.cases_head within
  · exact ⟨⟨piece,covers⟩,covers.forward,row.inside,row.ordered,gapless,kept⟩
  · exact row.placed child member q below

end Row

section Places

variable {text front piece : List Char} {span : Span} {t : Token} {ts rest : List Token} {n : Node} {ns : List Node}

theorem choice_placed (row : Row text span.start.offset span.stop.offset (ns.map .node)) (covers : span.Covers text piece) :
    (Constituent.node (choice span ns)).AllPlaced text := by
  match ns with
  | [] => exact Row.parent row covers trivial nofun
  | [n] => exact row.placed (.node n) List.mem_cons_self
  | _ :: _ :: _ => exact Row.parent row covers trivial nofun

theorem sequence_placed (row : Row text span.start.offset span.stop.offset (ns.map .node))
    (tiled : Tiled span.start (ns.map Node.span) span.stop) (covers : span.Covers text piece) :
    (Constituent.node (sequence span ns)).AllPlaced text := by
  match ns with
  | [] => exact Row.parent row covers trivial nofun
  | [n] => exact row.placed (.node n) List.mem_cons_self
  | _ :: _ :: _ => exact Row.parent row covers tiled nofun

theorem close_placed {enclosure : Enclosure} (row : Row text span.start.offset span.stop.offset [.node n])
    (covers : span.Covers text piece) : (Constituent.node (enclosure.close span n)).AllPlaced text := by
  cases enclosure with
  | group kind => exact Row.parent row covers trivial nofun
  | absent => exact Row.parent row covers trivial nofun
  | conditional condition => exact Row.parent row covers trivial nofun

theorem quote_placed {literal : String} (covers : span.Covers text piece) :
    (Constituent.member (.quote span literal)).AllPlaced text := Row.parent .none covers trivial nofun

theorem atomOf_placed (covers : t.span.Covers text t.lexeme) (kind : AtomKind) :
    (Constituent.node (.atom (atomOf t kind))).AllPlaced text ∧
      (Constituent.member (.atom (atomOf t kind))).AllPlaced text := by
  have kept : ∀ kept ∈ some t.text, t.span.Covers text kept.toList := by
    intro kept same
    cases same
    rwa [Token.text,String.toList_ofList]
  exact ⟨Row.parent .none covers trivial kept,Row.parent .none covers trivial kept⟩

theorem readAtom_placed {a : Atom} (read : readAtom t = .ok a) (covers : t.span.Covers text t.lexeme) :
    (Constituent.node (.atom a)).AllPlaced text ∧ (Constituent.member (.atom a)).AllPlaced text := by
  obtain ⟨kind,_,rfl⟩ := readAtom_eq_ok_iff.mp read
  exact atomOf_placed covers kind

theorem item_placed (read : Builder.item t = .ok n) (covers : t.span.Covers text t.lexeme) :
    (Constituent.node n).AllPlaced text := by
  unfold Builder.item at read
  dsimp only at read
  split at read
  case h_10 =>
    split at read
    · rename_i a found
      cases read
      exact (readAtom_placed found covers).1
    · cases read
  case h_1 | h_3 =>
    cases read
    exact Row.parent .none covers trivial nofun
  case h_2 =>
    cases read
    refine Row.parent .none covers trivial ?_
    intro kept same
    cases same
    rwa [Token.text,String.toList_ofList]
  all_goals
    cases read
    exact (atomOf_placed covers _).1

end Places

-- What can be said about the parts of a phrase by where its tokens stand.
def Phrase.Placed (text front : List Char) (ts : List Token) : Phrase → Prop
  | expression n | branch n | item n | atom n => (Constituent.node n).AllPlaced text
  | branches ns => Row text (placeAfter front).offset (placeAfter (front ++ written ts)).offset (ns.map .node)
  | items ns => Row text (placeAfter front).offset (placeAfter (front ++ written ts)).offset (ns.map .node) ∧
      Tiled (placeAfter front) (ns.map Node.span) (placeAfter (front ++ written ts))
  | operation ms | members ms =>
      Row text (placeAfter front).offset (placeAfter (front ++ written ts)).offset (ms.map .member)
  | member m => (Constituent.member m).AllPlaced text

namespace Phrase.Placed

variable {text front : List Char} {ts us rest : List Token} {n : Node} {m : Member} {ns : List Node} {ms : List Member}

theorem nextBranch {bar : Token} (before : Placed text front ts (.branches ns))
    (next : Placed text (front ++ written (ts ++ [bar])) us (.branch n))
    (spans : n.span = stretch (placeAfter text) us rest) (finish : Finish text front (ts ++ [bar] ++ (us ++ rest))) :
    Placed text front (ts ++ bar :: us) (.branches (ns ++ [n])) := by
  have row := Row.after before (.spanned next finish.skip spans)
  rw [List.append_assoc] at row
  simpa [Placed] using row

theorem nextItem (before : Placed text front ts (.items ns)) (next : Placed text (front ++ written ts) us (.item n))
    (spans : n.span = stretch (placeAfter text) us rest) (finish : Finish text front (ts ++ (us ++ rest))) :
    Placed text front (ts ++ us) (.items (ns ++ [n])) := by
  obtain ⟨row,tiled⟩ := before
  have longer := row.append (.spanned next finish.skip spans) le_rfl (placeAfter_offset_le _) (placeAfter_offset_le _)
  rw [stretch_eq finish.skip] at spans
  have further := tiled.snoc (congrArg Span.start spans)
  rw [congrArg Span.stop spans,List.append_assoc,← written_append] at further
  rw [List.append_assoc,← written_append] at longer
  exact ⟨by simpa using longer,by simpa using further⟩

theorem quantified {q : Token} {amount : Amount} {greed : Greed} (inner : Placed text front ts (.item n))
    (spans : n.span = stretch (placeAfter text) ts (q :: rest)) (finish : Finish text front (ts ++ [q] ++ rest)) :
    Placed text front (ts ++ [q])
      (.item (.quantification (stretch (placeAfter text) (ts ++ [q]) rest) amount greed n)) := by
  have covers := stretch_covers finish
  rw [stretch_eq finish] at covers ⊢
  rw [List.append_assoc] at finish
  have row := Row.spanned inner finish spans
  refine Row.parent (row.widen le_rfl ?_) covers trivial nofun
  rw [written_append,← List.append_assoc]
  exact placeAfter_offset_le _

theorem enclosed {opening : List Token} {enclosure : Enclosure} {close : Token}
    (inner : Placed text (front ++ written opening) ts (.expression n))
    (spans : n.span = stretch (placeAfter text) ts (close :: rest))
    (finish : Finish text front (opening ++ ts ++ [close] ++ rest)) : Placed text front (opening ++ ts ++ [close])
      (.atom (enclosure.close (stretch (placeAfter text) (opening ++ ts ++ [close]) rest) n)) := by
  have covers := stretch_covers finish
  rw [stretch_eq finish] at covers ⊢
  rw [List.append_assoc,List.append_assoc] at finish
  exact close_placed (Row.spanned inner finish.skip spans).between covers

theorem brackets {opening close : Token} {inverted : Bool}
    (inner : Finish text (front ++ written [opening]) (ts ++ close :: rest) →
      Placed text (front ++ written [opening]) ts (.operation ms))
    (finish : Finish text front (opening :: ts ++ [close] ++ rest)) :
    Placed text front (opening :: ts ++ [close])
        (.atom (.customClass (stretch (placeAfter text) (opening :: ts ++ [close]) rest) inverted ms)) ∧
      Placed text front (opening :: ts ++ [close])
        (.member (.customClass (stretch (placeAfter text) (opening :: ts ++ [close]) rest) inverted ms)) := by
  have covers := stretch_covers finish
  rw [stretch_eq finish] at covers ⊢
  have inside : Finish text front ([opening] ++ (ts ++ close :: rest)) := by simpa using finish
  have row : Row text (placeAfter front).offset (placeAfter (front ++ written ([opening] ++ ts ++ [close]))).offset
    (ms.map .member) := Row.between (inner inside.skip)
  exact ⟨Row.parent row covers trivial nofun,Row.parent row covers trivial nofun⟩

theorem operated {lhs rhs : List Member} {op : Token} {kind : SetOp} (left : Placed text front ts (.operation lhs))
    (right : Placed text (front ++ written (ts ++ [op])) us (.members rhs))
    (finish : Finish text front (ts ++ op :: us ++ rest)) : Placed text front (ts ++ op :: us)
      (.operation [.setOperation (stretch (placeAfter text) (ts ++ op :: us) rest) lhs kind rhs]) := by
  have covers := stretch_covers finish
  have row := Row.after left right
  rw [List.append_assoc,List.singleton_append] at row
  refine .spanned (Row.parent ?_ covers trivial nofun) finish rfl
  simp only [Constituent.span,Member.span,stretch_eq finish]
  exact row

theorem nextMember (before : Placed text front ts (.members ms)) (next : Placed text (front ++ written ts) us (.member m))
    (spans : m.span = stretch (placeAfter text) us rest) (finish : Finish text front (ts ++ (us ++ rest))) :
    Placed text front (ts ++ us) (.members (ms ++ [m])) := by
  have longer := Row.append before (.spanned next finish.skip spans) le_rfl (placeAfter_offset_le _) (placeAfter_offset_le _)
  rw [List.append_assoc,← written_append] at longer
  simpa [Placed] using longer

theorem range {lo hi : Atom} {first dash last : Token} (readFirst : readAtom first = .ok lo) (readLast : readAtom last = .ok hi)
    (finish : Finish text front ([first,dash,last] ++ rest)) : Placed text front [first,dash,last]
      (.member (.range (stretch (placeAfter text) [first,dash,last] rest) lo hi)) := by
  have covers := stretch_covers finish
  have inside : Finish text (front ++ written ([first] ++ [dash])) ([last] ++ rest) := Token.Finish.skip finish
  have one : Row text (placeAfter front).offset (placeAfter (front ++ written [first])).offset [.member (.atom lo)] := by
    refine .spanned (readAtom_placed readFirst (token_covers finish)).2 finish ?_
    obtain ⟨_,_,rfl⟩ := readAtom_eq_ok_iff.mp readFirst
    rfl
  have other := Row.spanned (readAtom_placed readLast (token_covers inside)).2 inside (by
    obtain ⟨_,_,rfl⟩ := readAtom_eq_ok_iff.mp readLast
    rfl)
  have row := one.after other
  refine Row.parent ?_ covers trivial nofun
  simp only [Constituent.span,Member.span,stretch_eq finish]
  exact row

end Phrase.Placed

variable {text front : List Char} {room : Nat} {ts rest : List Token} {n : Node}

theorem Derives.placed {phrase : Phrase} (derived : Derives (placeAfter text) room phrase ts rest)
    (finish : Finish text front (ts ++ rest)) : phrase.Placed text front ts := by
  induction derived generalizing front with
  | expression _ ih =>
    have covers := stretch_covers finish
    rw [stretch_eq finish] at covers ⊢
    exact choice_placed (ih finish) covers
  | firstBranch first ih => exact .spanned (ih finish) finish first.spans
  | nextBranch _ _ next ih₁ ih₂ =>
    rw [List.append_assoc] at finish
    have after := List.append_cons _ _ _ ▸ finish
    exact .nextBranch (ih₁ finish) (ih₂ after.skip) next.spans after
  | branch _ ih =>
    have covers := stretch_covers finish
    rw [stretch_eq finish] at covers ⊢
    exact sequence_placed (ih finish).1 (ih finish).2 covers
  | noItem => exact ⟨.none,by simpa [written] using Tiled.none⟩
  | nextItem _ next ih₁ ih₂ =>
    rw [List.append_assoc] at finish
    exact .nextItem (ih₁ finish) (ih₂ finish.skip) next.spans.2 finish
  | once _ ih => exact ih finish
  | quantified inner _ ih => exact .quantified (ih (by simpa using finish)) inner.spans.2 finish
  | enclosed _ inner _ ih =>
    have inside := finish
    rw [List.append_assoc,List.append_assoc] at inside
    exact .enclosed (ih inside.skip) inner.spans finish
  | bracketed _ _ _ ih => exact (Phrase.Placed.brackets ih finish).1
  | settings _ _ => exact (atomOf_placed (token_covers finish) _).1
  | token read => exact item_placed read (token_covers finish)
  | operand _ ih => exact ih finish
  | operated left _ right ih₁ ih₂ =>
    have before := finish
    rw [List.append_assoc] at before
    have after := List.append_cons _ _ _ ▸ before
    exact .operated (ih₁ before) (ih₂ after.skip) finish
  | noMember => exact .none
  | nextMember _ next ih₁ ih₂ =>
    rw [List.append_assoc] at finish
    exact .nextMember (ih₁ finish) (ih₂ finish.skip) next.spans.2 finish
  | nested _ _ _ ih => exact (Phrase.Placed.brackets ih finish).2
  | quotation _ => exact quote_placed (token_covers finish)
  | dash _ => exact (atomOf_placed (token_covers finish) _).2
  | single read _ => exact (readAtom_placed read (token_covers finish)).2
  | range readFirst _ readLast => exact .range readFirst readLast finish

section Faults

variable {limit : Nat} {eof : Position} {t : Token} {b b' : Builder} {fault : Fault}

theorem map_eq_error {ε α β : Type} {f : α → β} {outcome : Except ε α} {e : ε} (failed : outcome.map f = .error e) :
    outcome = .error e := by
  cases outcome with
  | error cause =>
    cases failed
    rfl
  | ok a => cases failed

namespace Builder

theorem enter_error (failed : (b.enter limit t >>= fun _ => Except.ok b') = .error fault) : fault.pos = t.pos := by
  unfold enter at failed
  split at failed
  · cases failed
    rfl
  · cases failed

theorem item_error (failed : item t = .error fault) : fault.pos = t.pos := by
  unfold item at failed
  dsimp only at failed
  split at failed
  case h_10 =>
    split at failed
    · cases failed
    · cases failed
      rfl
  all_goals cases failed

theorem stepExpression_error {next : Position} (failed : b.stepExpression limit t next = .error fault) :
    fault.pos = t.pos := by
  unfold stepExpression at failed
  split at failed
  case h_2 =>
    dsimp only at failed
    split at failed
    · cases failed
    · exact enter_error failed
  case h_6 =>
    unfold closeFrame at failed
    split at failed
    · cases failed
      rfl
    · cases failed
  case h_7 => cases failed
  case h_8 | h_9 =>
    unfold quantify at failed
    split at failed
    · cases failed
      rfl
    · cases failed
  case h_10 => exact item_error (map_eq_error failed)
  all_goals exact enter_error failed

theorem stepBrackets_error {c : ClassDraft} {outer : List ClassDraft}
    (failed : b.stepBrackets limit c outer t rest = .error fault) : fault.pos = t.pos := by
  unfold stepBrackets at failed
  dsimp only at failed
  split at failed
  · cases failed
  · split at failed
    · cases failed
    · cases failed
      rfl
  · split at failed
    case h_1 => exact enter_error failed
    case h_6 =>
      split at failed
      · cases failed
        rfl
      · split at failed
        · cases failed
        · cases failed
    all_goals cases failed

theorem step_error (failed : b.step limit t rest eof = .error fault) : fault.pos = t.pos := by
  obtain ⟨stop,d,frames,focus⟩ := b
  cases focus with
  | expression =>
    rw [step_expression] at failed
    exact stepExpression_error (map_eq_error failed)
  | condition opening text =>
    rw [step_condition] at failed
    cases failed
  | brackets c outer =>
    rw [step_brackets] at failed
    exact stepBrackets_error (map_eq_error failed)

-- What is still open at the end was opened by one of the tokens.
theorem finish_error (read : b.Reads limit eof ts []) (failed : b.finish = .error fault) : ∃ t ∈ ts, fault.pos = t.pos := by
  obtain ⟨stop,d,frames,focus⟩ := b
  obtain ⟨room,us,vs,rfl,_,outside,inside,_⟩ := read
  dsimp only at outside inside
  cases inside with
  | condition kind inside =>
    cases failed
    exact ⟨_,by simp,rfl⟩
  | brackets read =>
    cases failed
    cases read with
    | outermost => exact ⟨_,by simp,rfl⟩
    | within => exact ⟨_,by simp,rfl⟩
  | expression =>
    cases outside with
    | bottom read => cases failed
    | frame outside opens place read =>
      cases failed
      cases opens with
      | conditional => exact ⟨_,by simp,place⟩
      | _ => exact ⟨_,by simp,place⟩

theorem run_error {us : List Token} (read : b.Reads limit eof ts us) (failed : b.run limit eof us = .error fault) :
    ∃ t ∈ ts ++ us, fault.pos = t.pos := by
  induction us generalizing b ts with
  | nil =>
    rw [List.append_nil]
    exact finish_error read failed
  | cons t us ih =>
    rw [run] at failed
    split at failed
    · rename_i cause stepped
      cases failed
      exact ⟨t,by simp,step_error stepped⟩
    · rename_i after stepped
      have blamed := ih (step_reads read stepped) failed
      rwa [List.append_assoc] at blamed

end Builder

theorem ofTokens_error (failed : ofTokens limit ts eof = .error fault) : ∃ t ∈ ts, fault.pos = t.pos := by
  rw [ofTokens_eq] at failed
  exact Builder.run_error Builder.Reads.new failed

end Faults

-- The parts of a tree stand in the text, each exactly where its own text is. A fault is found at the start of a token.
theorem parse_locations (limit : Int) (text : String) :
    match parse limit text.toUTF8 with
    | .ok n => n.span = ⟨.start,placeAfter text.toList⟩ ∧ (Constituent.node n).AllPlaced text.toList
    | .error fault => (∃ t ∈ Token.lex text.toList, fault.pos = t.pos) ∧
        ∃ front, front <+: text.toList ∧ fault.pos = placeAfter front := by
  have finish := Token.lex_finish text.toList
  have eof : Position.start.advance text.toList = placeAfter text.toList := by
    rw [← Text.placeAfter_nil,Text.placeAfter_advance,List.nil_append]
  rw [parse_toUTF8,ofChars,eof]
  split
  · rename_i n read
    have derived := derives_of_ofTokens read
    have whole : Finish text.toList [] (Token.lex text.toList ++ []) := by simpa using finish
    refine ⟨?_,derived.placed whole⟩
    have spans : n.span = stretch (placeAfter text.toList) (Token.lex text.toList) [] := derived.spans
    rw [spans,stretch_eq whole,Text.placeAfter_nil,← finish.2]
  · rename_i fault failed
    obtain ⟨t,member,blamed⟩ := ofTokens_error failed
    obtain ⟨front,before,place⟩ := finish.pos member
    exact ⟨⟨t,member,blamed⟩,front,before,blamed.trans place⟩

end LexPattern.Surface
