import Mathlib
import LexPattern.Proofs.Surface.Descent
import LexPattern.Proofs.Surface.Reading

namespace LexPattern.Surface.Descent

open Text (Position Span)
open Token (Kind Scanned Cut moded modeAt outerAt depthAfter)
open Source

variable {α β : Type} {result : Except Fault Node} {src : Source} {c c' : Cursor} {brackets : Nat}

-- A part of the descent goes on in one of the ways that are expected, or it stops with the fault that the whole comes to.
def Leads (result : Except Fault Node) (x : Reader α) (c : Cursor) (expected : α → Cursor → Prop) : Prop :=
  match x c with
  | some (.ok (a,c)) => expected a c
  | some (.error (.fault f)) => result = .error f ∧ ∀ lexeme, f.cause ≠ .unexpected lexeme
  | some (.error (.defect _)) => False
  | none => False

section Outcomes

variable {x : Reader α} {k : α → Reader β} {a : α} {expected : α → Cursor → Prop} {further : β → Cursor → Prop}

theorem bind_ok (ran : x c = some (.ok (a,c'))) : (x >>= k) c = k a c' := by
  change (x c >>= _) = _
  rw [ran]
  rfl

theorem bind_error {trouble : Trouble} (ran : x c = some (.error trouble)) : (x >>= k) c = some (.error trouble) := by
  change (x c >>= _) = _
  rw [ran]
  rfl

theorem Leads.done (ran : x c = some (.ok (a,c'))) (reached : expected a c') : Leads result x c expected := by
  unfold Leads
  rw [ran]
  exact reached

theorem Leads.stop {f : Fault} (ran : x c = some (.error (.fault f))) (same : result = .error f)
    (known : ∀ lexeme, f.cause ≠ .unexpected lexeme) : Leads result x c expected := by
  unfold Leads
  rw [ran]
  exact ⟨same,known⟩

theorem Leads.pure (reached : expected a c) : Leads result (Pure.pure a) c expected := reached

theorem Leads.bind (first : Leads result x c expected) (rest : ∀ a c', expected a c' → Leads result (k a) c' further) :
    Leads result (x >>= k) c further := by
  unfold Leads at first
  match ran : x c with
  | some (.ok (a,c')) =>
    rw [ran] at first
    unfold Leads
    rw [bind_ok ran]
    exact rest a c' first
  | some (.error (.fault f)) =>
    rw [ran] at first
    exact .stop (bind_error ran) first.1 first.2
  | some (.error (.defect d)) =>
    rw [ran] at first
    exact first.elim
  | none =>
    rw [ran] at first
    exact first.elim

theorem Leads.imp {expected' : α → Cursor → Prop} (leads : Leads result x c expected)
    (weaker : ∀ a c', expected a c' → expected' a c') : Leads result x c expected' := by
  unfold Leads at leads ⊢
  split
  · rename_i ran
    rw [ran] at leads
    exact weaker _ _ leads
  all_goals
    rename_i ran
    rw [ran] at leads
    exact leads

theorem Leads.run (ran : x c = some (.ok (a,c'))) (rest : Leads result (k a) c' further) : Leads result (x >>= k) c further := by
  unfold Leads
  rw [bind_ok ran]
  exact rest

theorem Leads.enter {pos : Position} {k : Unit → Reader β}
    (full : src.limit < c.depth + 1 → result = .error ⟨pos,.tooDeep src.limit⟩)
    (room : c.depth + 1 ≤ src.limit → Leads result (k ()) {c with depth := c.depth + 1} further) :
    Leads result (Descent.enter src pos >>= k) c further := by
  by_cases tooDeep : src.limit < c.depth + 1
  · have ran : Descent.enter src pos c = some (.error (.fault ⟨pos,.tooDeep src.limit⟩)) := if_pos tooDeep
    exact .stop (bind_error ran) (full tooDeep) fun _ => Cause.noConfusion
  · have ran : Descent.enter src pos c = some (.ok ((),{c with depth := c.depth + 1})) := if_neg tooDeep
    exact .run ran (room (Nat.le_of_not_lt tooDeep))

end Outcomes

-- The tokens from the cursor on, the first of them inside so many brackets. The text of a condition may be anything.
structure At (src : Source) (c : Cursor) (brackets : Nat) (ts : List Token) : Prop where
  placed : ∃ before, src.tokens = before ++ moded brackets ts ∧ before.length = c.place
  cut : Cut brackets ts
  lenient : src.strict = false

def Cursor.past (c : Cursor) (t : Token) : Cursor := ⟨c.place + 1,t.stop,c.depth⟩

def inside (brackets : Nat) (t : Token) : Scanned := ⟨modeAt brackets,outerAt brackets,t⟩

@[simp] theorem inside_token {t : Token} : (inside brackets t).token = t := rfl

section Places

variable {t : Token} {ts : List Token}

theorem At.past (here : At src c brackets (t :: ts)) : At src (c.past t) (depthAfter brackets t.kind) ts := by
  obtain ⟨⟨before,split,size⟩,cut,lenient⟩ := here
  cases cut with
  | cons _ behind =>
    refine ⟨⟨before ++ [inside brackets t],?_,?_⟩,behind,lenient⟩
    · rw [split,List.append_assoc]
      rfl
    · simp [size,Cursor.past]

theorem At.at_depth (here : At src c brackets ts) (depth : Nat) : At src {c with depth := depth} brackets ts :=
  ⟨here.placed,here.cut,here.lenient⟩

theorem At.lexed (here : At src c brackets (t :: ts)) : Token.Lexed (modeAt brackets) t := here.cut.lexed

theorem symbols_eq {before : List Scanned} (split : src.tokens = before ++ moded brackets ts) (more : Nat) :
    (src.tokens.map some ++ [none])[before.length + more]? = ((moded brackets ts).map some ++ [none])[more]? := by
  rw [split,List.map_append,List.append_assoc,List.getElem?_append_right (by simp)]
  simp

theorem current_eq (here : At src c brackets ts) : current src c = some (.ok (ts.head?.map (inside brackets),c)) := by
  obtain ⟨⟨before,split,size⟩,_⟩ := here
  have symbol := symbols_eq split 0
  rw [Nat.add_zero,size] at symbol
  unfold current symbolAt
  rw [symbol]
  cases ts with
  | nil => rfl
  | cons t ts => rfl

theorem lookahead_cons (here : At src c brackets (t :: ts)) :
    lookahead src c = some (.ok (ts.head?.map (inside (depthAfter brackets t.kind)),c)) := by
  obtain ⟨⟨before,split,size⟩,_⟩ := here
  have symbol := symbols_eq split 1
  rw [size] at symbol
  unfold lookahead symbolAt
  rw [symbol]
  cases ts with
  | nil => rfl
  | cons u us => rfl

theorem agree_inside : agree brackets (some (inside brackets t)) c = some (.ok ((),c)) := by
  have agrees : (inside brackets t).outer.length = brackets ∧ (inside brackets t).mode = modeAt brackets :=
    ⟨Token.length_outerAt brackets,rfl⟩
  unfold agree
  dsimp only
  rw [if_pos agrees]
  rfl

theorem peek_eq (here : At src c brackets ts) : peek src brackets c = some (.ok (ts.head?.map (inside brackets),c)) := by
  have agrees : agree brackets (ts.head?.map (inside brackets)) c = some (.ok ((),c)) := by
    cases ts with
    | nil => rfl
    | cons t ts => exact agree_inside
  rw [peek,bind_ok (current_eq here),bind_ok agrees]
  rfl

theorem peek_nil (here : At src c brackets []) : peek src brackets c = some (.ok (none,c)) := peek_eq here

theorem peek_cons (here : At src c brackets (t :: ts)) : peek src brackets c = some (.ok (some (inside brackets t),c)) :=
  peek_eq here

theorem advance_nil (here : At src c brackets []) : advance src c = some (.ok (none,c)) := by
  rw [advance,bind_ok (current_eq here)]
  rfl

theorem advance_cons (here : At src c brackets (t :: ts)) : advance src c = some (.ok (some (inside brackets t),c.past t)) := by
  rw [advance,bind_ok (current_eq here)]
  rfl

theorem passOver_eq (here : At src c brackets ts) (m : Scanned) : passOver src m c = some (.ok ((),c)) := by
  unfold passOver
  rw [if_neg (by simp [here.lenient])]
  rfl

theorem next_cons (here : At src c brackets (t :: ts)) :
    next src brackets c = some (.ok (some (inside brackets t),c.past t)) := by
  rw [next,bind_ok (advance_cons here),bind_ok agree_inside]
  rfl

end Places

-- The descent is at tokens that the builder has yet to take, and the builder comes to the result.
structure Reads (result : Except Fault Node) (src : Source) (c : Cursor) (brackets : Nat) (ts : List Token) (d : Draft)
    (frames : List Frame) (focus : Focus) : Prop where
  here : At src c brackets ts
  run : result = Builder.run src.limit ⟨c.stop,d,frames,focus⟩ src.eof ts
  depth : c.depth = frames.length + focus.depth

section Atoms

variable {t : Token} {ts : List Token} {d d' : Draft} {frames frames' : List Frame} {focus focus' : Focus}

theorem Reads.step (reads : Reads result src c brackets (t :: ts) d frames focus)
    (stepped : Builder.step src.limit ⟨c.stop,d,frames,focus⟩ t ts src.eof = .ok ⟨t.stop,d',frames',focus'⟩)
    (depth : c.depth = frames'.length + focus'.depth) :
    Reads result src (c.past t) (depthAfter brackets t.kind) ts d' frames' focus' := by
  refine ⟨reads.here.past,?_,depth⟩
  rw [reads.run,Builder.run,stepped]
  rfl

theorem Reads.fails {f : Fault} (reads : Reads result src c brackets (t :: ts) d frames focus)
    (stepped : Builder.step src.limit ⟨c.stop,d,frames,focus⟩ t ts src.eof = .error f) : result = .error f := by
  rw [reads.run,Builder.run,stepped]

-- A token that goes one level in, where there is room for it.
theorem Reads.enters (reads : Reads result src c brackets (t :: ts) d frames focus)
    (stepped : Builder.step src.limit ⟨c.stop,d,frames,focus⟩ t ts src.eof =
      (Builder.enter src.limit ⟨c.stop,d,frames,focus⟩ t).map fun _ => ⟨t.stop,d',frames',focus'⟩)
    (deeper : frames'.length + focus'.depth = frames.length + focus.depth + 1) :
    (src.limit < (c.past t).depth + 1 → result = .error ⟨t.pos,.tooDeep src.limit⟩) ∧
      ((c.past t).depth + 1 ≤ src.limit → Reads result src {c.past t with depth := (c.past t).depth + 1}
        (depthAfter brackets t.kind) ts d' frames' focus') := by
  have depth : c.depth = frames.length + focus.depth := reads.depth
  constructor
  · intro full
    refine reads.fails ?_
    rw [stepped,Builder.enter,if_pos (by rw [Builder.depth,← depth]; exact full)]
    rfl
  · intro room
    refine ⟨reads.here.past.at_depth _,?_,?_⟩
    · have entered : Builder.enter src.limit ⟨c.stop,d,frames,focus⟩ t = .ok () :=
        Builder.enter_eq_ok_iff.mpr (by rw [Builder.depth,← depth]; exact room)
      rw [reads.run,Builder.run,stepped,entered]
      rfl
    · rw [deeper,← depth]
      rfl

theorem atomAt_past (kind : AtomKind) : atomAt t kind (c.past t) = some (.ok (atomOf t kind,c.past t)) := rfl

def atomKinds : List Kind :=
  [.char,.escaped,.scalar,.namedChar,.property,.posix,.control,.metaKey,.metaControl,.backRef,.subpatternCall,
    .builtinClass,.assertion]

theorem atomKind_expected (atomic : t.kind ∈ atomKinds) {cause : Cause} (failed : atomKind t = .error cause)
    (lexeme : List Char) : cause ≠ .unexpected lexeme := by
  rintro rfl
  obtain ⟨kind,x,pos⟩ := t
  simp only [atomKinds,List.mem_cons,List.not_mem_nil,or_false] at atomic
  obtain rfl | rfl | rfl | rfl | rfl | rfl | rfl | rfl | rfl | rfl | rfl | rfl | rfl := atomic
  all_goals
    simp only [atomKind] at failed
    grind

theorem checked_atomKind (lexed : Token.Lexed (modeAt brackets) t) :
    checked (checkedAtomKind t) c = some (.ok (atomKind t,c)) := by
  rw [checkedAtomKind_eq lexed.fits]
  rfl

theorem atom_cases (lexed : Token.Lexed (modeAt brackets) t) (atomic : t.kind ∈ atomKinds) :
    (∃ a, readAtom t = .ok a ∧ atom t (c.past t) = some (.ok (a,c.past t))) ∨
      ∃ cause, readAtom t = .error cause ∧ (∀ lexeme, cause ≠ .unexpected lexeme) ∧
        atom t (c.past t) = some (.error (.fault ⟨t.pos,cause⟩)) := by
  rw [atom,bind_ok (checked_atomKind lexed),readAtom]
  cases read : atomKind t with
  | ok kind => exact .inl ⟨atomOf t kind,rfl,rfl⟩
  | error cause =>
    have expected := atomKind_expected atomic read
    refine .inr ⟨cause,rfl,expected,?_⟩
    cases cause with
    | unexpected lexeme => exact absurd rfl (expected lexeme)
    | _ => rfl

theorem rangeEnd_cases (lexed : Token.Lexed (modeAt brackets) t) :
    (∃ a, readAtom t = .ok a ∧ rangeEnd t (c.past t) = some (.ok (a,c.past t))) ∨
      ∃ cause, readAtom t = .error cause ∧
        rangeEnd t (c.past t) = some (.error (.fault ⟨t.pos,.invalidRangeEnd t.lexeme⟩)) := by
  rw [rangeEnd,bind_ok (checked_atomKind lexed),readAtom]
  cases read : atomKind t with
  | ok kind => exact .inl ⟨atomOf t kind,rfl,rfl⟩
  | error cause => exact .inr ⟨cause,rfl,rfl⟩

end Atoms

section Classes

variable {t : Token} {ts : List Token} {d : Draft} {frames : List Frame} {opening : Token} {left : Option LeftOperand}
  {ms : List Member} {cd cd' : ClassDraft} {outer : List ClassDraft}

-- Where a finished class goes: into the class around it, or into the draft.
def placeClass (d : Draft) (span : Span) (inverted : Bool) (ms : List Member) : List ClassDraft → Draft × Focus
  | [] => (d.push (.customClass span inverted ms),.expression)
  | around :: outer => (d,.brackets (around.push (.customClass span inverted ms)) outer)

def ClassRead (result : Except Fault Node) (src : Source) (ts : List Token) : Prop :=
  ∀ {brackets : Nat} {c : Cursor} {t : Token} {d : Draft} {frames : List Frame} {outer : List ClassDraft},
    (src.limit < c.depth + 1 → result = .error ⟨t.pos,.tooDeep src.limit⟩) →
    (c.depth + 1 ≤ src.limit →
      Reads result src {c with depth := c.depth + 1} (brackets + 1) ts d frames (.brackets (.new t) outer)) →
    Leads result (customClass src (brackets + 1) (inside brackets t)) c fun n c' => ∃ us span ms,
      n = .customClass span (t.lexeme == ['[','^']) ms ∧ span.start = t.pos ∧ us.length < ts.length ∧
      Reads result src c' brackets us (placeClass d span (t.lexeme == ['[','^']) ms outer).1 frames
        (placeClass d span (t.lexeme == ['[','^']) ms outer).2

theorem Reads.takes (reads : Reads result src c brackets (t :: ts) d frames (.brackets cd outer))
    (kept : depthAfter brackets t.kind = brackets)
    (stepped : Builder.stepBrackets src.limit ⟨c.stop,d,frames,.brackets cd outer⟩ cd outer t ts =
      .ok ⟨c.stop,d,frames,.brackets cd' outer⟩) :
    Reads result src (c.past t) brackets ts d frames (.brackets cd' outer) := by
  have step : Builder.step src.limit ⟨c.stop,d,frames,.brackets cd outer⟩ t ts src.eof =
      .ok ⟨t.stop,d,frames,.brackets cd' outer⟩ := by
    rw [Builder.step_brackets,stepped]
    rfl
  have further := reads.step step reads.depth
  rwa [kept] at further

theorem Reads.refuses {f : Fault} (reads : Reads result src c brackets (t :: ts) d frames (.brackets cd outer))
    (stepped : Builder.stepBrackets src.limit ⟨c.stop,d,frames,.brackets cd outer⟩ cd outer t ts = .error f) :
    result = .error f := by
  refine reads.fails ?_
  rw [Builder.step_brackets,stepped]
  rfl

theorem atomic_in_brackets (lexed : Token.Lexed .brackets t)
    (other : t.kind ∉ [Kind.classOpen,.classClose,.setOp,.quote,.dash]) : t.kind ∈ atomKinds := by
  have split : ∀ kind ∈ Token.Mode.brackets.rules.map Token.Rule.kind,
      kind ∉ [Kind.classOpen,.classClose,.setOp,.quote,.dash] → kind ∈ atomKinds := by decide
  exact split _ lexed.kind other

theorem depthAfter_atom {kind : Kind} (atomic : kind ∈ atomKinds) : depthAfter brackets kind = brackets := by
  have neither : ∀ kind ∈ atomKinds, kind ≠ .classOpen ∧ kind ≠ .classClose := by decide
  obtain ⟨notOpen,notClose⟩ := neither kind atomic
  unfold depthAfter
  split
  · contradiction
  · contradiction
  · rfl

theorem kind_of_readAtom {a : Atom} (read : readAtom t = .ok a) : t.kind ∈ atomKinds := by
  obtain ⟨kind,x,pos⟩ := t
  cases kind
  case char | escaped | scalar | namedChar | property | posix | control | metaKey | metaControl | backRef | subpatternCall |
    builtinClass | assertion => simp [atomKinds]
  all_goals cases read

theorem rangeFrom_single {lo : Atom} {expected : Member → Cursor → Prop} (here : At src c brackets ts)
    (alone : Builder.rangeFollows ts = false) (reached : expected (.atom lo) c) :
    Leads result (rangeFrom src brackets t lo) c expected := by
  unfold rangeFrom
  cases ts with
  | nil => exact .run (peek_nil here) (.pure reached)
  | cons u us =>
    refine .run (peek_cons here) ?_
    split
    · rename_i isDash
      refine .run (lookahead_cons here) ?_
      split
      case h_4 =>
        rename_i notClose notOp follows
        cases us with
        | nil => cases follows
        | cons v vs => simp_all [Builder.rangeFollows,kindOf]
      all_goals exact .pure reached
    · exact .pure reached

theorem rangeFrom_leads {lo : Atom} (reads : Reads result src c (brackets + 1) (t :: ts) d frames (.brackets cd outer))
    (idle : cd.range = .idle) (read : readAtom t = .ok lo) :
    Leads result (rangeFrom src (brackets + 1) t lo) (c.past t) fun m c' => ∃ us, us.length ≤ ts.length ∧
      Reads result src c' (brackets + 1) us d frames (.brackets (cd.push m) outer) := by
  have kept {u : Token} {a : Atom} (read : readAtom u = .ok a) : depthAfter (brackets + 1) u.kind = brackets + 1 :=
    depthAfter_atom (kind_of_readAtom read)
  have stepped : Builder.stepBrackets src.limit ⟨c.stop,d,frames,.brackets cd outer⟩ cd outer t ts = .ok ⟨c.stop,d,frames,
      .brackets (if Builder.rangeFollows ts then {cd with range := .low lo} else cd.push (.atom lo)) outer⟩ :=
    Builder.stepBrackets_atom idle read
  cases follows : Builder.rangeFollows ts with
  | false =>
    have here := reads.here.past
    rw [kept read] at here
    rw [follows] at stepped
    exact rangeFrom_single here follows ⟨ts,le_rfl,reads.takes (kept read) stepped⟩
  | true =>
    rw [follows] at stepped
    have low := reads.takes (kept read) stepped
    obtain ⟨dash,last,rest,rfl,isDash,notClose,notOp⟩ := Builder.rangeFollows_iff.mp follows
    have dashed : Reads result src ((c.past t).past dash) (brackets + 1) (last :: rest) d frames
        (.brackets {cd with range := .dashed lo} outer) := low.takes (by rw [isDash]; rfl) rfl
    unfold rangeFrom
    refine .run (peek_cons low.here) ?_
    simp only [kindOf,inside,Option.map,isDash]
    refine .run (lookahead_cons low.here) ?_
    simp only [List.head?_cons,Option.map]
    split
    case h_4 =>
      refine .run (next_cons low.here) (.run (next_cons dashed.here) ?_)
      obtain ⟨hi,readHi,ran⟩ | ⟨cause,failed,ran⟩ := rangeEnd_cases (c := (c.past t).past dash) dashed.here.lexed
      · refine .run ran (.run rfl (.pure ⟨rest,by simp; omega,dashed.takes (kept readHi) ?_⟩))
        obtain ⟨kind,_,rfl⟩ := readAtom_eq_ok_iff.mp read
        simp only [Builder.stepBrackets,readHi]
        rfl
      · refine .stop (bind_error ran) (dashed.refuses ?_) fun _ => Cause.noConfusion
        simp only [Builder.stepBrackets,failed]
    all_goals simp_all

theorem member_leads (nested : ClassRead result src ts)
    (reads : Reads result src c (brackets + 1) (t :: ts) d frames (.brackets cd outer)) (idle : cd.range = .idle)
    (more : t.kind ≠ .classClose ∧ t.kind ≠ .setOp) :
    Leads result (member src (brackets + 1)) c fun m c' => ∃ us, us.length ≤ ts.length ∧
      Reads result src c' (brackets + 1) us d frames (.brackets (cd.push m) outer) := by
  rw [member]
  refine .run (next_cons reads.here) ?_
  dsimp only [inside]
  split
  · rename_i kind
    have stepped : Builder.step src.limit ⟨c.stop,d,frames,.brackets cd outer⟩ t ts src.eof =
        (Builder.enter src.limit ⟨c.stop,d,frames,.brackets cd outer⟩ t).map fun _ =>
          ⟨t.stop,d,frames,.brackets (.new t) (cd :: outer)⟩ := by
      rw [Builder.step_brackets]
      simp only [Builder.stepBrackets,idle,kind]
      cases Builder.enter src.limit ⟨c.stop,d,frames,.brackets cd outer⟩ t
      all_goals rfl
    have opens := reads.enters stepped rfl
    rw [kind] at opens
    refine .bind (nested opens.1 opens.2) ?_
    rintro _ c' ⟨us,span,members,rfl,_,shorter,further⟩
    exact .pure ⟨us,shorter.le,further⟩
  · rename_i kind
    refine .run rfl (.pure ⟨ts,le_rfl,reads.takes (by rw [kind]; rfl) ?_⟩)
    simp only [Builder.stepBrackets,idle,kind]
    rfl
  · rename_i kind
    refine .run (atomAt_past _) (.pure ⟨ts,le_rfl,reads.takes (by rw [kind]; rfl) ?_⟩)
    simp only [Builder.stepBrackets,idle,kind]
  · rename_i notOpen notQuote notDash
    have atomic : t.kind ∈ atomKinds := atomic_in_brackets reads.here.lexed (by simp_all)
    obtain ⟨lo,read,ran⟩ | ⟨cause,failed,known,ran⟩ := atom_cases (c := c) reads.here.lexed atomic
    · exact .run ran (rangeFrom_leads reads idle read)
    · refine .stop (bind_error ran) (reads.refuses ?_) known
      simp only [Builder.stepBrackets,idle]
      split
      case h_6 => rw [failed]
      all_goals simp_all

-- The members of an operand, up to the token that ends it. Every member takes a token at least.
theorem members_leads (nested : ∀ us : List Token, us.length < ts.length → ClassRead result src us)
    (reads : Reads result src c (brackets + 1) ts d frames (.brackets ⟨opening,left,ms.reverse,.idle⟩ outer)) :
    Leads result (members src (brackets + 1) opening ms) c fun ms' c' => ∃ u us, us.length < ts.length ∧
      (u.kind = .classClose ∨ u.kind = .setOp) ∧
      Reads result src c' (brackets + 1) (u :: us) d frames (.brackets ⟨opening,left,ms'.reverse,.idle⟩ outer) := by
  induction size : ts.length using Nat.strong_induction_on generalizing ts c ms with
  | h n ih =>
    subst size
    rw [members]
    cases ts with
    | nil => exact .run (peek_nil reads.here) (.stop rfl reads.run fun _ => Cause.noConfusion)
    | cons t ts =>
      refine .run (peek_cons reads.here) ?_
      dsimp only [kindOf,Option.map,inside_token]
      split
      · rename_i none
        cases none
      · rename_i close
        exact .pure ⟨t,ts,Nat.lt_succ_self _,.inl (Option.some.inj close),reads⟩
      · rename_i op
        exact .pure ⟨t,ts,Nat.lt_succ_self _,.inr (Option.some.inj op),reads⟩
      · rename_i notClose notOp same
        cases same
        refine .bind (member_leads (nested ts (Nat.lt_succ_self _)) reads rfl ⟨notClose,notOp⟩) ?_
        rintro m c' ⟨us,shorter,further⟩
        have less : us.length < (t :: ts).length := Nat.lt_succ_of_le shorter
        have again : Reads result src c' (brackets + 1) us d frames
            (.brackets ⟨opening,left,(ms ++ [m]).reverse,.idle⟩ outer) := by
          rw [List.reverse_concat]
          exact further
        refine .imp (ih _ less (fun vs smaller => nested vs (smaller.trans less)) again rfl) ?_
        rintro ms' c'' ⟨v,vs,smaller,ends,last⟩
        exact ⟨v,vs,smaller.trans less,ends,last⟩

theorem Reads.operates (reads : Reads result src c (brackets + 1) (t :: ts) d frames (.brackets cd outer))
    (idle : cd.range = .idle) (kind : t.kind = .setOp) :
    Reads result src (c.past t) (brackets + 1) ts d frames (.brackets (cd.operate c.stop t) outer) := by
  refine reads.takes (by rw [kind]; rfl) ?_
  simp only [Builder.stepBrackets,idle,kind]

theorem operations_leads (nested : ∀ us : List Token, us.length < ts.length → ClassRead result src us)
    (reads : Reads result src c (brackets + 1) (t :: ts) d frames (.brackets cd outer)) (idle : cd.range = .idle)
    (opened : cd.opening = opening) (ends : t.kind = .classClose ∨ t.kind = .setOp) (operand : cd.operand c.stop = ms) :
    Leads result (operations src (brackets + 1) opening ms) c fun ms' c' => ∃ u us cd', us.length ≤ ts.length ∧
      u.kind = .classClose ∧ cd'.range = .idle ∧ cd'.opening = opening ∧ cd'.operand c'.stop = ms' ∧
      Reads result src c' (brackets + 1) (u :: us) d frames (.brackets cd' outer) := by
  induction size : ts.length using Nat.strong_induction_on generalizing t ts c cd ms with
  | h n ih =>
    subst size
    rw [operations]
    refine .run (peek_cons reads.here) ?_
    dsimp only [kindOf,Option.map,inside_token]
    obtain close | op := ends
    · simp only [close]
      exact .pure ⟨t,ts,cd,le_rfl,close,idle,opened,operand,reads⟩
    · simp only [op]
      refine .run (next_cons reads.here) ?_
      have right := reads.operates idle op
      obtain ⟨_,left,before,_⟩ := cd
      obtain rfl := idle
      obtain rfl := opened
      have start : Reads result src (c.past t) (brackets + 1) ts d frames
        (.brackets ⟨_,some _,([] : List Member).reverse,.idle⟩ outer) := right
      refine .bind (members_leads nested start) ?_
      rintro rhs c' ⟨u,us,shorter,ends,further⟩
      refine .run rfl (.imp (ih _ shorter (fun vs smaller => nested vs (smaller.trans shorter)) further rfl rfl ends ?_ rfl) ?_)
      · subst operand
        simp only [ClassDraft.operand,List.reverse_reverse]
        rfl
      · rintro ms' c'' ⟨v,vs,cd',smaller,close,idle,opened,operand,last⟩
        exact ⟨v,vs,cd',smaller.trans shorter.le,close,idle,opened,operand,last⟩

theorem Reads.closes (reads : Reads result src c (brackets + 1) (t :: ts) d frames (.brackets cd outer))
    (idle : cd.range = .idle) (kind : t.kind = .classClose) :
    Reads result src {c.past t with depth := (c.past t).depth - 1} brackets ts
      (placeClass d ⟨cd.opening.pos,t.stop⟩ cd.inverted (cd.operand c.stop) outer).1 frames
      (placeClass d ⟨cd.opening.pos,t.stop⟩ cd.inverted (cd.operand c.stop) outer).2 := by
  have here := reads.here.past
  rw [kind] at here
  have depth : c.depth = frames.length + (outer.length + 1) := reads.depth
  refine ⟨here.at_depth _,?_,?_⟩
  · rw [reads.run,Builder.run,Builder.step_brackets]
    simp only [Builder.stepBrackets,idle,kind]
    cases outer with
    | nil => rfl
    | cons around outer => rfl
  · cases outer with
    | nil => simp [Cursor.past,depth,placeClass,Focus.depth]
    | cons around outer => simp [Cursor.past,depth,placeClass,Focus.depth]

theorem customClass_leads (ts : List Token) : ClassRead result src ts := by
  induction size : ts.length using Nat.strong_induction_on generalizing ts with
  | h n ih =>
    subst size
    intro brackets c t d frames outer full room
    have nested : ∀ us : List Token, us.length < ts.length → ClassRead result src us := fun us smaller => ih _ smaller us rfl
    rw [customClass]
    refine .enter full fun enough => ?_
    have start : Reads result src {c with depth := c.depth + 1} (brackets + 1) ts d frames
      (.brackets ⟨t,none,([] : List Member).reverse,.idle⟩ outer) := room enough
    refine .bind (members_leads nested start) ?_
    rintro lhs c₁ ⟨u,us,shorter,ends,first⟩
    refine .bind (operations_leads (fun vs smaller => nested vs (smaller.trans shorter)) first rfl rfl ends
      (List.reverse_reverse lhs)) ?_
    rintro ms c₂ ⟨v,vs,cd,smaller,close,idle,rfl,rfl,last⟩
    have matching : (inside (brackets + 1) v).token.kind = .classClose ∧
        (inside (brackets + 1) v).outer = (inside brackets cd.opening).mode :: (inside brackets cd.opening).outer :=
      ⟨close,Token.stackAt_cons brackets⟩
    refine .run (next_cons last.here) ?_
    dsimp only
    rw [if_pos matching]
    exact .run rfl (.run rfl (.pure ⟨vs,_,_,rfl,rfl,by omega,last.closes idle close⟩))

end Classes

end LexPattern.Surface.Descent
