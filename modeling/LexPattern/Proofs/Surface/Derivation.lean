import Mathlib
import LexPattern.Proofs.Surface.Natural
import LexPattern.Proofs.Surface.Reading

namespace LexPattern.Surface

open Text (Position Span)

section Reads

inductive BranchesRead (eof : Position) (room : Nat) : List Node → List Token → List Token → Prop where
  | none : BranchesRead eof room [] [] rest
  | some (derived : Derives eof room (.branches ns) ts (bar :: rest)) (kind : bar.kind = .alt) :
      BranchesRead eof room ns.reverse (ts ++ [bar]) rest

-- What a draft holds is derived from `ts`, when `rest` follows.
structure Draft.Reads (eof : Position) (room : Nat) (d : Draft) (ts rest : List Token) : Prop where
  start : d.start = firstPos eof (ts ++ rest)
  parts : ∃ us vs, ts = us ++ vs ∧ d.branchStart = firstPos eof (vs ++ rest) ∧
    BranchesRead eof room d.branches us (vs ++ rest) ∧ Derives eof room (.items d.items.reverse) vs rest

-- The drafts that open parentheses interrupted, with the tokens of each and the parentheses between them.
inductive FramesRead (eof : Position) : Nat → List Frame → Draft → List Token → List Token → Prop where
  | bottom (read : d.Reads eof room ts rest) : FramesRead eof room [] d ts rest
  | frame (outside : FramesRead eof (room + 1) frames outer ts (front ++ us ++ rest)) (opens : Opens front enclosure)
      (place : opening.pos = firstPos eof front) (read : d.Reads eof room us rest) :
      FramesRead eof room (⟨opening,enclosure,outer⟩ :: frames) d (ts ++ front ++ us) rest

inductive LeftRead (eof : Position) (room : Nat) : Option LeftOperand → List Token → List Token → Prop where
  | none : LeftRead eof room none [] rest
  | some (derived : Derives eof room (.operation ms) ts (op :: rest)) (kind : op.kind = .setOp) :
      LeftRead eof room (some ⟨firstPos eof (ts ++ [op]),ms,readSetOp op.lexeme⟩) (ts ++ [op]) rest

inductive RangeState.Reads : RangeState → List Token → List Token → Prop where
  | idle : Reads .idle [] rest
  | low (read : readAtom t = .ok lo) (opens : DashOpensRange rest) : Reads (.low lo) [t] rest
  | dashed (read : readAtom t = .ok lo) (kind : dash.kind = .dash) : Reads (.dashed lo) [t,dash] rest

def ClassDraft.Reads (eof : Position) (room : Nat) (c : ClassDraft) (ts rest : List Token) : Prop :=
  ∃ us vs ws, ts = us ++ vs ++ ws ∧ LeftRead eof room c.left us (vs ++ ws ++ rest) ∧
    Derives eof room (.members c.members.reverse) vs (ws ++ rest) ∧ c.range.Reads ws rest

-- A class and the classes around it.
inductive ClassesRead (eof : Position) : Nat → ClassDraft → List ClassDraft → List Token → List Token → Prop where
  | outermost (kind : c.opening.kind = .classOpen) (read : c.Reads eof room ts rest) :
      ClassesRead eof room c [] (c.opening :: ts) rest
  | within (outside : ClassesRead eof (room + 1) around outer ts (c.opening :: us ++ rest)) (idle : around.range = .idle)
      (kind : c.opening.kind = .classOpen) (read : c.Reads eof room us rest) :
      ClassesRead eof room c (around :: outer) (ts ++ c.opening :: us) rest

inductive FocusRead (eof : Position) : Nat → Focus → List Token → List Token → Prop where
  | expression : FocusRead eof room .expression [] rest
  | condition (kind : opening.kind = .condOpen) (inside : ∀ t ∈ ts, t.kind ≠ .groupClose) :
      FocusRead eof (room + 1) (.condition opening (ts.flatMap Token.lexeme)) (opening :: ts) rest
  | brackets (read : ClassesRead eof room c outer ts rest) :
      FocusRead eof (room + (outer.length + 1)) (.brackets c outer) ts rest

-- Everything in a builder is derived from the tokens that it has taken.
def Builder.Reads (limit : Nat) (eof : Position) (b : Builder) (ts rest : List Token) : Prop :=
  ∃ room us vs, ts = us ++ vs ∧ b.frames.length + room = limit ∧ FramesRead eof room b.frames b.draft us (vs ++ rest) ∧
    FocusRead eof room b.focus vs rest ∧ ∃ before, b.stop = lastStop before ts

end Reads

variable {eof start : Position} {limit room : Nat} {t : Token} {ts us rest : List Token} {n : Node} {m : Member}

section Drafts

theorem Derives.last_item {ns : List Node} (derived : Derives eof room (.items (ns ++ [n])) ts rest) :
    ∃ us vs, ts = us ++ vs ∧ Derives eof room (.items ns) us (vs ++ rest) ∧ Derives eof room (.item n) vs rest := by
  generalize shape : Phrase.items (ns ++ [n]) = phrase at derived
  cases derived with
  | noItem => simp at shape
  | nextItem before next =>
    obtain ⟨same,single⟩ := List.append_inj' (Phrase.items.inj shape) rfl
    cases same
    cases single
    exact ⟨_,_,rfl,before,next⟩
  | _ => cases shape

namespace Draft.Reads

variable {d : Draft}

theorem new : (Draft.new (firstPos eof rest)).Reads eof room [] rest := ⟨rfl,[],[],rfl,rfl,.none,.noItem⟩

theorem push (read : d.Reads eof room ts (us ++ rest)) (next : Derives eof room (.item n) us rest) :
    (d.push n).Reads eof room (ts ++ us) rest := by
  obtain ⟨start,before,vs,rfl,branchStart,branches,items⟩ := read
  refine ⟨?_,before,vs ++ us,by simp,?_,?_,?_⟩
  · simpa [Draft.push] using start
  · simpa [Draft.push] using branchStart
  · simpa [Draft.push] using branches
  · simpa [Draft.push] using items.nextItem next

theorem quantify {q : Token} {items : List Node} (read : d.Reads eof room ts (q :: rest))
    (kind : q.kind = .quant ∨ q.kind = .count) (shape : d.items = n :: items) :
    Draft.Reads eof room {d with items := (.quantification ⟨n.span.start,q.stop⟩ (readAmount q.lexeme).1
      (readGreed (readAmount q.lexeme).2) n) :: items} (ts ++ [q]) rest := by
  obtain ⟨start,before,vs,rfl,branchStart,branches,derived⟩ := read
  rw [shape,List.reverse_cons] at derived
  obtain ⟨ws,xs,rfl,earlier,inner⟩ := derived.last_item
  have repeated := inner.quantified kind
  have span : n.span.start = firstPos eof (xs ++ q :: rest) := congrArg Span.start inner.spans.2
  rw [stretch_snoc,← span] at repeated
  refine ⟨?_,before,ws ++ xs ++ [q],by simp,?_,?_,?_⟩
  · simpa using start
  · simpa using branchStart
  · simpa using branches
  · rw [List.reverse_cons,List.append_assoc]
    exact .nextItem (by simpa using earlier) repeated

theorem branches (read : d.Reads eof room ts rest) (before : Position) :
    Derives eof room (.branches (d.branch (lastStop before ts) :: d.branches).reverse) ts rest := by
  obtain ⟨_,us,vs,rfl,branchStart,branches,items⟩ := read
  have current : Derives eof room (.branch (d.branch (lastStop (lastStop before us) vs))) vs rest := by
    rw [branch_eq_sequence items (List.reverse_reverse _) branchStart]
    exact .branch items
  rw [lastStop_append,List.reverse_cons]
  generalize d.branches = finished at branches
  cases branches with
  | none => exact .firstBranch current
  | some derived kind =>
    rw [List.reverse_reverse,List.append_assoc]
    exact .nextBranch derived kind current

theorem split {bar : Token} (read : d.Reads eof room ts (bar :: rest)) (kind : bar.kind = .alt) (before : Position) :
    (d.split (lastStop before ts) (firstPos eof rest)).Reads eof room (ts ++ [bar]) rest := by
  refine ⟨?_,ts ++ [bar],[],by simp,rfl,?_,.noItem⟩
  · simpa [Draft.split] using read.start
  · have finished := BranchesRead.some (read.branches before) kind
    rwa [List.reverse_reverse] at finished

theorem finish (read : d.Reads eof room ts rest) (before : Position) :
    Derives eof room (.expression (d.finish (lastStop before ts))) ts rest := by
  rw [finish_eq_choice (read.branches before) (List.reverse_reverse _).symm read.start]
  exact .expression (read.branches before)

end Draft.Reads

namespace FramesRead

variable {d d' : Draft} {frames : List Frame}

-- Only the draft in front changes when more tokens are taken for it.
theorem extend (read : FramesRead eof room frames d ts (us ++ rest))
    (more : ∀ earlier vs, ts = earlier ++ vs → d.Reads eof room vs (us ++ rest) → d'.Reads eof room (vs ++ us) rest) :
    FramesRead eof room frames d' (ts ++ us) rest := by
  cases read with
  | bottom read => exact .bottom (more [] _ rfl read)
  | frame outside opens place read =>
    rw [List.append_assoc]
    exact .frame (by simpa using outside) opens place (more _ _ rfl read)

theorem push (read : FramesRead eof room frames d ts (us ++ rest)) (next : Derives eof room (.item n) us rest) :
    FramesRead eof room frames (d.push n) (ts ++ us) rest := read.extend fun _ _ _ read => read.push next

theorem enter {opening : Token} {enclosure : Enclosure} {front : List Token}
    (read : FramesRead eof (room + 1) frames d ts (front ++ rest)) (opens : Opens front enclosure)
    (place : opening.pos = firstPos eof front) :
    FramesRead eof room (⟨opening,enclosure,d⟩ :: frames) (.new (firstPos eof rest)) (ts ++ front) rest := by
  have opened : FramesRead eof room (⟨opening,enclosure,d⟩ :: frames) (.new (firstPos eof rest)) (ts ++ front ++ []) rest :=
    .frame (by simpa using read) opens place .new
  simpa using opened

theorem close {opening close : Token} {enclosure : Enclosure} {outer : Draft}
    (read : FramesRead eof room (⟨opening,enclosure,outer⟩ :: frames) d ts (close :: rest))
    (kind : close.kind = .groupClose) (before : Position) : FramesRead eof (room + 1) frames
      (outer.push (enclosure.close ⟨opening.pos,close.stop⟩ (d.finish (lastStop before ts)))) (ts ++ [close]) rest := by
  cases read with
  | frame outside opens place read =>
    rename_i ts front us
    have inner := Derives.enclosed opens (read.finish (lastStop before (ts ++ front))) kind
    rw [opens.stretch_eq place,← lastStop_append] at inner
    have around : FramesRead eof (room + 1) frames outer ts (front ++ us ++ [close] ++ rest) := by simpa using outside
    simpa using around.push inner.once

end FramesRead

namespace ClassDraft.Reads

variable {c : ClassDraft}

theorem new : (ClassDraft.new t).Reads eof room [] rest := ⟨[],[],[],rfl,.none,.noMember,.idle⟩

theorem idle_parts (read : c.Reads eof room ts rest) (idle : c.range = .idle) : ∃ us vs, ts = us ++ vs ∧
    LeftRead eof room c.left us (vs ++ rest) ∧ Derives eof room (.members c.members.reverse) vs rest := by
  obtain ⟨us,vs,ws,rfl,left,members,range⟩ := read
  rw [idle] at range
  cases range
  exact ⟨us,vs,by simp,by simpa using left,members⟩

theorem push (read : c.Reads eof room ts (us ++ rest)) (idle : c.range = .idle) (next : Derives eof room (.member m) us rest) :
    (c.push m).Reads eof room (ts ++ us) rest := by
  obtain ⟨before,vs,rfl,left,members⟩ := read.idle_parts idle
  refine ⟨before,vs ++ us,[],by simp,?_,?_,.idle⟩
  · simpa [ClassDraft.push] using left
  · simpa [ClassDraft.push] using members.nextMember next

theorem operand (read : c.Reads eof room ts rest) (idle : c.range = .idle) (before : Position) :
    Derives eof room (.operation (c.operand (lastStop before ts))) ts rest := by
  obtain ⟨us,vs,rfl,left,members⟩ := read.idle_parts idle
  unfold ClassDraft.operand
  generalize c.left = waiting at left
  cases left with
  | none => exact .operand members
  | @some ms ts op _ derived kind =>
    have applied := Derives.operated derived kind members
    have span : stretch eof (ts ++ op :: vs) rest = ⟨firstPos eof (ts ++ [op]),lastStop before (ts ++ [op] ++ vs)⟩ := by
      rw [stretch,lastStop_eq (by simp),List.append_assoc ts [op]]
      cases ts <;> rfl
    rw [span] at applied
    simpa using applied

theorem operate {op : Token} (read : c.Reads eof room ts (op :: rest)) (idle : c.range = .idle) (kind : op.kind = .setOp)
    (before : Position) : (c.operate (lastStop before ts) op).Reads eof room (ts ++ [op]) rest := by
  have derived := read.operand idle before
  have operated : c.operate (lastStop before ts) op = ⟨c.opening,some ⟨firstPos eof (ts ++ op :: rest),
      c.operand (lastStop before ts),readSetOp op.lexeme⟩,[],c.range⟩ := Phrase.Taken.operate_eq rfl derived.spans
  have place : firstPos eof (ts ++ op :: rest) = firstPos eof (ts ++ [op]) := by cases ts <;> rfl
  rw [operated,idle,place]
  exact ⟨ts ++ [op],[],[],by simp,.some derived kind,.noMember,.idle⟩

theorem low {a : Atom} (read : c.Reads eof room ts (t :: rest)) (idle : c.range = .idle) (atom : readAtom t = .ok a)
    (opens : DashOpensRange rest) : ClassDraft.Reads eof room {c with range := .low a} (ts ++ [t]) rest := by
  obtain ⟨us,vs,rfl,left,members⟩ := read.idle_parts idle
  exact ⟨us,vs,[t],by simp,by simpa using left,members,.low atom opens⟩

theorem dashed {a : Atom} (read : c.Reads eof room ts (t :: rest)) (low : c.range = .low a) :
    ClassDraft.Reads eof room {c with range := .dashed a} (ts ++ [t]) rest := by
  obtain ⟨us,vs,ws,rfl,left,members,range⟩ := read
  rw [low] at range
  cases range with
  | @low first _ _ atom opens =>
    obtain ⟨dash,next,more,shape,kind,_⟩ := opens
    cases shape
    exact ⟨us,vs,[first,t],by simp,by simpa using left,by simpa using members,.dashed atom kind⟩

theorem range {lo hi : Atom} (read : c.Reads eof room ts (t :: rest)) (dashed : c.range = .dashed lo)
    (atom : readAtom t = .ok hi) : (c.push (.range ⟨lo.span.start,t.stop⟩ lo hi)).Reads eof room (ts ++ [t]) rest := by
  obtain ⟨us,vs,ws,rfl,left,members,range⟩ := read
  rw [dashed] at range
  cases range with
  | @dashed first _ dash _ readFirst kind =>
    obtain ⟨_,_,rfl⟩ := readAtom_eq_ok_iff.mp readFirst
    have before : Derives eof room (.members c.members.reverse) vs ([first,dash,t] ++ rest) := by simpa using members
    refine ⟨us,vs ++ [first,dash,t],[],by simp,?_,?_,.idle⟩
    · simpa [ClassDraft.push] using left
    · rw [ClassDraft.push,List.reverse_cons]
      exact before.nextMember (.range readFirst kind atom)

end ClassDraft.Reads

namespace ClassesRead

variable {c c' : ClassDraft} {outer : List ClassDraft}

theorem extend (read : ClassesRead eof room c outer ts (us ++ rest)) (same : c'.opening = c.opening)
    (more : ∀ earlier vs, ts = earlier ++ vs → c.Reads eof room vs (us ++ rest) → c'.Reads eof room (vs ++ us) rest) :
    ClassesRead eof room c' outer (ts ++ us) rest := by
  cases read with
  | outermost kind read =>
    have longer := more [c.opening] _ rfl read
    rw [← same] at kind ⊢
    exact .outermost kind longer
  | within outside idle kind read =>
    rename_i earlier vs
    have longer := more (earlier ++ [c.opening]) vs (by simp) read
    rw [← same] at kind outside ⊢
    rw [List.append_assoc]
    exact .within (by simpa using outside) idle kind longer

theorem close {close : Token} {around : ClassDraft} (read : ClassesRead eof room c (around :: outer) ts (close :: rest))
    (idle : c.range = .idle) (kind : close.kind = .classClose) (before : Position) :
    ClassesRead eof (room + 1) (around.push (.customClass ⟨c.opening.pos,close.stop⟩ c.inverted
      (c.operand (lastStop before ts)))) outer (ts ++ [close]) rest := by
  cases read with
  | within outside aroundIdle opened read =>
    rename_i ts us
    have inner := Derives.nested opened (read.operand idle (lastStop before (ts ++ [c.opening]))) kind
    rw [stretch_snoc,← lastStop_append,List.append_assoc,List.singleton_append] at inner
    have member : Derives eof (room + 1) (.member (.customClass ⟨c.opening.pos,close.stop⟩ c.inverted
      (c.operand (lastStop before (ts ++ c.opening :: us))))) (c.opening :: us ++ [close]) rest := inner
    have widened : ClassesRead eof (room + 1) around outer ts (c.opening :: us ++ [close] ++ rest) := by
      simpa using outside
    rw [List.append_assoc]
    exact widened.extend rfl fun _ _ _ read => read.push aroundIdle member

theorem derives {close : Token} (read : ClassesRead eof room c [] ts (close :: rest)) (idle : c.range = .idle)
    (kind : close.kind = .classClose) (before : Position) : Derives eof (room + 1) (.atom
      (.customClass ⟨c.opening.pos,close.stop⟩ c.inverted (c.operand (lastStop before ts)))) (ts ++ [close]) rest := by
  cases read with
  | outermost opened read =>
    have inner := Derives.bracketed opened (read.operand idle c.opening.stop) kind
    rwa [stretch_snoc] at inner

end ClassesRead

end Drafts

namespace Builder

open LexPattern.Core (bind_eq_ok)

variable {stop : Position} {d : Draft} {frames : List Frame} {b b' : Builder} {c : ClassDraft} {outer : List ClassDraft}

-- Between two items, everything taken is in the drafts.
theorem Reads.of_frames (count : frames.length + room = limit) (read : FramesRead eof room frames d (ts ++ [t]) rest) :
    Reads limit eof ⟨t.stop,d,frames,.expression⟩ (ts ++ [t]) rest :=
  ⟨room,ts ++ [t],[],by simp,count,by simpa using read,.expression,t.pos,lastStop_snoc.symm⟩

-- Otherwise some of it is kept for what is being read.
theorem Reads.of_focus {focus : Focus} (us : List Token) (count : frames.length + room = limit)
    (outside : FramesRead eof room frames d ts (us ++ t :: rest)) (read : FocusRead eof room focus (us ++ [t]) rest) :
    Reads limit eof ⟨t.stop,d,frames,focus⟩ (ts ++ us ++ [t]) rest :=
  ⟨room,ts,us ++ [t],by simp,count,by simpa using outside,read,t.pos,lastStop_snoc.symm⟩

theorem Reads.new : (Builder.new (firstPos eof rest)).Reads limit eof [] rest :=
  ⟨limit,[],[],rfl,Nat.zero_add limit,.bottom .new,.expression,firstPos eof rest,rfl⟩

theorem enter_room (count : frames.length + room = limit) {u : Unit} {focus : Focus}
    (entered : enter limit ⟨stop,d,frames,focus⟩ t = .ok u) : ∃ less, room = less + (focus.depth + 1) := by
  have bound : frames.length + focus.depth + 1 ≤ limit := enter_eq_ok_iff.mp entered
  exact ⟨room - (focus.depth + 1),by omega⟩

-- A parenthesis opens after its front.
theorem openFrame_reads {opening : Token} {enclosure : Enclosure} (front : List Token)
    (count : frames.length + (room + 1) = limit) (read : FramesRead eof (room + 1) frames d ts (front ++ t :: rest))
    (opens : Opens (front ++ [t]) enclosure) (place : opening.pos = firstPos eof (front ++ [t])) :
    Reads limit eof ⟨t.stop,.new (firstPos eof rest),⟨opening,enclosure,d⟩ :: frames,.expression⟩
      (ts ++ front ++ [t]) rest := by
  have before : FramesRead eof (room + 1) frames d ts (front ++ [t] ++ rest) := by simpa using read
  have entered := before.enter opens place
  rw [← List.append_assoc] at entered
  exact .of_frames (by simp; omega) entered

theorem closeFrame_reads (count : frames.length + room = limit) (read : FramesRead eof room frames d ts (t :: rest))
    (kind : t.kind = .groupClose) (stepped : closeFrame ⟨lastStop start ts,d,frames,.expression⟩ t = .ok b') :
    Reads limit eof {b' with stop := t.stop} (ts ++ [t]) rest := by
  unfold closeFrame at stepped
  dsimp only at stepped
  split at stepped
  · cases stepped
  · rename_i frame frames
    cases stepped
    have bound : frames.length + (room + 1) = limit := by simpa [Nat.add_assoc,Nat.add_comm 1] using count
    exact .of_frames bound (read.close kind start)

theorem quantify_reads (count : frames.length + room = limit) (read : FramesRead eof room frames d ts ([t] ++ rest))
    (kind : t.kind = .quant ∨ t.kind = .count) (stepped : quantify ⟨stop,d,frames,.expression⟩ t = .ok b') :
    Reads limit eof {b' with stop := t.stop} (ts ++ [t]) rest := by
  unfold quantify at stepped
  dsimp only at stepped
  split at stepped
  · cases stepped
  · rename_i item items shape
    cases stepped
    exact .of_frames count (read.extend fun _ _ _ read => read.quantify kind shape)

theorem stepExpression_reads (count : frames.length + room = limit) (read : FramesRead eof room frames d ts ([t] ++ rest))
    (stepped : stepExpression limit ⟨lastStop start ts,d,frames,.expression⟩ t (firstPos eof rest) = .ok b') :
    Reads limit eof {b' with stop := t.stop} (ts ++ [t]) rest := by
  -- A token that opens a parenthesis, with nothing in front of it.
  have opened {room : Nat} {enclosure : Enclosure} (opens : Opens [t] enclosure)
      (count : frames.length + (room + 1) = limit) (read : FramesRead eof (room + 1) frames d ts ([t] ++ rest)) :
      Reads limit eof ⟨t.stop,.new (firstPos eof rest),⟨t,enclosure,d⟩ :: frames,.expression⟩ (ts ++ [t]) rest := by
    have entered := openFrame_reads [] count read opens rfl
    simpa using entered
  unfold stepExpression at stepped
  split at stepped
  · rename_i kind
    obtain ⟨_,entered,result⟩ := bind_eq_ok.mp stepped
    obtain ⟨less,rfl⟩ := enter_room count entered
    cases result
    exact opened (.group kind) count read
  · rename_i kind
    dsimp only at stepped
    split at stepped
    · rename_i closed
      cases stepped
      exact .of_frames count (read.push (.once (.settings kind closed)))
    · rename_i opens
      obtain ⟨_,entered,result⟩ := bind_eq_ok.mp stepped
      obtain ⟨less,rfl⟩ := enter_room count entered
      cases result
      exact opened (.options kind opens) count read
  · rename_i kind
    obtain ⟨_,entered,result⟩ := bind_eq_ok.mp stepped
    obtain ⟨less,rfl⟩ := enter_room count entered
    cases result
    have waiting := Reads.of_focus [] count read (.condition kind (by simp))
    simpa using waiting
  · rename_i kind
    obtain ⟨_,entered,result⟩ := bind_eq_ok.mp stepped
    obtain ⟨less,rfl⟩ := enter_room count entered
    cases result
    exact opened (.absent kind) count read
  · rename_i kind
    obtain ⟨_,entered,result⟩ := bind_eq_ok.mp stepped
    obtain ⟨less,rfl⟩ := enter_room count entered
    cases result
    have inside := Reads.of_focus [] count read (.brackets (.outermost kind .new))
    simpa [openBrackets] using inside
  · rename_i kind
    exact closeFrame_reads count read kind stepped
  · rename_i kind
    cases stepped
    refine .of_frames count (read.extend fun earlier vs parts read => ?_)
    rw [parts,lastStop_append]
    exact read.split kind (lastStop start earlier)
  · rename_i kind
    exact quantify_reads count read (.inl kind) stepped
  · rename_i kind
    exact quantify_reads count read (.inr kind) stepped
  · obtain ⟨n,item,rfl⟩ := map_eq_ok.mp stepped
    exact .of_frames count (read.push (.once (.token item)))

theorem stepCondition_reads {opening : Token} (count : frames.length + (room + 1) = limit)
    (outside : FramesRead eof (room + 1) frames d ts (opening :: us ++ t :: rest)) (kind : opening.kind = .condOpen)
    (inside : ∀ u ∈ us, u.kind ≠ .groupClose) : Reads limit eof
      {stepCondition ⟨stop,d,frames,.condition opening (us.flatMap Token.lexeme)⟩ opening (us.flatMap Token.lexeme) t
        (firstPos eof rest) with stop := t.stop} (ts ++ (opening :: us) ++ [t]) rest := by
  unfold stepCondition
  split
  · rename_i closed
    exact openFrame_reads (opening :: us) count outside (.conditional kind inside closed) rfl
  · rename_i further
    have longer : ∀ u ∈ us ++ [t], u.kind ≠ .groupClose := by
      intro u member
      obtain member | member := List.mem_append.mp member
      · exact inside u member
      · rw [List.mem_singleton.mp member]
        exact further
    have waiting := Reads.of_focus (opening :: us) count outside (.condition kind longer)
    simpa using waiting

theorem closeBrackets_reads (count : frames.length + (room + (outer.length + 1)) = limit)
    (outside : FramesRead eof (room + (outer.length + 1)) frames d ts (us ++ t :: rest))
    (read : ClassesRead eof room c outer us (t :: rest)) (idle : c.range = .idle) (kind : t.kind = .classClose) :
    Reads limit eof {closeBrackets ⟨lastStop start (ts ++ us),d,frames,.brackets c outer⟩ t c outer with stop := t.stop}
      (ts ++ us ++ [t]) rest := by
  unfold closeBrackets
  rw [lastStop_append]
  cases outer with
  | nil =>
    have before : FramesRead eof (room + 1) frames d ts (us ++ [t] ++ rest) := by simpa using outside
    have closed := before.push (.once (read.derives idle kind (lastStop start ts)))
    rw [← List.append_assoc] at closed
    exact .of_frames count closed
  | cons around outer =>
    have levels : room + ((around :: outer).length + 1) = room + 1 + (outer.length + 1) := by simp; omega
    rw [levels] at count outside
    exact .of_focus us count outside (.brackets (read.close idle kind (lastStop start ts)))

theorem stepBrackets_reads (count : frames.length + (room + (outer.length + 1)) = limit)
    (outside : FramesRead eof (room + (outer.length + 1)) frames d ts (us ++ t :: rest))
    (read : ClassesRead eof room c outer us ([t] ++ rest))
    (stepped : stepBrackets limit ⟨lastStop start (ts ++ us),d,frames,.brackets c outer⟩ c outer t rest = .ok b') :
    Reads limit eof {b' with stop := t.stop} (ts ++ us ++ [t]) rest := by
  -- A token that only changes the class in front.
  have put {c' : ClassDraft} (same : c'.opening = c.opening) (more : ∀ earlier vs, us = earlier ++ vs →
      c.Reads eof room vs ([t] ++ rest) → c'.Reads eof room (vs ++ [t]) rest) :
      Reads limit eof ⟨t.stop,d,frames,.brackets c' outer⟩ (ts ++ us ++ [t]) rest :=
    .of_focus us count outside (.brackets (read.extend same more))
  unfold stepBrackets at stepped
  dsimp only at stepped
  split at stepped
  · rename_i lo low
    cases stepped
    exact put rfl fun _ _ _ read => read.dashed low
  · rename_i lo dashed
    split at stepped
    · rename_i hi atom
      cases stepped
      exact put rfl fun _ _ _ read => read.range dashed atom
    · cases stepped
  · rename_i idle
    split at stepped
    · rename_i kind
      obtain ⟨_,entered,result⟩ := bind_eq_ok.mp stepped
      obtain ⟨less,levels⟩ := enter_room count entered
      obtain rfl : room = less + 1 := by simp only [Focus.depth] at levels; omega
      cases result
      have deeper : less + 1 + (outer.length + 1) = less + ((c :: outer).length + 1) := by simp; omega
      rw [deeper] at count outside
      exact .of_focus us count outside (.brackets (.within read idle kind .new))
    · rename_i kind
      cases stepped
      exact closeBrackets_reads count outside read idle kind
    · rename_i kind
      cases stepped
      refine put rfl fun earlier vs parts read => ?_
      rw [parts,← List.append_assoc,lastStop_append]
      exact read.operate idle kind _
    · rename_i kind
      cases stepped
      exact put rfl fun _ _ _ read => read.push idle (.quotation kind)
    · rename_i kind
      cases stepped
      exact put rfl fun _ _ _ read => read.push idle (.dash kind)
    · split at stepped
      · cases stepped
      · rename_i a atom
        split at stepped
        · rename_i follows
          cases stepped
          exact put rfl fun _ _ _ read => read.low idle atom (rangeFollows_iff.mp follows)
        · rename_i ends
          cases stepped
          exact put rfl fun _ _ _ read => read.push idle (.single atom (mt rangeFollows_iff.mpr ends))

theorem step_reads (read : b.Reads limit eof ts (t :: rest)) (stepped : b.step limit t rest eof = .ok b') :
    b'.Reads limit eof (ts ++ [t]) rest := by
  obtain ⟨stop,d,frames,focus⟩ := b
  obtain ⟨room,us,vs,rfl,count,outside,inside,start,ends⟩ := read
  dsimp only at count outside inside ends
  subst ends
  cases inside with
  | expression =>
    rw [step_expression] at stepped
    obtain ⟨after,taken,rfl⟩ := map_eq_ok.mp stepped
    rw [List.append_nil] at taken ⊢
    exact stepExpression_reads count outside taken
  | condition kind inside =>
    rw [step_condition] at stepped
    cases stepped
    exact stepCondition_reads count outside kind inside
  | brackets read =>
    rw [step_brackets] at stepped
    obtain ⟨after,taken,rfl⟩ := map_eq_ok.mp stepped
    exact stepBrackets_reads count outside read taken

theorem finish_reads (read : b.Reads limit eof ts []) (finished : b.finish = .ok n) :
    Derives eof limit (.expression n) ts [] := by
  obtain ⟨stop,d,frames,focus⟩ := b
  obtain ⟨room,us,vs,rfl,count,outside,inside,start,ends⟩ := read
  dsimp only at count outside inside ends
  cases inside with
  | condition kind inside => cases finished
  | brackets read => cases finished
  | expression =>
    rw [List.append_nil] at ends ⊢
    cases outside with
    | frame outside opens place read => cases finished
    | bottom read =>
      cases finished
      obtain rfl : room = limit := by simpa using count
      rw [ends]
      exact read.finish start

theorem run_reads (read : b.Reads limit eof ts us) (finished : b.run limit eof us = .ok n) :
    Derives eof limit (.expression n) (ts ++ us) [] := by
  induction us generalizing b ts with
  | nil =>
    rw [List.append_nil]
    exact finish_reads read finished
  | cons t us ih =>
    rw [run] at finished
    split at finished
    · cases finished
    · rename_i after stepped
      have derived := ih (step_reads read stepped) finished
      rwa [List.append_assoc] at derived

end Builder

theorem derives_of_ofTokens (read : ofTokens limit ts eof = .ok n) : Derives eof limit (.expression n) ts [] := by
  rw [ofTokens_eq] at read
  exact Builder.run_reads Builder.Reads.new read

-- Whatever depth two derivations need, the builder reads both trees under a limit that is enough for both.
theorem Derives.unique {less : Nat} {other : Node} (one : Derives eof room (.expression n) ts [])
    (another : Derives eof less (.expression other) ts []) : n = other := by
  have first := one.ofTokens_eq_ok (Nat.le_max_left room less)
  have second := another.ofTokens_eq_ok (Nat.le_max_right room less)
  rw [first] at second
  exact Except.ok.inj second

-- The builder reads a tree exactly if the grammar derives it within the limit, and the grammar derives at most one.
theorem ofTokens_eq_ok_iff_derives (limit : Nat) (tokens : List Token) (eof : Position) :
    (∀ n, ofTokens limit tokens eof = .ok n ↔ Derives eof limit (.expression n) tokens []) ∧
      {n | ∃ room, Derives eof room (.expression n) tokens []}.Subsingleton := by
  constructor
  · intro n
    exact ⟨derives_of_ofTokens,fun derived => derived.ofTokens_eq_ok le_rfl⟩
  · intro n derived other another
    obtain ⟨_,derived⟩ := derived
    obtain ⟨_,another⟩ := another
    exact derived.unique another

end LexPattern.Surface
