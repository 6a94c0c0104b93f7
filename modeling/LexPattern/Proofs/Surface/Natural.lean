import Mathlib
import LexPattern.Surface.Parser
import LexPattern.Proofs.Core.Meaning

namespace LexPattern.Surface

open LexPattern.Core (bind_eq_ok)
open Text (Position Span)

variable {t : Token} {m : Member} {n : Node} {ms : List Member} {ns : List Node}

theorem map_eq_ok {ε α β : Type} {f : α → β} {outcome : Except ε α} {b : β} :
    outcome.map f = .ok b ↔ ∃ a, outcome = .ok a ∧ f a = b := by
  cases outcome <;> simp [Except.map]

theorem allNatural_iff : AllNatural ms ↔ ∀ m ∈ ms, m.Natural := by
  induction ms with
  | nil => simp [AllNatural]
  | cons m ms ih => simp [AllNatural,ih]

theorem nodesNatural_iff : NodesNatural ns ↔ ∀ n ∈ ns, n.Natural := by
  induction ns with
  | nil => simp [NodesNatural]
  | cons n ns ih => simp [NodesNatural,ih]

section Payload

theorem ofChar_nonneg (c : Char) : 0 ≤ CodePoint.ofChar c := Int.natCast_nonneg _

theorem atomKind_natural {kind : AtomKind} (read : atomKind t = .ok kind) : kind.Natural := by
  unfold atomKind at read
  dsimp only at read
  split at read
  case h_1 | h_2 =>
    split at read
    · cases read
    · cases read
      trivial
  case h_3 =>
    split at read
    · cases read
    · cases read
      trivial
    · cases read
      trivial
  case h_7 | h_8 | h_9 =>
    cases read
    exact ofChar_nonneg _
  case h_14 => cases read
  all_goals
    cases read
    trivial

theorem readAtom_natural {a : Atom} (read : readAtom t = .ok a) : a.kind.Natural := by
  obtain ⟨kind,found,rfl⟩ := map_eq_ok.mp read
  exact atomKind_natural found

theorem readCount_natural {digits : List Char} : ∀ count ∈ readCount digits, 0 ≤ count := by
  intro count found
  unfold readCount at found
  split at found
  · cases found
    exact Int.natCast_nonneg _
  · cases found

theorem readBounds_natural {body : List Char} : (readBounds body).Natural := by
  unfold readBounds
  dsimp only
  split
  · exact readCount_natural
  · split
    · exact readCount_natural
    · split
      · exact readCount_natural
      · exact ⟨readCount_natural,readCount_natural⟩

theorem readAmount_natural {lexeme : List Char} : (readAmount lexeme).1.Natural := by
  unfold readAmount
  split
  · trivial
  · trivial
  · trivial
  · exact readBounds_natural

end Payload

section Drafts

structure Draft.Natural (d : Draft) : Prop where
  branches : ∀ n ∈ d.branches, n.Natural
  items : ∀ n ∈ d.items, n.Natural

def RangeState.Natural : RangeState → Prop
  | idle => True
  | low lo => lo.kind.Natural
  | dashed lo => lo.kind.Natural

structure ClassDraft.Natural (c : ClassDraft) : Prop where
  left : ∀ l ∈ c.left, ∀ m ∈ l.members, m.Natural
  members : ∀ m ∈ c.members, m.Natural
  range : c.range.Natural

def Focus.Natural : Focus → Prop
  | expression => True
  | condition _ _ => True
  | brackets current outer => current.Natural ∧ ∀ c ∈ outer, c.Natural

structure Builder.Natural (b : Builder) : Prop where
  draft : b.draft.Natural
  frames : ∀ f ∈ b.frames, f.outer.Natural
  focus : b.focus.Natural

namespace Draft.Natural

variable {d : Draft} {stop next : Position}

theorem new (start : Position) : (Draft.new start).Natural := ⟨by simp [Draft.new],by simp [Draft.new]⟩

theorem push (natural : d.Natural) (item : n.Natural) : (d.push n).Natural :=
  ⟨natural.branches,List.forall_mem_cons.mpr ⟨item,natural.items⟩⟩

theorem branch (natural : d.Natural) : (d.branch stop).Natural := by
  have items := natural.items
  unfold Draft.branch
  split
  · rw [Node.Natural]
    trivial
  · rename_i item single
    exact items item (by simp [single])
  · rw [Node.Natural,nodesNatural_iff]
    simpa using items

theorem finish (natural : d.Natural) : (d.finish stop).Natural := by
  have branches := natural.branches
  unfold Draft.finish
  split
  · exact natural.branch
  · rw [Node.Natural,nodesNatural_iff]
    intro n member
    exact List.forall_mem_cons.mpr ⟨natural.branch,branches⟩ n (List.mem_reverse.mp member)

theorem split (natural : d.Natural) : (d.split stop next).Natural :=
  ⟨List.forall_mem_cons.mpr ⟨natural.branch,natural.branches⟩,by simp [Draft.split]⟩

end Draft.Natural

namespace ClassDraft.Natural

variable {c : ClassDraft} {stop : Position}

theorem new (opening : Token) : (ClassDraft.new opening).Natural :=
  ⟨by simp [ClassDraft.new],by simp [ClassDraft.new],trivial⟩

theorem push (natural : c.Natural) (member : m.Natural) : (c.push m).Natural :=
  ⟨natural.left,List.forall_mem_cons.mpr ⟨member,natural.members⟩,trivial⟩

theorem operand (natural : c.Natural) : ∀ m ∈ c.operand stop, m.Natural := by
  have members := natural.members
  unfold ClassDraft.operand
  split
  · simpa using members
  · rename_i left waiting
    intro m member
    cases List.mem_singleton.mp member
    rw [Member.Natural,allNatural_iff,allNatural_iff]
    exact ⟨natural.left left waiting,by simpa using members⟩

theorem operate (natural : c.Natural) : (c.operate stop t).Natural := by
  refine ⟨?_,by simp [ClassDraft.operate],natural.range⟩
  rintro _ ⟨⟩
  exact natural.operand

theorem customClass (natural : c.Natural) (span : Span) (stop : Position) :
    (Member.customClass span c.inverted (c.operand stop)).Natural := by
  rw [Member.Natural,allNatural_iff]
  exact natural.operand

end ClassDraft.Natural

end Drafts

namespace Builder

variable {b b' : Builder} {limit : Nat} {next eof : Position}

theorem Natural.push (natural : b.Natural) (item : n.Natural) : (b.push n).Natural :=
  ⟨natural.draft.push item,natural.frames,natural.focus⟩

theorem Natural.openFrame (natural : b.Natural) {enclosure : Enclosure} : (b.openFrame t enclosure next).Natural :=
  ⟨.new next,List.forall_mem_cons.mpr ⟨natural.draft,natural.frames⟩,trivial⟩

theorem quantify_natural (natural : b.Natural) (stepped : b.quantify t = .ok b') : b'.Natural := by
  unfold quantify at stepped
  split at stepped
  · cases stepped
  · rename_i item items shape
    cases stepped
    have all := natural.draft.items
    rw [shape] at all
    obtain ⟨first,others⟩ := List.forall_mem_cons.mp all
    refine ⟨⟨natural.draft.branches,List.forall_mem_cons.mpr ⟨?_,others⟩⟩,natural.frames,natural.focus⟩
    rw [Node.Natural]
    exact ⟨readAmount_natural,first⟩

theorem closeFrame_natural (natural : b.Natural) (stepped : b.closeFrame t = .ok b') : b'.Natural := by
  unfold closeFrame at stepped
  split at stepped
  · cases stepped
  · rename_i frame frames shape
    cases stepped
    have all := natural.frames
    rw [shape] at all
    obtain ⟨outer,others⟩ := List.forall_mem_cons.mp all
    refine ⟨outer.push ?_,others,natural.focus⟩
    have child : (b.draft.finish b.stop).Natural := natural.draft.finish
    cases frame.enclosure with
    | group kind => rwa [Enclosure.close,Node.Natural]
    | absent => rwa [Enclosure.close,Node.Natural]
    | conditional condition => rwa [Enclosure.close,Node.Natural]

theorem Natural.closeBrackets (natural : b.Natural) {c : ClassDraft} {outer : List ClassDraft} (inner : c.Natural)
    (around : ∀ c ∈ outer, c.Natural) : (b.closeBrackets t c outer).Natural := by
  unfold Builder.closeBrackets
  dsimp only
  split
  · refine ⟨natural.draft.push ?_,natural.frames,trivial⟩
    have members := inner.customClass ⟨c.opening.pos,t.stop⟩ b.stop
    rw [Member.Natural] at members
    rwa [Node.Natural]
  · obtain ⟨first,others⟩ := List.forall_mem_cons.mp around
    exact ⟨natural.draft,natural.frames,first.push (inner.customClass _ _),others⟩

theorem item_natural (read : item t = .ok n) : n.Natural := by
  unfold item at read
  dsimp only at read
  split at read
  case h_10 =>
    split at read
    · rename_i a found
      cases read
      rw [Node.Natural]
      exact readAtom_natural found
    · cases read
  all_goals
    cases read
    rw [Node.Natural]
    trivial

theorem stepExpression_natural (natural : b.Natural) (stepped : b.stepExpression limit t next = .ok b') : b'.Natural := by
  unfold stepExpression at stepped
  split at stepped
  · obtain ⟨_,_,result⟩ := bind_eq_ok.mp stepped
    cases result
    exact natural.openFrame
  · dsimp only at stepped
    split at stepped
    · cases stepped
      refine natural.push ?_
      rw [Node.Natural]
      trivial
    · obtain ⟨_,_,result⟩ := bind_eq_ok.mp stepped
      cases result
      exact natural.openFrame
  · obtain ⟨_,_,result⟩ := bind_eq_ok.mp stepped
    cases result
    exact ⟨natural.draft,natural.frames,trivial⟩
  · obtain ⟨_,_,result⟩ := bind_eq_ok.mp stepped
    cases result
    exact natural.openFrame
  · obtain ⟨_,_,result⟩ := bind_eq_ok.mp stepped
    cases result
    exact ⟨natural.draft,natural.frames,.new t,by simp⟩
  · exact closeFrame_natural natural stepped
  · cases stepped
    exact ⟨natural.draft.split,natural.frames,natural.focus⟩
  · exact quantify_natural natural stepped
  · exact quantify_natural natural stepped
  · obtain ⟨n,read,rfl⟩ := map_eq_ok.mp stepped
    exact natural.push (item_natural read)

theorem stepBrackets_natural (natural : b.Natural) {c : ClassDraft} {outer : List ClassDraft} (inner : c.Natural)
    (around : ∀ c ∈ outer, c.Natural) {rest : List Token} (stepped : b.stepBrackets limit c outer t rest = .ok b') :
    b'.Natural := by
  have put : ∀ {c : ClassDraft}, c.Natural → ({b with focus := .brackets c outer} : Builder).Natural :=
    fun inner => ⟨natural.draft,natural.frames,inner,around⟩
  have range := inner.range
  unfold stepBrackets at stepped
  dsimp only at stepped
  split at stepped
  · rename_i lo shape
    cases stepped
    rw [shape] at range
    exact put ⟨inner.left,inner.members,range⟩
  · rename_i lo shape
    rw [shape] at range
    split at stepped
    · rename_i hi read
      cases stepped
      refine put (inner.push ?_)
      rw [Member.Natural]
      exact ⟨range,readAtom_natural read⟩
    · cases stepped
  · split at stepped
    · obtain ⟨_,_,result⟩ := bind_eq_ok.mp stepped
      cases result
      exact ⟨natural.draft,natural.frames,.new t,List.forall_mem_cons.mpr ⟨inner,around⟩⟩
    · cases stepped
      exact natural.closeBrackets inner around
    · cases stepped
      exact put inner.operate
    · cases stepped
      refine put (inner.push ?_)
      rw [Member.Natural]
      trivial
    · cases stepped
      refine put (inner.push ?_)
      rw [Member.Natural]
      trivial
    · split at stepped
      · cases stepped
      · rename_i a read
        split at stepped
        · cases stepped
          exact put ⟨inner.left,inner.members,readAtom_natural read⟩
        · cases stepped
          refine put (inner.push ?_)
          rw [Member.Natural]
          exact readAtom_natural read

theorem Natural.stepCondition (natural : b.Natural) {opening : Token} {text : List Char} :
    (b.stepCondition opening text t next).Natural := by
  unfold Builder.stepCondition
  split
  · exact natural.openFrame
  · exact ⟨natural.draft,natural.frames,trivial⟩

theorem step_natural (natural : b.Natural) {rest : List Token} (stepped : b.step limit t rest eof = .ok b') :
    b'.Natural := by
  obtain ⟨after,focused,rfl⟩ := map_eq_ok.mp stepped
  suffices kept : after.Natural from ⟨kept.draft,kept.frames,kept.focus⟩
  have focus := natural.focus
  split at focused
  · exact stepExpression_natural natural focused
  · cases focused
    exact natural.stepCondition
  · rename_i c outer shape
    rw [shape] at focus
    exact stepBrackets_natural natural focus.1 focus.2 focused

theorem finish_natural (natural : b.Natural) (built : b.finish = .ok n) : n.Natural := by
  unfold finish at built
  split at built
  · cases built
  · cases built
  · split at built
    · cases built
    · cases built
      exact natural.draft.finish

theorem run_natural (natural : b.Natural) {tokens : List Token} (built : b.run limit eof tokens = .ok n) : n.Natural := by
  induction tokens generalizing b with
  | nil => exact finish_natural natural built
  | cons t rest ih =>
    rw [run] at built
    split at built
    · cases built
    · rename_i b₁ stepped
      exact ih (step_natural natural stepped) built

theorem Natural.new (start : Position) : (Builder.new start).Natural := ⟨.new start,by simp [Builder.new],trivial⟩

end Builder

theorem parse_natural {limit : Int} {pattern : ByteArray} (parsed : parse limit pattern = .ok n) : n.Natural := by
  unfold parse at parsed
  split at parsed
  · cases parsed
  · exact Builder.run_natural (.new _) parsed

end LexPattern.Surface
