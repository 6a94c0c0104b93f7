import Mathlib
import LexPattern.Proofs.Core.Refusals
import LexPattern.Proofs.Surface.Locations

namespace LexPattern.Surface

open Text (Position Span)

namespace Builder

variable {b b' : Builder} {limit deep : Nat} {t : Token} {rest : List Token} {eof next pos : Position} {fault : Fault}
  {cause : Cause}

-- A step with room for as much as a token can open, which is one level more than there are.
def stepFree (b : Builder) (t : Token) (rest : List Token) (eof : Position) : Except Fault Builder :=
  b.step (b.depth + 1) t rest eof

def runFree (b : Builder) (eof : Position) : List Token → Except Fault Node
  | [] => b.finish
  | t :: rest =>
    match b.stepFree t rest eof with
    | .error fault => .error fault
    | .ok b => b.runFree eof rest

section Steps

-- The limit has a say only where a level is entered.
theorem enter_limited : (b.enter limit t >>= fun _ => Except.ok b') = (b.enter (b.depth + 1) t >>= fun _ => Except.ok b') ∨
    (b.enter limit t >>= fun _ => Except.ok b') = .error ⟨t.pos,.tooDeep limit⟩ := by
  unfold enter
  split
  · exact .inr rfl
  · rw [if_neg (lt_irrefl _)]
    exact .inl rfl

theorem stepExpression_limited (limit : Nat) : b.stepExpression limit t next = b.stepExpression (b.depth + 1) t next ∨
    b.stepExpression limit t next = .error ⟨t.pos,.tooDeep limit⟩ := by
  unfold stepExpression
  split
  case h_2 =>
    dsimp only
    split
    · exact .inl rfl
    · exact enter_limited
  case h_1 | h_3 | h_4 | h_5 => exact enter_limited
  all_goals exact .inl rfl

theorem stepBrackets_limited (limit : Nat) {c : ClassDraft} {outer : List ClassDraft} :
    b.stepBrackets limit c outer t rest = b.stepBrackets (b.depth + 1) c outer t rest ∨
      b.stepBrackets limit c outer t rest = .error ⟨t.pos,.tooDeep limit⟩ := by
  unfold stepBrackets
  dsimp only
  split
  case h_3 =>
    split
    case h_1 => exact enter_limited
    all_goals exact .inl rfl
  all_goals exact .inl rfl

theorem step_limited (limit : Nat) : b.step limit t rest eof = b.stepFree t rest eof ∨
    b.step limit t rest eof = .error ⟨t.pos,.tooDeep limit⟩ := by
  obtain ⟨stop,d,frames,focus⟩ := b
  unfold stepFree
  cases focus with
  | expression =>
    rw [step_expression,step_expression]
    obtain same | deep := stepExpression_limited limit
    · exact .inl (congrArg _ same)
    · exact .inr (congrArg _ deep)
  | condition opening text => exact .inl rfl
  | brackets c outer =>
    rw [step_brackets,step_brackets]
    obtain same | deep := stepBrackets_limited limit
    · exact .inl (congrArg _ same)
    · exact .inr (congrArg _ deep)

def OfTokens : Cause → Prop
  | .invalidByte _ | .tooDeep _ => False
  | _ => True

theorem enter_cause (failed : (b.enter limit t >>= fun _ => Except.ok b') = .error fault) :
    limit < b.depth + 1 ∧ fault.cause = .tooDeep limit := by
  unfold enter at failed
  split at failed
  · rename_i full
    cases failed
    exact ⟨full,rfl⟩
  · cases failed

theorem readAtom_cause (failed : readAtom t = .error cause) : OfTokens cause := by
  have found := map_eq_error failed
  unfold atomKind at found
  dsimp only at found
  split at found
  case h_1 | h_2 | h_3 =>
    split at found
    all_goals cases found
    all_goals trivial
  all_goals cases found
  all_goals trivial

theorem item_cause (failed : item t = .error fault) : OfTokens fault.cause := by
  unfold item at failed
  dsimp only at failed
  split at failed
  case h_10 =>
    split at failed
    · cases failed
    · rename_i cause read
      cases failed
      exact readAtom_cause read
  all_goals cases failed

theorem stepExpression_cause (failed : b.stepExpression limit t next = .error fault) :
    OfTokens fault.cause ∨ (limit < b.depth + 1 ∧ fault.cause = .tooDeep limit) := by
  unfold stepExpression at failed
  split at failed
  case h_2 =>
    dsimp only at failed
    split at failed
    · cases failed
    · exact .inr (enter_cause failed)
  case h_6 =>
    unfold closeFrame at failed
    split at failed
    · cases failed
      exact .inl trivial
    · cases failed
  case h_7 => cases failed
  case h_8 | h_9 =>
    unfold quantify at failed
    split at failed
    · cases failed
      exact .inl trivial
    · cases failed
  case h_10 => exact .inl (item_cause (map_eq_error failed))
  all_goals exact .inr (enter_cause failed)

theorem stepBrackets_cause {c : ClassDraft} {outer : List ClassDraft}
    (failed : b.stepBrackets limit c outer t rest = .error fault) :
    OfTokens fault.cause ∨ (limit < b.depth + 1 ∧ fault.cause = .tooDeep limit) := by
  unfold stepBrackets at failed
  dsimp only at failed
  split at failed
  · cases failed
  · split at failed
    · cases failed
    · cases failed
      exact .inl trivial
  · split at failed
    case h_1 => exact .inr (enter_cause failed)
    case h_6 =>
      split at failed
      · rename_i cause read
        cases failed
        exact .inl (readAtom_cause read)
      · split at failed
        all_goals cases failed
    all_goals cases failed

theorem step_cause (failed : b.step limit t rest eof = .error fault) :
    OfTokens fault.cause ∨ (limit < b.depth + 1 ∧ fault.cause = .tooDeep limit) := by
  obtain ⟨stop,d,frames,focus⟩ := b
  cases focus with
  | expression =>
    rw [step_expression] at failed
    exact stepExpression_cause (map_eq_error failed)
  | condition opening text =>
    rw [step_condition] at failed
    cases failed
  | brackets c outer =>
    rw [step_brackets] at failed
    exact stepBrackets_cause (map_eq_error failed)

theorem step_ne_tooDeep (room : b.depth + 1 ≤ limit) : b.step limit t rest eof ≠ .error ⟨pos,.tooDeep deep⟩ := by
  intro failed
  obtain plain | ⟨full,_⟩ := step_cause failed
  · exact plain
  · omega

theorem finish_cause (failed : b.finish = .error fault) : OfTokens fault.cause := by
  unfold finish at failed
  split at failed
  case h_3 =>
    split at failed
    · cases failed
      trivial
    · cases failed
  all_goals
    cases failed
    trivial

end Steps

section Runs

variable {ts : List Token}

theorem run_limited (b : Builder) (limit : Nat) (eof : Position) (ts : List Token) :
    b.run limit eof ts = b.runFree eof ts ∨ ∃ pos, b.run limit eof ts = .error ⟨pos,.tooDeep limit⟩ := by
  induction ts generalizing b with
  | nil => exact .inl rfl
  | cons t ts ih =>
    rw [run,runFree]
    obtain same | deep := step_limited limit
    · rw [same]
      cases b.stepFree t ts eof with
      | error fault => exact .inl rfl
      | ok b => exact ih b
    · rw [deep]
      exact .inr ⟨t.pos,rfl⟩

theorem runFree_cause (failed : b.runFree eof ts = .error fault) : OfTokens fault.cause := by
  induction ts generalizing b with
  | nil => exact finish_cause failed
  | cons t ts ih =>
    rw [runFree] at failed
    split at failed
    · rename_i found stepped
      cases failed
      obtain plain | ⟨full,_⟩ := step_cause stepped
      · exact plain
      · exact absurd full (lt_irrefl _)
    · exact ih failed

theorem runFree_ne_tooDeep : b.runFree eof ts ≠ .error ⟨pos,.tooDeep deep⟩ := fun failed => runFree_cause failed

theorem exists_run_eq (b : Builder) (eof : Position) (ts : List Token) :
    ∃ enough, ∀ limit ≥ enough, b.run limit eof ts = b.runFree eof ts := by
  induction ts generalizing b with
  | nil => exact ⟨0,fun _ _ => rfl⟩
  | cons t ts ih =>
    have same : ∀ limit ≥ b.depth + 1, b.step limit t ts eof = b.stepFree t ts eof := fun limit room =>
      (step_limited limit).resolve_right (step_ne_tooDeep room)
    cases stepped : b.stepFree t ts eof with
    | error fault =>
      refine ⟨b.depth + 1,fun limit room => ?_⟩
      rw [run,runFree,same limit room,stepped]
    | ok b' =>
      obtain ⟨enough,later⟩ := ih b'
      refine ⟨max (b.depth + 1) enough,fun limit room => ?_⟩
      rw [run,runFree,same limit (le_of_max_le_left room),stepped]
      exact later limit (le_of_max_le_right room)

end Runs

end Builder

namespace Constituent

def encloses : Constituent → Bool
  | node (.group _ _ _) | node (.conditional _ _ _) | node (.absent _ _) => true
  | node (.customClass _ _ _) | member (.customClass _ _ _) => true
  | _ => false

-- A way from a part down to one that has no parts of its own.
inductive Path : Constituent → List Constituent → Prop where
  | leaf (none : p.children = []) : Path p [p]
  | down (child : c ∈ p.children) (below : Path c path) : Path p (p :: path)

-- On no way down are there more levels than this.
def NestsWithin (room : Nat) (p : Constituent) : Prop := ∀ path, p.Path path → path.countP encloses ≤ room

section Paths

variable {p c : Constituent} {room : Nat}

theorem exists_path_member : (m : Member) → ∃ path, (member m).Path path
  | .customClass _ _ (m :: _) | .setOperation _ (m :: _) _ _ | .setOperation _ [] _ (m :: _) => by
    obtain ⟨path,below⟩ := exists_path_member m
    exact ⟨_,.down (by simp [children]) below⟩
  | .range _ _ _ => ⟨_,.down (List.mem_cons_self ..) (.leaf rfl)⟩
  | .customClass _ _ [] | .setOperation _ [] _ [] | .atom _ | .quote _ _ | .trivia _ _ => ⟨_,.leaf rfl⟩

theorem exists_path_node : (n : Node) → ∃ path, (node n).Path path
  | .alternation _ (n :: _) | .concatenation _ (n :: _) | .group _ _ n | .quantification _ _ _ n | .conditional _ _ n
  | .absent _ n => by
    obtain ⟨path,below⟩ := exists_path_node n
    exact ⟨_,.down (by simp [children]) below⟩
  | .customClass _ _ (m :: _) => by
    obtain ⟨path,below⟩ := exists_path_member m
    exact ⟨_,.down (by simp [children]) below⟩
  | .alternation _ [] | .concatenation _ [] | .customClass _ _ [] | .quote _ _ | .trivia _ _ | .empty _ | .atom _
  | .interpolation _ _ => ⟨_,.leaf rfl⟩

theorem exists_path : (p : Constituent) → ∃ path, p.Path path
  | node n => exists_path_node n
  | member m => exists_path_member m

theorem nestsWithin_of_flat (flat : p.encloses = false) :
    p.NestsWithin room ↔ ∀ c ∈ p.children, c.NestsWithin room := by
  constructor
  · intro within c child path below
    have counted := within (p :: path) (.down child below)
    rwa [List.countP_cons_of_neg (by simp [flat])] at counted
  · intro within path down
    cases down with
    | leaf => simp [flat]
    | down child below =>
      rw [List.countP_cons_of_neg (by simp [flat])]
      exact within _ child _ below

theorem nestsWithin_of_encloses (encloses : p.encloses = true) :
    p.NestsWithin room ↔ ∃ less, room = less + 1 ∧ ∀ c ∈ p.children, c.NestsWithin less := by
  constructor
  · intro within
    obtain ⟨path,down⟩ := p.exists_path
    have positive : 1 ≤ room := by
      have counted := within path down
      cases down with
      | leaf => simpa [encloses] using counted
      | down child below =>
        rw [List.countP_cons_of_pos encloses] at counted
        omega
    refine ⟨room - 1,by omega,fun c child path below => ?_⟩
    have counted := within (p :: path) (.down child below)
    rw [List.countP_cons_of_pos encloses] at counted
    omega
  · rintro ⟨less,rfl,within⟩ path down
    cases down with
    | leaf => simp [encloses]
    | down child below =>
      rw [List.countP_cons_of_pos encloses]
      exact Nat.succ_le_succ (within _ child _ below)

end Paths

end Constituent

def Phrase.NestsWithin (room : Nat) : Phrase → Prop
  | expression n | branch n | item n | atom n => (Constituent.node n).NestsWithin room
  | branches ns | items ns => ∀ n ∈ ns, (Constituent.node n).NestsWithin room
  | operation ms | members ms => ∀ m ∈ ms, (Constituent.member m).NestsWithin room
  | member m => (Constituent.member m).NestsWithin room

section Phrases

open Constituent (nestsWithin_of_flat nestsWithin_of_encloses)

variable {eof : Position} {room limit : Nat} {phrase : Phrase} {ts rest : List Token} {t : Token} {n : Node}
  {ns : List Node} {ms lhs rhs : List Member} {p : Constituent} {span : Span} {a lo hi : Atom}

theorem leaf_nestsWithin (none : p.children = []) (flat : p.encloses = false) : p.NestsWithin room := by
  rw [nestsWithin_of_flat flat,none]
  exact List.forall_mem_nil _

theorem choice_nestsWithin : (Constituent.node (choice span ns)).NestsWithin room ↔
    ∀ n ∈ ns, (Constituent.node n).NestsWithin room := by
  unfold choice
  split
  · rw [List.forall_mem_singleton]
  · exact (nestsWithin_of_flat rfl).trans List.forall_mem_map

theorem sequence_nestsWithin : (Constituent.node (sequence span ns)).NestsWithin room ↔
    ∀ n ∈ ns, (Constituent.node n).NestsWithin room := by
  unfold sequence
  split
  · exact iff_of_true (leaf_nestsWithin rfl rfl) (List.forall_mem_nil _)
  · rw [List.forall_mem_singleton]
  · exact (nestsWithin_of_flat rfl).trans List.forall_mem_map

theorem quantification_nestsWithin {amount : Amount} {greed : Greed} :
    (Constituent.node (.quantification span amount greed n)).NestsWithin room ↔ (Constituent.node n).NestsWithin room :=
  (nestsWithin_of_flat rfl).trans List.forall_mem_singleton

theorem close_nestsWithin (enclosure : Enclosure) : (Constituent.node (enclosure.close span n)).NestsWithin room ↔
    ∃ less, room = less + 1 ∧ (Constituent.node n).NestsWithin less := by
  have encloses : (Constituent.node (enclosure.close span n)).encloses = true := by cases enclosure <;> rfl
  have children : (Constituent.node (enclosure.close span n)).children = [.node n] := by cases enclosure <;> rfl
  rw [nestsWithin_of_encloses encloses,children]
  simp only [List.forall_mem_singleton]

theorem class_nestsWithin {inverted : Bool}
    (isClass : p = .node (.customClass span inverted ms) ∨ p = .member (.customClass span inverted ms)) :
    p.NestsWithin room ↔ ∃ less, room = less + 1 ∧ ∀ m ∈ ms, (Constituent.member m).NestsWithin less := by
  obtain rfl | rfl := isClass
  all_goals
    refine (nestsWithin_of_encloses rfl).trans (exists_congr fun less => and_congr_right fun _ => ?_)
    exact List.forall_mem_map

theorem setOperation_nestsWithin {op : SetOp} :
    (Constituent.member (.setOperation span lhs op rhs)).NestsWithin room ↔
      (∀ m ∈ lhs, (Constituent.member m).NestsWithin room) ∧ ∀ m ∈ rhs, (Constituent.member m).NestsWithin room := by
  refine (nestsWithin_of_flat rfl).trans (List.forall_mem_append.trans ?_)
  exact and_congr List.forall_mem_map List.forall_mem_map

theorem range_nestsWithin : (Constituent.member (.range span lo hi)).NestsWithin room := by
  refine (nestsWithin_of_flat rfl).mpr fun c child => ?_
  obtain rfl | last := List.mem_cons.mp child
  · exact leaf_nestsWithin rfl rfl
  · cases List.mem_singleton.mp last
    exact leaf_nestsWithin rfl rfl

theorem item_nestsWithin (read : Builder.item t = .ok n) : (Constituent.node n).NestsWithin room := by
  unfold Builder.item at read
  dsimp only at read
  split at read
  case h_10 =>
    split at read
    · cases read
      exact leaf_nestsWithin rfl rfl
    · cases read
  all_goals
    cases read
    exact leaf_nestsWithin rfl rfl

theorem Derives.nestsWithin (derived : Derives eof room phrase ts rest) : phrase.NestsWithin room := by
  induction derived with
  | expression _ ih => exact choice_nestsWithin.mpr ih
  | firstBranch _ ih => exact List.forall_mem_singleton.mpr ih
  | nextBranch _ _ _ before next => exact List.forall_mem_append.mpr ⟨before,List.forall_mem_singleton.mpr next⟩
  | branch _ ih => exact sequence_nestsWithin.mpr ih
  | noItem => exact List.forall_mem_nil _
  | nextItem _ _ before next => exact List.forall_mem_append.mpr ⟨before,List.forall_mem_singleton.mpr next⟩
  | once _ ih => exact ih
  | quantified _ _ ih => exact quantification_nestsWithin.mpr ih
  | enclosed _ _ _ ih => exact (close_nestsWithin _).mpr ⟨_,rfl,ih⟩
  | bracketed _ _ _ ih => exact (class_nestsWithin (.inl rfl)).mpr ⟨_,rfl,ih⟩
  | settings _ _ => exact leaf_nestsWithin rfl rfl
  | token read => exact item_nestsWithin read
  | operand _ ih => exact ih
  | operated _ _ _ left right => exact List.forall_mem_singleton.mpr (setOperation_nestsWithin.mpr ⟨left,right⟩)
  | noMember => exact List.forall_mem_nil _
  | nextMember _ _ before next => exact List.forall_mem_append.mpr ⟨before,List.forall_mem_singleton.mpr next⟩
  | nested _ _ _ ih => exact (class_nestsWithin (.inr rfl)).mpr ⟨_,rfl,ih⟩
  | quotation _ => exact leaf_nestsWithin rfl rfl
  | dash _ => exact leaf_nestsWithin rfl rfl
  | single _ _ => exact leaf_nestsWithin rfl rfl
  | range _ _ _ => exact range_nestsWithin

theorem Derives.within (derived : Derives eof room phrase ts rest) (nests : phrase.NestsWithin limit) :
    Derives eof limit phrase ts rest := by
  induction derived generalizing limit with
  | expression _ ih => exact .expression (ih (choice_nestsWithin.mp nests))
  | firstBranch _ ih => exact .firstBranch (ih (nests _ (List.mem_singleton_self _)))
  | nextBranch _ kind _ before next =>
    obtain ⟨first,last⟩ := List.forall_mem_append.mp nests
    exact .nextBranch (before first) kind (next (last _ (List.mem_singleton_self _)))
  | branch _ ih => exact .branch (ih (sequence_nestsWithin.mp nests))
  | noItem => exact .noItem
  | nextItem _ _ before next =>
    obtain ⟨first,last⟩ := List.forall_mem_append.mp nests
    exact .nextItem (before first) (next (last _ (List.mem_singleton_self _)))
  | once _ ih => exact .once (ih nests)
  | quantified _ kind ih => exact .quantified (ih (quantification_nestsWithin.mp nests)) kind
  | enclosed opens _ closed ih =>
    obtain ⟨less,rfl,inner⟩ := (close_nestsWithin _).mp nests
    exact .enclosed opens (ih inner) closed
  | bracketed kind _ closed ih =>
    obtain ⟨less,rfl,inner⟩ := (class_nestsWithin (.inl rfl)).mp nests
    exact .bracketed kind (ih inner) closed
  | settings kind closed => exact .settings kind closed
  | token read => exact .token read
  | operand _ ih => exact .operand (ih nests)
  | operated _ kind _ left right =>
    obtain ⟨first,last⟩ := setOperation_nestsWithin.mp (nests _ (List.mem_singleton_self _))
    exact .operated (left first) kind (right last)
  | noMember => exact .noMember
  | nextMember _ _ before next =>
    obtain ⟨first,last⟩ := List.forall_mem_append.mp nests
    exact .nextMember (before first) (next (last _ (List.mem_singleton_self _)))
  | nested kind _ closed ih =>
    obtain ⟨less,rfl,inner⟩ := (class_nestsWithin (.inr rfl)).mp nests
    exact .nested kind (ih inner) closed
  | quotation kind => exact .quotation kind
  | dash kind => exact .dash kind
  | single read ends => exact .single read ends
  | range readFirst kind readLast => exact .range readFirst kind readLast

end Phrases

section Lowering

open LexPattern.Core (levels_cons_of_nests levels_cons_of_flat)

variable {room : Nat} {v : Visit} {c p : Constituent} {construct : Construct} {around : List Construct}

-- These make a level for lowering but not for reading.
def Constituent.deepens : Constituent → Bool
  | node (.quantification _ _ _ _) | member (.setOperation _ _ _ _) => true
  | _ => false

def Constituent.Plain (p : Constituent) : Prop := ∀ part, p.Within part → part.deepens = false

theorem Constituent.Plain.child (plain : p.Plain) (child : c ∈ p.children) : c.Plain :=
  fun part within => plain part (.head child within)

theorem Constituent.not_plain (deepens : p.deepens = true) : ¬ p.Plain := by
  intro plain
  rw [plain p .refl] at deepens
  cases deepens

theorem depth_of_flat (flat : construct.nests = false) :
    Visit.depth ⟨construct,around⟩ ≤ Construct.levels around + room := by
  rw [Visit.depth,levels_cons_of_flat flat]
  exact Nat.le_add_right ..

-- The first of these is judged at one level more, what it contains below that.
theorem depth_of_nests {inside : List Visit} (nests : construct.nests = true)
    (deeper : ∀ v ∈ inside, v.depth ≤ Construct.levels (construct :: around) + room)
    (visited : v ∈ ⟨construct,around⟩ :: inside) : v.depth ≤ Construct.levels around + (room + 1) := by
  rw [levels_cons_of_nests nests] at deeper
  obtain rfl | below := List.mem_cons.mp visited
  · have self : Visit.depth ⟨construct,around⟩ = Construct.levels around + 1 := levels_cons_of_nests nests
    omega
  · have bound := deeper v below
    omega

mutual

theorem Member.visits_depth (around : List Construct) (room : Nat) : (m : Member) →
    (Constituent.member m).NestsWithin room → (Constituent.member m).Plain → ∀ v ∈ m.visits around,
      v.depth ≤ Construct.levels around + room
  | .customClass span inverted members,nests,plain,v,visited => by
    obtain ⟨less,rfl,inner⟩ := (class_nestsWithin (.inr rfl)).mp nests
    have plainly : ∀ m ∈ members, (Constituent.member m).Plain := fun m listed => plain.child (List.mem_map_of_mem listed)
    exact depth_of_nests rfl (memberVisits_depth _ less members inner plainly) visited
  | .range _ _ _,_,_,v,visited => by
    simp only [Member.visits,List.mem_cons,List.not_mem_nil,or_false] at visited
    obtain rfl | rfl | rfl := visited
    all_goals exact depth_of_flat rfl
  | .setOperation _ _ _ _,_,plain,_,_ => absurd plain (Constituent.not_plain rfl)
  | .atom _,_,_,v,visited | .quote _ _,_,_,v,visited | .trivia _ _,_,_,v,visited => by
    cases List.mem_singleton.mp visited
    exact depth_of_flat rfl

theorem memberVisits_depth (around : List Construct) (room : Nat) : (ms : List Member) →
    (∀ m ∈ ms, (Constituent.member m).NestsWithin room) → (∀ m ∈ ms, (Constituent.member m).Plain) →
      ∀ v ∈ memberVisits around ms, v.depth ≤ Construct.levels around + room
  | [],_,_,v,visited => by cases visited
  | m :: ms,nests,plain,v,visited => by
    obtain ⟨first,others⟩ := List.forall_mem_cons.mp nests
    obtain ⟨plainly,plainly'⟩ := List.forall_mem_cons.mp plain
    obtain here | later := List.mem_append.mp visited
    · exact m.visits_depth around room first plainly v here
    · exact memberVisits_depth around room ms others plainly' v later

end

theorem depth_of_around {inside : List Visit} (flat : construct.nests = false)
    (within : ∀ v ∈ inside, v.depth ≤ Construct.levels (construct :: around) + room)
    (visited : v ∈ ⟨construct,around⟩ :: inside) : v.depth ≤ Construct.levels around + room := by
  rw [levels_cons_of_flat flat] at within
  obtain rfl | below := List.mem_cons.mp visited
  · exact depth_of_flat flat
  · exact within v below

mutual

theorem Node.visits_depth (around : List Construct) (room : Nat) : (n : Node) →
    (Constituent.node n).NestsWithin room → (Constituent.node n).Plain → ∀ v ∈ n.visits around,
      v.depth ≤ Construct.levels around + room
  | .alternation span ns,nests,plain,v,visited | .concatenation span ns,nests,plain,v,visited => by
    have inner := List.forall_mem_map.mp ((Constituent.nestsWithin_of_flat rfl).mp nests)
    have plainly : ∀ n ∈ ns, (Constituent.node n).Plain := fun n listed => plain.child (List.mem_map_of_mem listed)
    exact depth_of_around rfl (nodeVisits_depth _ room ns inner plainly) visited
  | .group span kind child,nests,plain,v,visited => by
    obtain ⟨less,rfl,inner⟩ := (close_nestsWithin (.group kind)).mp nests
    exact depth_of_nests rfl (child.visits_depth _ less inner (plain.child (List.mem_singleton_self _))) visited
  | .customClass span inverted members,nests,plain,v,visited => by
    obtain ⟨less,rfl,inner⟩ := (class_nestsWithin (.inl rfl)).mp nests
    have plainly : ∀ m ∈ members, (Constituent.member m).Plain := fun m listed => plain.child (List.mem_map_of_mem listed)
    exact depth_of_nests rfl (memberVisits_depth _ less members inner plainly) visited
  | .quantification _ _ _ _,_,plain,_,_ => absurd plain (Constituent.not_plain rfl)
  | .conditional _ _ _,_,_,v,visited | .absent _ _,_,_,v,visited | .quote _ _,_,_,v,visited
  | .trivia _ _,_,_,v,visited | .empty _,_,_,v,visited | .atom _,_,_,v,visited
  | .interpolation _ _,_,_,v,visited => by
    cases List.mem_singleton.mp visited
    exact depth_of_flat rfl

theorem nodeVisits_depth (around : List Construct) (room : Nat) : (ns : List Node) →
    (∀ n ∈ ns, (Constituent.node n).NestsWithin room) → (∀ n ∈ ns, (Constituent.node n).Plain) →
      ∀ v ∈ nodeVisits around ns, v.depth ≤ Construct.levels around + room
  | [],_,_,v,visited => by cases visited
  | n :: ns,nests,plain,v,visited => by
    obtain ⟨first,others⟩ := List.forall_mem_cons.mp nests
    obtain ⟨plainly,plainly'⟩ := List.forall_mem_cons.mp plain
    obtain here | later := List.mem_append.mp visited
    · exact n.visits_depth around room first plainly v here
    · exact nodeVisits_depth around room ns others plainly' v later

end

open LexPattern.Core (Context Reason Rejection Severity lowerNode lowerNode_judged)

variable {ctx : Context} {n : Node} {depth deep : Nat} {span : Span}

theorem FirstRefused.exists_mem {vs : List Visit} {r : Rejection} (first : FirstRefused ctx vs r) :
    ∃ v ∈ vs, v.Refused ctx r := by
  induction first with
  | here refused => exact ⟨_,List.mem_cons_self ..,refused⟩
  | later _ _ ih =>
    obtain ⟨v,visited,refused⟩ := ih
    exact ⟨v,List.mem_cons_of_mem _ visited,refused⟩

theorem Objection.lt_of_tooDeep {severity : Severity}
    (objection : Objection ctx depth construct severity (.tooDeep deep)) : ctx.limit < depth := by
  cases objection with
  | tooDeep _ deep => exact deep
  | @foreign a _ _ kind =>
    generalize a.kind = kind' at kind
    cases kind' <;> simp [AtomKind.Foreign] at kind
  | @atom a _ fails | @single a _ fails | @endpoint a _ fails =>
    generalize a.kind = kind at fails
    cases kind <;> simp [AtomKind.Fails] at fails

-- Where lowering counts no levels that reading does not, room enough for reading a tree is room enough for lowering it.
theorem lowerNode_ne_tooDeep (nests : (Constituent.node n).NestsWithin ctx.limit) (plain : (Constituent.node n).Plain) :
    lowerNode ctx 0 n ≠ .error ⟨span,.tooDeep deep⟩ := by
  intro failed
  obtain ⟨v,visited,_,objection⟩ := ((lowerNode_judged [] n _).mp failed).exists_mem
  have bound := n.visits_depth [] ctx.limit nests plain v visited
  have tooDeep := objection.lt_of_tooDeep
  simp only [Construct.levels,List.countP_nil] at bound
  omega

end Lowering

def ofTokensFree (tokens : List Token) (eof : Position) : Except Fault Node :=
  (Builder.new (firstPos eof tokens)).runFree eof tokens

def parseFree (pattern : ByteArray) : Except Fault Node :=
  match Text.wellFormed (Text.pieces pattern) with
  | .error (before,b) => .error ⟨Position.start.advance before,.invalidByte b⟩
  | .ok cs => ofTokensFree (Token.lex cs) (Position.start.advance cs)

section Limits

variable (limit : Nat) (tokens : List Token) (eof : Position)

theorem ofTokens_limited : ofTokens limit tokens eof = ofTokensFree tokens eof ∨
    ∃ pos, ofTokens limit tokens eof = .error ⟨pos,.tooDeep limit⟩ := by
  rw [ofTokens_eq]
  exact Builder.run_limited (.new (firstPos eof tokens)) limit eof tokens

theorem exists_ofTokens_eq : ∃ enough, ∀ limit ≥ enough, ofTokens limit tokens eof = ofTokensFree tokens eof := by
  simp only [ofTokens_eq]
  exact Builder.exists_run_eq (.new (firstPos eof tokens)) eof tokens

-- What is accepted without a limit has a derivation, and how deep the tree nests says which limits leave room for it.
theorem ofTokens_eq_ok_iff_nests (n : Node) : ofTokens limit tokens eof = .ok n ↔
    ofTokensFree tokens eof = .ok n ∧ (Constituent.node n).NestsWithin limit := by
  constructor
  · intro read
    refine ⟨?_,(derives_of_ofTokens read).nestsWithin⟩
    obtain same | ⟨pos,deep⟩ := ofTokens_limited limit tokens eof
    · exact same.symm.trans read
    · rw [deep] at read
      cases read
  · rintro ⟨read,nests⟩
    obtain ⟨enough,same⟩ := exists_ofTokens_eq tokens eof
    have derived := derives_of_ofTokens ((same enough le_rfl).trans read)
    exact (derived.within nests).ofTokens_eq_ok le_rfl

end Limits

-- A limit accepts those trees that are accepted without it and nest no deeper, and otherwise changes nothing but that too
-- deep a pattern may be called so before anything else is noticed. Without a limit nothing is too deep, and every great
-- limit is as good as none. A tree that is accepted is not too deep to be lowered, unless quantifications and set
-- operations add to its depth.
theorem parse_eq_ok_iff_nests (limit : Int) (pattern : ByteArray) :
    (∀ n, parse limit pattern = .ok n ↔
        parseFree pattern = .ok n ∧ (Constituent.node n).NestsWithin (inForce defaultDepth limit)) ∧
      (parse limit pattern = parseFree pattern ∨
        ∃ pos, parse limit pattern = .error ⟨pos,.tooDeep (inForce defaultDepth limit)⟩) ∧
      (∀ pos deep, parseFree pattern ≠ .error ⟨pos,.tooDeep deep⟩) ∧
      (∃ enough : Int, ∀ more ≥ enough, parse more pattern = parseFree pattern) ∧
      ∀ n names, parse limit pattern = .ok n → (Constituent.node n).Plain →
        ∀ span deep, Core.lower limit names n ≠ .error ⟨span,.tooDeep deep⟩ := by
  unfold parse parseFree
  cases Text.wellFormed (Text.pieces pattern) with
  | error bad => simp
  | ok cs =>
    have accepted := ofTokens_eq_ok_iff_nests (inForce defaultDepth limit) (Token.lex cs) (Position.start.advance cs)
    refine ⟨accepted,ofTokens_limited _ _ _,?_,?_,?_⟩
    · exact fun pos deep => Builder.runFree_ne_tooDeep
    · obtain ⟨enough,same⟩ := exists_ofTokens_eq (Token.lex cs) (Position.start.advance cs)
      -- A limit has to be positive to be in force itself.
      refine ⟨enough + 1,fun more large => same _ ?_⟩
      rw [inForce_of_pos (by omega)]
      omega
    · intro n names read plain span deep
      exact lowerNode_ne_tooDeep ((accepted n).mp read).2 plain

example : (parse 1 "(a)[b]".toUTF8).isOk = true ∧ (parse 1 "(a[b])".toUTF8).isOk = false := by decide +kernel

end LexPattern.Surface
