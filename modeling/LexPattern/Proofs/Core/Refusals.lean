import Mathlib
import LexPattern.Proofs.Core.Meaning

namespace LexPattern.Surface

open LexPattern.Core (Context Reason Rejection Severity unbounded controlCode metaCode)
open Text (Span)

inductive Construct where
  | node (n : Node)
  | member (m : Member)
  | endpoint (a : Atom)

namespace Construct

def span : Construct → Span
  | node n => n.span
  | member m => m.span
  | endpoint a => a.span

def nests : Construct → Bool
  | node (.group _ _ _) => true
  | node (.quantification _ _ _ _) => true
  | node (.customClass _ _ _) => true
  | member (.customClass _ _ _) => true
  | member (.setOperation _ _ _ _) => true
  | _ => false

def levels (path : List Construct) : Nat := path.countP nests

end Construct

structure Visit where
  construct : Construct
  around : List Construct

def Visit.depth (v : Visit) : Nat := Construct.levels (v.construct :: v.around)

mutual

-- The constructs of a member in the order in which they are judged: before what they contain, but a range after its ends.
def Member.visits (around : List Construct) : Member → List Visit
  | .customClass span inverted members =>
    let self := Construct.member (.customClass span inverted members)
    ⟨self,around⟩ :: memberVisits (self :: around) members
  | .range span lo hi =>
    let self := Construct.member (.range span lo hi)
    [⟨.endpoint lo,self :: around⟩,⟨.endpoint hi,self :: around⟩,⟨self,around⟩]
  | .atom a => [⟨.member (.atom a),around⟩]
  | .quote span literal => [⟨.member (.quote span literal),around⟩]
  | .trivia span text => [⟨.member (.trivia span text),around⟩]
  | .setOperation span lhs op rhs =>
    let self := Construct.member (.setOperation span lhs op rhs)
    ⟨self,around⟩ :: (memberVisits (self :: around) lhs ++ memberVisits (self :: around) rhs)

def memberVisits (around : List Construct) : List Member → List Visit
  | [] => []
  | m :: ms => m.visits around ++ memberVisits around ms

end

mutual

-- The constructs of a tree in the order in which they are judged. What a conditional or an absent function contains is not
-- among them.
def Node.visits (around : List Construct) : Node → List Visit
  | .alternation span branches =>
    let self := Construct.node (.alternation span branches)
    ⟨self,around⟩ :: nodeVisits (self :: around) branches
  | .concatenation span items =>
    let self := Construct.node (.concatenation span items)
    ⟨self,around⟩ :: nodeVisits (self :: around) items
  | .group span kind child =>
    let self := Construct.node (.group span kind child)
    ⟨self,around⟩ :: child.visits (self :: around)
  | .quantification span amount greed child =>
    let self := Construct.node (.quantification span amount greed child)
    ⟨self,around⟩ :: child.visits (self :: around)
  | .quote span literal => [⟨.node (.quote span literal),around⟩]
  | .trivia span text => [⟨.node (.trivia span text),around⟩]
  | .empty span => [⟨.node (.empty span),around⟩]
  | .atom a => [⟨.node (.atom a),around⟩]
  | .customClass span inverted members =>
    let self := Construct.node (.customClass span inverted members)
    ⟨self,around⟩ :: memberVisits (self :: around) members
  | .conditional span condition branches => [⟨.node (.conditional span condition branches),around⟩]
  | .absent span child => [⟨.node (.absent span child),around⟩]
  | .interpolation span text => [⟨.node (.interpolation span text),around⟩]

def nodeVisits (around : List Construct) : List Node → List Visit
  | [] => []
  | n :: ns => n.visits around ++ nodeVisits around ns

end

def Amount.Unreadable : Amount → Prop
  | exactly n | atLeast n | atMost n => n = none
  | between n m => n = none ∨ m = none
  | _ => False

def Amount.Reaches (least most : Int) : Amount → Prop
  | zeroOrMore => least = 0 ∧ most = unbounded
  | oneOrMore => least = 1 ∧ most = unbounded
  | zeroOrOne => least = 0 ∧ most = 1
  | exactly n => n = some least ∧ n = some most
  | atLeast n => n = some least ∧ most = unbounded
  | atMost n => least = 0 ∧ n = some most
  | between n m => n = some least ∧ m = some most

-- The character that an atom of a suitable kind stands for. Control and meta keys act on ASCII only.
def AtomKind.Stands (names : String → Option String) (x : CodePoint) : AtomKind → Prop
  | char c | escaped c | scalar c => c.isScalar = true ∧ x = c
  | keyboardControl c => c < 0x80 ∧ x = controlCode c
  | keyboardMeta c => c < 0x80 ∧ x = metaCode c
  | keyboardMetaControl c => c < 0x80 ∧ x = controlCode c + 0x80
  | namedCharacter name => ∃ c : Char, names name = some (String.singleton c) ∧ x = .ofChar c
  | _ => False

-- Why an atom of a suitable kind stands for no character.
def AtomKind.Fails (names : String → Option String) (reason : Reason) : AtomKind → Prop
  | char c | escaped c | scalar c => c.isScalar = false ∧ reason = .notScalar c
  | keyboardControl c | keyboardMetaControl c => 0x80 ≤ c ∧ reason = .controlKey c
  | keyboardMeta c => 0x80 ≤ c ∧ reason = .metaKey c
  | namedCharacter name => (names name = none ∧ reason = .unknownName name) ∨
      ∃ text, names name = some text ∧ text.length ≠ 1 ∧ reason = .longName name text.length
  | _ => False

def AtomKind.isCharacter : AtomKind → Bool
  | char _ | escaped _ | scalar _ | keyboardControl _ | keyboardMeta _ | keyboardMetaControl _ | namedCharacter _ => true
  | _ => false

def AtomKind.Foreign (text : String) (severity : Severity) (reason : Reason) : AtomKind → Prop
  | scalarSequence _ => severity = .unavailable ∧ reason = .scalarSequence
  | property name => severity = .unavailable ∧ reason = .property name
  | builtinClass => severity = .unavailable ∧ reason = .builtinClass text
  | startOfLine | endOfLine => severity = .unsupported ∧ reason = .anchor text
  | assertion => severity = .unsupported ∧ reason = .assertion text
  | backreference _ => severity = .unsupported ∧ reason = .backreference
  | subpattern _ => severity = .unavailable ∧ reason = .subpattern
  | callout => severity = .unavailable ∧ reason = .callout
  | backtrackingDirective => severity = .unsupported ∧ reason = .backtracking text
  | changeMatchingOptions _ => severity = .unavailable ∧ reason = .matchingOptions
  | invalid => severity = .invalid ∧ reason = .invalidAtom text
  | _ => False

def GroupKind.isSpecial : GroupKind → Bool
  | atomic | lookahead | negativeLookahead | lookbehind | negativeLookbehind => true
  | _ => false

-- What counts against a construct at a depth. The depth counts before the kind and the kind before the amount; of what the
-- construct contains only the ends of a range count.
inductive Objection (ctx : Context) (depth : Nat) : Construct → Severity → Reason → Prop where
  | tooDeep (nests : c.nests = true) (deep : ctx.limit < depth) : Objection ctx depth c .invalid (.tooDeep ctx.limit)
  | options (room : depth ≤ ctx.limit) :
      Objection ctx depth (.node (.group span (.options flags) child)) .unavailable (.optionsGroup flags)
  | special (room : depth ≤ ctx.limit) (special : kind.isSpecial = true) :
      Objection ctx depth (.node (.group span kind child)) .unsupported (.groupKind kind)
  | possessive (room : depth ≤ ctx.limit) :
      Objection ctx depth (.node (.quantification span amount .possessive child)) .unsupported .possessive
  | count (room : depth ≤ ctx.limit) (yielding : greed ≠ .possessive) (unreadable : amount.Unreadable) :
      Objection ctx depth (.node (.quantification span amount greed child)) .invalid .badCount
  | bounds (room : depth ≤ ctx.limit) (yielding : greed ≠ .possessive) (reaches : amount.Reaches least most)
      (disorder : least < 0 ∨ (most ≠ unbounded ∧ most < least)) :
      Objection ctx depth (.node (.quantification span amount greed child)) .invalid (.badBounds least most)
  | conditional : Objection ctx depth (.node (.conditional span condition branches)) .unsupported .conditional
  | absent : Objection ctx depth (.node (.absent span child)) .unsupported .absent
  | interpolation : Objection ctx depth (.node (.interpolation span text)) .unsupported .interpolation
  | foreign (kind : a.kind.Foreign a.text severity reason) : Objection ctx depth (.node (.atom a)) severity reason
  | atom (fails : a.kind.Fails ctx.names reason) : Objection ctx depth (.node (.atom a)) .invalid reason
  | single (fails : a.kind.Fails ctx.names reason) : Objection ctx depth (.member (.atom a)) .invalid reason
  | notSingle (kind : a.kind.isCharacter = false) :
      Objection ctx depth (.member (.atom a)) .invalid (.notOneCharacter a.text)
  | endpoint (fails : a.kind.Fails ctx.names reason) : Objection ctx depth (.endpoint a) .invalid reason
  | notEndpoint (kind : a.kind.isCharacter = false) : Objection ctx depth (.endpoint a) .invalid (.notOneCharacter a.text)
  | order (first : lo.kind.Stands ctx.names x) (last : hi.kind.Stands ctx.names y) (disorder : y < x) :
      Objection ctx depth (.member (.range span lo hi)) .invalid (.rangeOrder lo.text hi.text)

def Visit.Refused (ctx : Context) (v : Visit) (r : Rejection) : Prop :=
  r.span = v.construct.span ∧ Objection ctx v.depth v.construct r.reason.severity r.reason

-- The first construct that is refused. What is judged after it does not matter.
inductive FirstRefused (ctx : Context) : List Visit → Rejection → Prop where
  | here (refused : v.Refused ctx r) : FirstRefused ctx (v :: vs) r
  | later (passed : ∀ other, ¬ v.Refused ctx other) (rest : FirstRefused ctx vs r) : FirstRefused ctx (v :: vs) r

def Passed (ctx : Context) (vs : List Visit) : Prop := ∀ v ∈ vs, ∀ r, ¬ v.Refused ctx r

section Order

variable {ctx : Context} {v : Visit} {vs ws : List Visit} {r : Rejection}

theorem passed_iff : Passed ctx vs ↔ ∀ r, ¬ FirstRefused ctx vs r := by
  induction vs with
  | nil =>
    refine ⟨fun _ r first => ?_,fun _ v member => by cases member⟩
    cases first
  | cons v vs ih =>
    rw [Passed,List.forall_mem_cons]
    constructor
    · rintro ⟨passed,others⟩ r first
      cases first with
      | here refused => exact passed r refused
      | later _ rest => exact ih.mp others r rest
    · intro none
      have passed : ∀ r, ¬ v.Refused ctx r := fun r refused => none r (.here refused)
      exact ⟨passed,ih.mpr fun r first => none r (.later passed first)⟩

theorem firstRefused_append :
    FirstRefused ctx (vs ++ ws) r ↔ FirstRefused ctx vs r ∨ Passed ctx vs ∧ FirstRefused ctx ws r := by
  induction vs with
  | nil =>
    constructor
    · exact fun first => .inr ⟨fun v member => (by cases member),first⟩
    · rintro (first | ⟨_,first⟩)
      · cases first
      · exact first
  | cons v vs ih =>
    constructor
    · intro first
      cases first with
      | here refused => exact .inl (.here refused)
      | later passed rest =>
        obtain first | ⟨others,first⟩ := ih.mp rest
        · exact .inl (.later passed first)
        · exact .inr ⟨List.forall_mem_cons.mpr ⟨passed,others⟩,first⟩
    · rintro (first | ⟨passed,first⟩)
      · cases first with
        | here refused => exact .here refused
        | later passed rest => exact .later passed (ih.mpr (.inl rest))
      · obtain ⟨passed,others⟩ := List.forall_mem_cons.mp passed
        exact .later passed (ih.mpr (.inr ⟨others,first⟩))

end Order

def Judged (ctx : Context) (vs : List Visit) {α : Type} (outcome : Except Rejection α) : Prop :=
  ∀ r, outcome = .error r ↔ FirstRefused ctx vs r

namespace Judged

variable {ctx : Context} {v : Visit} {vs ws : List Visit} {α β : Type} {outcome : Except Rejection α}

theorem ok_iff (judged : Judged ctx vs outcome) : (∃ a, outcome = .ok a) ↔ Passed ctx vs := by
  rw [passed_iff,← not_exists,← exists_congr judged]
  cases outcome with
  | ok a => simp
  | error r => simp

theorem none (a : α) : Judged ctx [] (.ok a) := by
  intro r
  refine ⟨fun same => (by cases same),fun first => (by cases first)⟩

-- A construct that is refused decides; otherwise what it contains does.
theorem cons (refused : ∀ r, v.Refused ctx r → outcome = .error r)
    (contents : (∀ r, ¬ v.Refused ctx r) → Judged ctx vs outcome) : Judged ctx (v :: vs) outcome := by
  intro r
  constructor
  · intro failed
    by_cases passed : ∀ r, ¬ v.Refused ctx r
    · exact .later passed ((contents passed r).mp failed)
    · obtain ⟨other,objection⟩ := not_forall_not.mp passed
      have same := refused other objection
      rw [failed] at same
      cases same
      exact .here objection
  · intro first
    cases first with
    | here objection => exact refused r objection
    | later passed rest => exact (contents passed r).mpr rest

theorem lone (decided : ∀ r, outcome = .error r ↔ v.Refused ctx r) : Judged ctx [v] outcome := by
  refine cons (fun r => (decided r).mpr) fun passed => ?_
  cases outcome with
  | ok a => exact none a
  | error r => exact absurd ((decided r).mp rfl) (passed r)

theorem bind {next : α → Except Rejection β} (first : Judged ctx vs outcome)
    (second : ∀ a, outcome = .ok a → Judged ctx ws (next a)) : Judged ctx (vs ++ ws) (outcome >>= next) := by
  intro r
  rw [firstRefused_append,← first r,← first.ok_iff]
  cases outcome with
  | ok a => simpa [Bind.bind,Except.bind] using second a rfl r
  | error other => simp [Bind.bind,Except.bind]

theorem map {f : α → β} (judged : Judged ctx vs outcome) : Judged ctx vs (outcome >>= fun a => pure (f a)) := by
  have followed : Judged ctx (vs ++ []) (outcome >>= fun a => pure (f a)) := judged.bind fun a _ => none (f a)
  rwa [List.append_nil] at followed

end Judged

end LexPattern.Surface

namespace LexPattern.Core

open Surface
open Text (Span)

variable {ctx : Context} {depth : Nat}

section Judgements

variable {a lo hi : Atom}

theorem enter_tooDeep {span : Span} (deep : ctx.limit < depth + 1) :
    ctx.enter depth span = .error ⟨span,.tooDeep ctx.limit⟩ := if_pos deep

theorem enter_room {span : Span} (room : depth + 1 ≤ ctx.limit) : ctx.enter depth span = .ok () :=
  if_neg (Nat.not_lt.mpr room)

theorem reject_eq_error_iff {α : Type} {span : Span} {reason : Reason} {r : Rejection} :
    (reject span reason : Except Rejection α) = .error r ↔ r.span = span ∧ r.reason = reason := by
  obtain ⟨place,why⟩ := r
  simp [reject,eq_comm]

theorem requireScalar_eq_ok_iff {span : Span} {c x : CodePoint} :
    requireScalar span c = .ok x ↔ c.isScalar = true ∧ x = c := by
  unfold requireScalar
  split
  · rename_i scalar
    simp [scalar,eq_comm]
  · rename_i other
    simp [other,reject_ne_ok]

theorem requireScalar_eq_error_iff {span : Span} {c : CodePoint} {r : Rejection} :
    requireScalar span c = .error r ↔ r.span = span ∧ c.isScalar = false ∧ r.reason = .notScalar c := by
  unfold requireScalar
  split
  · rename_i scalar
    simp [scalar]
  · rename_i other
    simp [other,reject_eq_error_iff]

theorem nameCode_eq_ok_iff {span : Span} {name : String} {x : CodePoint} :
    nameCode ctx span name = .ok x ↔ ∃ c : Char, ctx.names name = some (String.singleton c) ∧ x = .ofChar c := by
  refine ⟨nameCode_denotes,?_⟩
  rintro ⟨c,found,rfl⟩
  unfold nameCode
  simp [found]

theorem nameCode_eq_error_iff {span : Span} {name : String} {r : Rejection} :
    nameCode ctx span name = .error r ↔ r.span = span ∧ ((ctx.names name = none ∧ r.reason = .unknownName name) ∨
      ∃ text, ctx.names name = some text ∧ text.length ≠ 1 ∧ r.reason = .longName name text.length) := by
  unfold nameCode
  split
  · rename_i missing
    simp [missing,reject_eq_error_iff]
  · rename_i text found
    have size := String.length_toList (s := text)
    split
    · rename_i c single
      simp [found,← size,single]
    · rename_i several
      have long : text.length ≠ 1 := by
        rw [← size,ne_eq,List.length_eq_one_iff]
        rintro ⟨c,single⟩
        exact several c single
      simp [found,reject_eq_error_iff,size,long]

theorem atomCode_eq_ok_iff {x : CodePoint} : atomCode ctx a = .ok x ↔ a.kind.Stands ctx.names x := by
  obtain ⟨span,kind,text⟩ := a
  cases kind with
  | char c | escaped c | scalar c => exact requireScalar_eq_ok_iff
  | keyboardControl c | keyboardMeta c | keyboardMetaControl c =>
    simp only [atomCode,AtomKind.Stands]
    split
    · rename_i beyond
      simp [reject_ne_ok,Int.not_lt.mpr beyond]
    · rename_i ascii
      simp [Int.not_le.mp ascii,eq_comm]
  | namedCharacter name => exact nameCode_eq_ok_iff
  | _ => simp [atomCode,AtomKind.Stands,reject_ne_ok]

theorem atomCode_eq_error_iff {r : Rejection} : atomCode ctx a = .error r ↔ r.span = a.span ∧
    (a.kind.Fails ctx.names r.reason ∨ a.kind.isCharacter = false ∧ r.reason = .notOneCharacter a.text) := by
  obtain ⟨span,kind,text⟩ := a
  cases kind with
  | char c | escaped c | scalar c => simp [atomCode,AtomKind.Fails,AtomKind.isCharacter,requireScalar_eq_error_iff]
  | keyboardControl c | keyboardMeta c | keyboardMetaControl c =>
    simp only [atomCode,AtomKind.Fails,AtomKind.isCharacter]
    split
    · rename_i beyond
      simp [beyond,reject_eq_error_iff]
    · rename_i ascii
      simp [ascii]
  | namedCharacter name => simp [atomCode,AtomKind.Fails,AtomKind.isCharacter,nameCode_eq_error_iff]
  | _ => simp [atomCode,AtomKind.Fails,AtomKind.isCharacter,reject_eq_error_iff]

theorem amountBounds_eq_none_iff {amount : Amount} : amountBounds amount = none ↔ amount.Unreadable := by
  cases amount with
  | between n m =>
    cases n with
    | none => simp [amountBounds,Amount.Unreadable]
    | some least => simp [amountBounds,Amount.Unreadable]
  | _ => simp [amountBounds,Amount.Unreadable]

theorem amountBounds_eq_some_iff {amount : Amount} {least most : Int} :
    amountBounds amount = some (least,most) ↔ amount.Reaches least most := by
  cases amount with
  | zeroOrMore | oneOrMore | zeroOrOne => simp [amountBounds,Amount.Reaches,eq_comm]
  | exactly n | atLeast n | atMost n =>
    cases n with
    | none => simp [amountBounds,Amount.Reaches]
    | some count => simp [amountBounds,Amount.Reaches,eq_comm]
  | between n m =>
    cases n with
    | none => simp [amountBounds,Amount.Reaches]
    | some count => simp [amountBounds,Amount.Reaches,eq_comm,and_comm]

theorem lowerAmount_eq_error_iff {span : Span} {amount : Amount} {r : Rejection} :
    lowerAmount span amount = .error r ↔ r.span = span ∧ ((amount.Unreadable ∧ r.reason = .badCount) ∨
      ∃ least most, amount.Reaches least most ∧ (least < 0 ∨ (most ≠ unbounded ∧ most < least)) ∧
        r.reason = .badBounds least most) := by
  unfold lowerAmount
  simp only [← amountBounds_eq_none_iff,← amountBounds_eq_some_iff]
  split
  · rename_i unreadable
    simp [unreadable,reject_eq_error_iff]
  · rename_i least most bounds
    split
    · rename_i disorder
      simp [bounds,reject_eq_error_iff,disorder]
    · rename_i order
      simp [bounds,order]

theorem fails_severity {names : String → Option String} {kind : AtomKind} {reason : Reason}
    (fails : kind.Fails names reason) : reason.severity = .invalid := by
  cases kind with
  | namedCharacter name =>
    obtain ⟨_,rfl⟩ | ⟨_,_,_,rfl⟩ := fails
    · rfl
    · rfl
  | char c | escaped c | scalar c | keyboardControl c | keyboardMeta c | keyboardMetaControl c =>
    obtain ⟨_,rfl⟩ := fails
    rfl
  | _ => exact fails.elim

theorem lowerAtom_eq_error_iff {r : Rejection} : lowerAtom ctx a = .error r ↔ r.span = a.span ∧
    (a.kind.Foreign a.text r.reason.severity r.reason ∨ a.kind.Fails ctx.names r.reason) := by
  have character (other : a.kind ≠ .dot) (native : atomReason? a = none) :
      lowerAtom ctx a = .error r ↔ atomCode ctx a = .error r := by
    unfold lowerAtom
    rw [if_neg other,native]
    cases atomCode ctx a <;> simp [bind,Except.bind,pure,Except.pure]
  obtain ⟨span,kind,text⟩ := a
  cases kind with
  | dot => simp [lowerAtom,AtomKind.Foreign,AtomKind.Fails]
  | char c | escaped c | scalar c | keyboardControl c | keyboardMeta c | keyboardMetaControl c | namedCharacter name =>
    rw [character AtomKind.noConfusion rfl,atomCode_eq_error_iff]
    simp [AtomKind.Foreign,AtomKind.isCharacter]
  | _ =>
    simp only [lowerAtom,atomReason?,reduceCtorEq,if_false,reject_eq_error_iff,AtomKind.Foreign,AtomKind.Fails,or_false]
    refine and_congr_right fun _ => ⟨?_,And.right⟩
    intro same
    simp [same,Reason.severity]

end Judgements

section Constructs

variable {a lo hi : Atom} {reason : Reason} {severity : Severity} {c : Construct} {around : List Construct} {v : Visit}
  {vs : List Visit} {α : Type}

theorem levels_cons_of_nests (nests : c.nests = true) : Construct.levels (c :: around) = Construct.levels around + 1 :=
  List.countP_cons_of_pos nests

theorem levels_cons_of_flat (flat : c.nests = false) : Construct.levels (c :: around) = Construct.levels around :=
  List.countP_cons_of_neg (by simp [flat])

theorem objection_of_deep (nests : c.nests = true) (deep : ctx.limit < depth)
    (objection : Objection ctx depth c severity reason) : reason = .tooDeep ctx.limit := by
  cases objection with
  | tooDeep _ _ => rfl
  | options room | special room _ | possessive room | count room _ _ | bounds room _ _ _ =>
    exact absurd deep (Nat.not_lt.mpr room)
  | _ => cases nests

theorem objection_endpoint_iff : Objection ctx depth (.endpoint a) reason.severity reason ↔
    a.kind.Fails ctx.names reason ∨ a.kind.isCharacter = false ∧ reason = .notOneCharacter a.text := by
  constructor
  · intro objection
    generalize reason.severity = severity at objection
    cases objection with
    | tooDeep nests _ => cases nests
    | endpoint fails => exact .inl fails
    | notEndpoint kind => exact .inr ⟨kind,rfl⟩
  · rintro (fails | ⟨kind,rfl⟩)
    · rw [fails_severity fails]
      exact .endpoint fails
    · exact .notEndpoint kind

theorem objection_single_iff : Objection ctx depth (.member (.atom a)) reason.severity reason ↔
    a.kind.Fails ctx.names reason ∨ a.kind.isCharacter = false ∧ reason = .notOneCharacter a.text := by
  constructor
  · intro objection
    generalize reason.severity = severity at objection
    cases objection with
    | tooDeep nests _ => cases nests
    | single fails => exact .inl fails
    | notSingle kind => exact .inr ⟨kind,rfl⟩
  · rintro (fails | ⟨kind,rfl⟩)
    · rw [fails_severity fails]
      exact .single fails
    · exact .notSingle kind

theorem objection_atom_iff : Objection ctx depth (.node (.atom a)) reason.severity reason ↔
    a.kind.Foreign a.text reason.severity reason ∨ a.kind.Fails ctx.names reason := by
  constructor
  · intro objection
    generalize reason.severity = severity at objection
    cases objection with
    | tooDeep nests _ => cases nests
    | foreign kind => exact .inl kind
    | atom fails => exact .inr fails
  · rintro (kind | fails)
    · exact .foreign kind
    · rw [fails_severity fails]
      exact .atom fails

theorem endpoint_judged : Judged ctx [⟨.endpoint a,around⟩] (atomCode ctx a) :=
  .lone fun r => by rw [atomCode_eq_error_iff,Visit.Refused,objection_endpoint_iff]; rfl

theorem single_judged : Judged ctx [⟨.member (.atom a),around⟩] (atomCode ctx a) :=
  .lone fun r => by rw [atomCode_eq_error_iff,Visit.Refused,objection_single_iff]; rfl

theorem atom_judged : Judged ctx [⟨.node (.atom a),around⟩] (lowerAtom ctx a) :=
  .lone fun r => by rw [lowerAtom_eq_error_iff,Visit.Refused,objection_atom_iff]; rfl

-- The order of a range is judged only between two characters.
theorem range_judged {span : Span} :
    Judged ctx ((Member.range span lo hi).visits around) (lowerRange ctx span lo hi) := by
  rw [Member.visits]
  refine .bind endpoint_judged fun x first => .bind endpoint_judged fun y last => .lone fun ⟨place,reason⟩ => ?_
  constructor
  · intro failed
    split at failed
    · rename_i disorder
      obtain ⟨rfl,rfl⟩ := reject_eq_error_iff.mp failed
      exact ⟨rfl,.order (atomCode_eq_ok_iff.mp first) (atomCode_eq_ok_iff.mp last) disorder⟩
    · cases failed
  · rintro ⟨rfl,objection⟩
    generalize reason.severity = severity at objection
    cases objection with
    | tooDeep nests _ => cases nests
    | order first' last' disorder =>
      rw [← atomCode_eq_ok_iff,first] at first'
      rw [← atomCode_eq_ok_iff,last] at last'
      cases first'
      cases last'
      rw [if_pos disorder]
      rfl

theorem nesting_judged {rest : Except Rejection α} (nests : v.construct.nests = true)
    (refused : v.depth ≤ ctx.limit → ∀ severity reason, Objection ctx v.depth v.construct severity reason →
      rest = .error ⟨v.construct.span,reason⟩)
    (contents : v.depth ≤ ctx.limit → (∀ r, ¬ v.Refused ctx r) → Judged ctx vs rest) :
    Judged ctx (v :: vs) (ctx.enter (Construct.levels v.around) v.construct.span >>= fun _ => rest) := by
  have level : v.depth = Construct.levels v.around + 1 := levels_cons_of_nests nests
  obtain deep | room := Nat.lt_or_ge ctx.limit v.depth
  · have decided : v.Refused ctx ⟨v.construct.span,.tooDeep ctx.limit⟩ := ⟨rfl,.tooDeep nests deep⟩
    rw [enter_tooDeep (level ▸ deep)]
    refine .cons ?_ fun passed => absurd decided (passed _)
    rintro ⟨place,reason⟩ ⟨rfl,objection⟩
    cases objection_of_deep nests deep objection
    rfl
  · rw [enter_room (level ▸ room)]
    refine .cons ?_ (contents room)
    rintro ⟨place,reason⟩ ⟨rfl,objection⟩
    exact refused room _ reason objection

def isPlain : Construct → Bool
  | .node (.alternation _ _) | .node (.concatenation _ _) | .node (.quote _ _) | .node (.trivia _ _) | .node (.empty _)
  | .node (.customClass _ _ _) => true
  | .member (.quote _ _) | .member (.trivia _ _) | .member (.customClass _ _ _) | .member (.setOperation _ _ _ _) => true
  | _ => false

theorem objection_plain (plain : isPlain c = true) (objection : Objection ctx depth c severity reason) :
    c.nests = true ∧ ctx.limit < depth := by
  cases objection with
  | tooDeep nests deep => exact ⟨nests,deep⟩
  | _ => cases plain

theorem flat_judged {outcome : Except Rejection α} (plain : isPlain v.construct = true) (flat : v.construct.nests = false)
    (contents : Judged ctx vs outcome) : Judged ctx (v :: vs) outcome := by
  refine .cons (fun r refused => ?_) fun _ => contents
  have nests := (objection_plain plain refused.2).1
  rw [flat] at nests
  cases nests

theorem level_judged {rest : Except Rejection α} (plain : isPlain v.construct = true) (nests : v.construct.nests = true)
    (contents : Judged ctx vs rest) :
    Judged ctx (v :: vs) (ctx.enter (Construct.levels v.around) v.construct.span >>= fun _ => rest) := by
  refine nesting_judged nests (fun room severity reason objection => ?_) fun _ _ => contents
  exact absurd (objection_plain plain objection).2 (Nat.not_lt.mpr room)

theorem refusal_judged (objection : Objection ctx v.depth v.construct reason.severity reason)
    (only : ∀ severity other, Objection ctx v.depth v.construct severity other → other = reason) :
    Judged ctx [v] (reject v.construct.span reason : Except Rejection α) := by
  refine .lone fun ⟨place,why⟩ => ?_
  rw [reject_eq_error_iff]
  constructor
  · rintro ⟨rfl,rfl⟩
    exact ⟨rfl,objection⟩
  · rintro ⟨same,other⟩
    exact ⟨same,only _ _ other⟩

end Constructs

section Lowering

mutual

-- The induction follows the members, with the path to them in place of the depth.
theorem lowerMember_judged (around : List Construct) : (m : Member) →
    Judged ctx (m.visits around) (lowerMember ctx (Construct.levels around) m)
  | .customClass span inverted members => by
    have inside := lowerMembers_judged (.member (.customClass span inverted members) :: around) members
    rw [levels_cons_of_nests rfl] at inside
    rw [Member.visits,lowerMember]
    exact level_judged rfl rfl inside.map
  | .range span lo hi => by
    rw [lowerMember]
    exact range_judged
  | .atom a => by
    rw [Member.visits,lowerMember]
    exact single_judged.map
  | .quote span literal => by
    rw [Member.visits,lowerMember]
    exact flat_judged rfl rfl (.none _)
  | .trivia span text => by
    rw [Member.visits,lowerMember]
    exact flat_judged rfl rfl (.none _)
  | .setOperation span lhs op rhs => by
    have left := lowerMembers_judged (.member (.setOperation span lhs op rhs) :: around) lhs
    have right := lowerMembers_judged (.member (.setOperation span lhs op rhs) :: around) rhs
    rw [levels_cons_of_nests rfl] at left right
    rw [Member.visits,lowerMember]
    exact level_judged rfl rfl (left.bind fun _ _ => right.map)

theorem lowerMembers_judged (around : List Construct) : (ms : List Member) →
    Judged ctx (memberVisits around ms) (lowerMembers ctx (Construct.levels around) ms)
  | [] => by
    rw [memberVisits,lowerMembers]
    exact .none _
  | m :: ms => by
    rw [memberVisits,lowerMembers]
    exact (lowerMember_judged around m).bind fun c _ => joinMembers_judged around c ms

theorem joinMembers_judged (around : List Construct) (c : CharClass) : (ms : List Member) →
    Judged ctx (memberVisits around ms) (joinMembers ctx (Construct.levels around) c ms)
  | [] => by
    rw [memberVisits,joinMembers]
    exact .none _
  | m :: ms => by
    rw [memberVisits,joinMembers]
    exact (lowerMember_judged around m).bind fun d _ => joinMembers_judged around (c.union d) ms

end

theorem groupReason?_eq_some_iff {kind : GroupKind} {reason : Reason} : groupReason? kind = some reason ↔
    (∃ flags, kind = .options flags ∧ reason = .optionsGroup flags) ∨ kind.isSpecial = true ∧ reason = .groupKind kind := by
  cases kind <;> simp [groupReason?,GroupKind.isSpecial,eq_comm]

theorem group_judged {around : List Construct} {span : Span} {kind : GroupKind} {child : Node} {vs : List Visit}
    (inside : Judged ctx vs (lowerNode ctx (Construct.levels around + 1) child)) :
    Judged ctx (⟨.node (.group span kind child),around⟩ :: vs)
      (lowerNode ctx (Construct.levels around) (.group span kind child)) := by
  rw [lowerNode]
  refine nesting_judged rfl (fun room severity reason objection => ?_) fun room passed => ?_
  · have refused : groupReason? kind = some reason := by
      rw [groupReason?_eq_some_iff]
      cases objection with
      | tooDeep _ deep => exact absurd deep (Nat.not_lt.mpr room)
      | options _ => exact .inl ⟨_,rfl,rfl⟩
      | special _ special => exact .inr ⟨special,rfl⟩
    rw [refused]
    rfl
  · have accepted : groupReason? kind = none := by
      rw [Option.eq_none_iff_forall_ne_some]
      intro reason refused
      obtain ⟨flags,rfl,rfl⟩ | ⟨special,rfl⟩ := groupReason?_eq_some_iff.mp refused
      · exact passed ⟨span,.optionsGroup flags⟩ ⟨rfl,.options room⟩
      · exact passed ⟨span,.groupKind kind⟩ ⟨rfl,.special room special⟩
    rw [accepted]
    exact inside.map

theorem quantification_judged {around : List Construct} {span : Span} {amount : Amount} {greed : Greed} {child : Node}
    {vs : List Visit} (inside : Judged ctx vs (lowerNode ctx (Construct.levels around + 1) child)) :
    Judged ctx (⟨.node (.quantification span amount greed child),around⟩ :: vs)
      (lowerNode ctx (Construct.levels around) (.quantification span amount greed child)) := by
  rw [lowerNode]
  refine nesting_judged rfl (fun room severity reason objection => ?_) fun room passed => ?_
  · have failed : greed = .possessive ∧ reason = .possessive ∨
        greed ≠ .possessive ∧ lowerAmount span amount = .error ⟨span,reason⟩ := by
      rw [lowerAmount_eq_error_iff]
      cases objection with
      | tooDeep _ deep => exact absurd deep (Nat.not_lt.mpr room)
      | possessive _ => exact .inl ⟨rfl,rfl⟩
      | count _ yielding unreadable => exact .inr ⟨yielding,rfl,.inl ⟨unreadable,rfl⟩⟩
      | bounds _ yielding reaches disorder => exact .inr ⟨yielding,rfl,.inr ⟨_,_,reaches,disorder,rfl⟩⟩
    obtain ⟨rfl,rfl⟩ | ⟨yielding,failed⟩ := failed
    · rfl
    · rw [if_neg yielding,failed]
      rfl
  · have yielding : greed ≠ .possessive := by
      rintro rfl
      exact passed ⟨span,.possessive⟩ ⟨rfl,.possessive room⟩
    rw [if_neg yielding]
    cases bounded : lowerAmount span amount with
    | error r =>
      obtain ⟨place,reason⟩ := r
      obtain ⟨rfl,⟨unreadable,rfl⟩ | ⟨least,most,reaches,disorder,rfl⟩⟩ := lowerAmount_eq_error_iff.mp bounded
      · exact absurd ⟨rfl,.count room yielding unreadable⟩ (passed ⟨place,.badCount⟩)
      · exact absurd ⟨rfl,.bounds room yielding reaches disorder⟩ (passed ⟨place,.badBounds least most⟩)
    | ok bounds => exact inside.map

mutual

theorem lowerNode_judged (around : List Construct) : (n : Node) →
    Judged ctx (n.visits around) (lowerNode ctx (Construct.levels around) n)
  | .alternation span branches => by
    have inside := lowerNodes_judged (.node (.alternation span branches) :: around) branches
    rw [levels_cons_of_flat rfl] at inside
    rw [Node.visits,lowerNode]
    exact flat_judged rfl rfl inside.map
  | .concatenation span items => by
    have inside := lowerNodes_judged (.node (.concatenation span items) :: around) items
    rw [levels_cons_of_flat rfl] at inside
    rw [Node.visits,lowerNode]
    exact flat_judged rfl rfl inside.map
  | .group span kind child => by
    have inside := lowerNode_judged (.node (.group span kind child) :: around) child
    rw [levels_cons_of_nests rfl] at inside
    rw [Node.visits]
    exact group_judged inside
  | .quantification span amount greed child => by
    have inside := lowerNode_judged (.node (.quantification span amount greed child) :: around) child
    rw [levels_cons_of_nests rfl] at inside
    rw [Node.visits]
    exact quantification_judged inside
  | .quote span literal => by
    rw [Node.visits,lowerNode,← apply_ite Except.ok]
    exact flat_judged rfl rfl (.none _)
  | .trivia span text => by
    rw [Node.visits,lowerNode]
    exact flat_judged rfl rfl (.none _)
  | .empty span => by
    rw [Node.visits,lowerNode]
    exact flat_judged rfl rfl (.none _)
  | .atom a => by
    rw [Node.visits,lowerNode]
    exact atom_judged
  | .customClass span inverted members => by
    have inside : Judged ctx _ _ := lowerMembers_judged (.node (.customClass span inverted members) :: around) members
    rw [levels_cons_of_nests rfl] at inside
    rw [Node.visits,lowerNode,lowerMember]
    exact (level_judged rfl rfl inside.map).map
  | .conditional span condition branches => by
    rw [Node.visits,lowerNode]
    refine refusal_judged .conditional fun severity other objection => ?_
    cases objection with
    | tooDeep nests _ => cases nests
    | conditional => rfl
  | .absent span child => by
    rw [Node.visits,lowerNode]
    refine refusal_judged .absent fun severity other objection => ?_
    cases objection with
    | tooDeep nests _ => cases nests
    | absent => rfl
  | .interpolation span text => by
    rw [Node.visits,lowerNode]
    refine refusal_judged .interpolation fun severity other objection => ?_
    cases objection with
    | tooDeep nests _ => cases nests
    | interpolation => rfl

theorem lowerNodes_judged (around : List Construct) : (ns : List Node) →
    Judged ctx (nodeVisits around ns) (lowerNodes ctx (Construct.levels around) ns)
  | [] => by
    rw [nodeVisits,lowerNodes]
    exact .none _
  | n :: ns => by
    rw [nodeVisits,lowerNodes]
    exact (lowerNode_judged around n).bind fun _ _ => (lowerNodes_judged around ns).map

end

end Lowering

section Limits

-- Unless the first outcome is that of too deep a tree, the second is the same.
def Lasts {α : Type} (first second : Except Rejection α) : Prop :=
  (∃ span limit, first = .error ⟨span,.tooDeep limit⟩) ∨ second = first

namespace Lasts

variable {α β : Type}

theorem refl (outcome : Except Rejection α) : Lasts outcome outcome := .inr rfl

theorem bind {first second : Except Rejection α} {next next' : α → Except Rejection β} (lasts : Lasts first second)
    (following : ∀ a, Lasts (next a) (next' a)) : Lasts (first >>= next) (second >>= next') := by
  obtain ⟨span,limit,rfl⟩ | rfl := lasts
  · exact .inl ⟨span,limit,rfl⟩
  · cases second with
    | error r => exact .inr rfl
    | ok a => exact following a

theorem map {first second : Except Rejection α} {f : α → β} (lasts : Lasts first second) :
    Lasts (first >>= fun a => pure (f a)) (second >>= fun a => pure (f a)) := lasts.bind fun _ => refl _

end Lasts

variable {limit : Nat}

theorem enter_lasts {span : Span} (larger : ctx.limit ≤ limit) :
    Lasts (ctx.enter depth span) (Context.enter ⟨limit,ctx.names⟩ depth span) := by
  obtain deep | room := Nat.lt_or_ge ctx.limit (depth + 1)
  · rw [enter_tooDeep deep]
    exact .inl ⟨span,ctx.limit,rfl⟩
  · have further : Context.enter ⟨limit,ctx.names⟩ depth span = .ok () := enter_room (Nat.le_trans room larger)
    rw [enter_room room,further]
    exact .refl _

mutual

theorem lowerMember_lasts (larger : ctx.limit ≤ limit) (depth : Nat) : (m : Member) →
    Lasts (lowerMember ctx depth m) (lowerMember ⟨limit,ctx.names⟩ depth m)
  | .customClass span inverted members => by
    rw [lowerMember,lowerMember]
    exact (enter_lasts larger).bind fun _ => (lowerMembers_lasts larger (depth + 1) members).map
  | .range span lo hi => by
    rw [lowerMember,lowerMember]
    exact .refl _
  | .atom a => by
    rw [lowerMember,lowerMember]
    exact .refl _
  | .quote span literal => by
    rw [lowerMember,lowerMember]
    exact .refl _
  | .trivia span text => by
    rw [lowerMember,lowerMember]
    exact .refl _
  | .setOperation span lhs op rhs => by
    rw [lowerMember,lowerMember]
    exact (enter_lasts larger).bind fun _ => (lowerMembers_lasts larger (depth + 1) lhs).bind fun _ =>
      (lowerMembers_lasts larger (depth + 1) rhs).map

theorem lowerMembers_lasts (larger : ctx.limit ≤ limit) (depth : Nat) : (ms : List Member) →
    Lasts (lowerMembers ctx depth ms) (lowerMembers ⟨limit,ctx.names⟩ depth ms)
  | [] => by
    rw [lowerMembers,lowerMembers]
    exact .refl _
  | m :: ms => by
    rw [lowerMembers,lowerMembers]
    exact (lowerMember_lasts larger depth m).bind fun c => joinMembers_lasts larger depth c ms

theorem joinMembers_lasts (larger : ctx.limit ≤ limit) (depth : Nat) (c : CharClass) : (ms : List Member) →
    Lasts (joinMembers ctx depth c ms) (joinMembers ⟨limit,ctx.names⟩ depth c ms)
  | [] => by
    rw [joinMembers,joinMembers]
    exact .refl _
  | m :: ms => by
    rw [joinMembers,joinMembers]
    exact (lowerMember_lasts larger depth m).bind fun d => joinMembers_lasts larger depth (c.union d) ms

end

mutual

theorem lowerNode_lasts (larger : ctx.limit ≤ limit) (depth : Nat) : (n : Node) →
    Lasts (lowerNode ctx depth n) (lowerNode ⟨limit,ctx.names⟩ depth n)
  | .alternation span branches => by
    rw [lowerNode,lowerNode]
    exact (lowerNodes_lasts larger depth branches).map
  | .concatenation span items => by
    rw [lowerNode,lowerNode]
    exact (lowerNodes_lasts larger depth items).map
  | .group span kind child => by
    rw [lowerNode,lowerNode]
    refine (enter_lasts larger).bind fun _ => ?_
    split
    · exact .refl _
    · exact (lowerNode_lasts larger (depth + 1) child).map
  | .quantification span amount greed child => by
    rw [lowerNode,lowerNode]
    refine (enter_lasts larger).bind fun _ => ?_
    split
    · exact .refl _
    · exact (Lasts.refl _).bind fun _ => (lowerNode_lasts larger (depth + 1) child).map
  | .customClass span inverted members => by
    rw [lowerNode,lowerNode]
    exact (lowerMember_lasts larger depth _).map
  | .quote span literal => by
    rw [lowerNode,lowerNode]
    exact .refl _
  | .trivia span text => by
    rw [lowerNode,lowerNode]
    exact .refl _
  | .empty span => by
    rw [lowerNode,lowerNode]
    exact .refl _
  | .atom a => by
    rw [lowerNode,lowerNode]
    exact .refl _
  | .conditional span condition branches => by
    rw [lowerNode,lowerNode]
    exact .refl _
  | .absent span child => by
    rw [lowerNode,lowerNode]
    exact .refl _
  | .interpolation span text => by
    rw [lowerNode,lowerNode]
    exact .refl _

theorem lowerNodes_lasts (larger : ctx.limit ≤ limit) (depth : Nat) : (ns : List Node) →
    Lasts (lowerNodes ctx depth ns) (lowerNodes ⟨limit,ctx.names⟩ depth ns)
  | [] => by
    rw [lowerNodes,lowerNodes]
    exact .refl _
  | n :: ns => by
    rw [lowerNodes,lowerNodes]
    exact (lowerNode_lasts larger depth n).bind fun _ => (lowerNodes_lasts larger depth ns).map

end

end Limits

-- A tree has an expression exactly when none of its constructs is refused, and otherwise the first that is refused is what
-- lowering answers. Any outcome but too deep a tree stays the same under every limit that puts no less depth in force.
theorem lower_refuses_first (limit : Int) (names : String → Option String) (n : Node) :
    ((∃ e, lower limit names n = .ok e) ↔ Passed ⟨inForce defaultDepth limit,names⟩ (n.visits [])) ∧
      (∀ r, lower limit names n = .error r ↔ FirstRefused ⟨inForce defaultDepth limit,names⟩ (n.visits []) r) ∧
        ∀ more, inForce defaultDepth limit ≤ inForce defaultDepth more →
          (∀ span deep, lower limit names n ≠ .error ⟨span,.tooDeep deep⟩) → lower more names n = lower limit names n := by
  have judged : Judged ⟨inForce defaultDepth limit,names⟩ (n.visits []) (lower limit names n) := lowerNode_judged [] n
  refine ⟨judged.ok_iff,judged,fun more larger shallow => ?_⟩
  have further : (Context.mk (inForce defaultDepth limit) names).limit ≤ inForce defaultDepth more := larger
  obtain ⟨span,deep,failed⟩ | same := lowerNode_lasts further 0 n
  · exact absurd failed (shallow span deep)
  · exact same

-- The tree of the pattern `((a))`.
def twice : Node :=
  .group ⟨.start,⟨5,1,6⟩⟩ .capture
    (.group ⟨⟨1,1,2⟩,⟨4,1,5⟩⟩ .capture (.atom ⟨⟨⟨2,1,3⟩,⟨3,1,4⟩⟩,.char 0x61,"a"⟩))

-- One is a larger limit than zero, but zero asks for the default, which leaves more room.
theorem larger_limit_tooDeep : (0 : Int) < 1 ∧
    lower 0 (fun _ => none) twice = .ok (.group (.group (.literal [0x61]))) ∧
    lower 1 (fun _ => none) twice = .error ⟨⟨⟨1,1,2⟩,⟨4,1,5⟩⟩,.tooDeep 1⟩ :=
  ⟨by decide,by cbv,by cbv⟩

end LexPattern.Core
