import Mathlib
import LexPattern.Proofs.Automaton.Recognition

namespace LexPattern.Core.Expr

mutual

-- The states that stand for an expression. Bounds that are out of order stand for no copies.
def stateCount : Expr → Nat
  | empty => 1
  | literal codes => max 1 (2 * codes.length)
  | charClass _ => 2
  | group child => child.stateCount
  | concat children => max 1 (totalCount children)
  | alternation children => 1 + totalCount children
  | repetition least none _ child => 2 + (least.toNat + 1) * child.stateCount
  | repetition least (some most) _ child =>
    1 + least.toNat * child.stateCount + (most - least).toNat * (child.stateCount + 1)

def totalCount : List Expr → Nat
  | [] => 0
  | e :: es => e.stateCount + totalCount es

end

mutual

-- How many expressions are around a part, at most, the part included.
def height : Expr → Nat
  | empty | literal _ | charClass _ => 1
  | group child => child.height + 1
  | concat children => greatestHeight children + 1
  | alternation children => greatestHeight children + 1
  | repetition _ _ _ child => child.height + 1

def greatestHeight : List Expr → Nat
  | [] => 0
  | e :: es => max e.height (greatestHeight es)

end

-- Every expression has a state of its own, so that no repetition goes on without making states.
theorem stateCount_pos : ∀ e : Expr, 0 < e.stateCount
  | empty => by simp [stateCount]
  | literal _ => by simp [stateCount]
  | charClass _ => by simp [stateCount]
  | group child => by
    rw [stateCount]
    exact stateCount_pos child
  | concat _ => by simp [stateCount]
  | alternation _ => by simp [stateCount]
  | repetition _ none _ _ => by simp [stateCount]
  | repetition _ (some _) _ _ => by
    rw [stateCount]
    omega

end LexPattern.Core.Expr

namespace LexPattern.Automaton

open LexPattern.Core (Expr)

structure Meter where
  states : Nat
  visits : Nat

def Metered (α : Type) : Type := Meter → Option α × Meter

namespace Metered

instance : Monad Metered where
  pure a := fun m => (some a,m)
  bind x f := fun m =>
    match x m with
    | (some a,m) => f a m
    | (none,m) => (none,m)

def visit : Metered Unit := fun m => (some (),{m with visits := m.visits + 1})

def fresh (limit : Nat) (s : Sketch) : Metered (Nat × Sketch) := fun m =>
  match s.fresh limit with
  | some made => (some made,{m with states := m.states + 1})
  | none => (none,m)

abbrev Construction := Sketch → Metered (Fragment × Sketch)

def pass (limit : Nat) : Construction := fun s => do
  let (a,s) ← fresh limit s
  return (⟨a,[a]⟩,s)

def consume (limit : Nat) (c : CharClass) : Construction := fun s => do
  let (a,s) ← fresh limit s
  let (b,s) ← fresh limit s
  return (⟨a,[b]⟩,s.connect a (some c) b)

def spell (limit : Nat) (sofar : Fragment) : List CodePoint → Construction
  | [],s => return (sofar,s)
  | c :: cs,s => do
    let (part,s) ← consume limit (.single c) s
    let (sofar,s) := sofar.andThen part s
    spell limit sofar cs s

def copies (part : Construction) (sofar : Fragment) : Nat → Construction
  | 0,s => return (sofar,s)
  | n + 1,s => do
    let (copy,s) ← part s
    let (sofar,s) := sofar.andThen copy s
    copies part sofar n s

def options (limit : Nat) (part : Construction) (sofar : Fragment) : Nat → Construction
  | 0,s => return (sofar,s)
  | n + 1,s => do
    let (copy,s) ← part s
    let (skip,s) ← fresh limit s
    let s := (s.patch sofar.outs skip).patch sofar.outs copy.start
    options limit part ⟨sofar.start,copy.outs ++ [skip]⟩ n s

def loop (limit : Nat) (part : Construction) (sofar : Fragment) : Construction := fun s => do
  let (hub,s) ← fresh limit s
  let (copy,s) ← part s
  let s := ((s.patch sofar.outs hub).connect hub none copy.start).patch copy.outs hub
  return (⟨sofar.start,[hub]⟩,s)

mutual

def construct (limit : Nat) : Expr → Construction
  | .empty,s => do
    visit
    pass limit s
  | .literal [],s => do
    visit
    pass limit s
  | .literal (c :: cs),s => do
    visit
    let (first,s) ← consume limit (.single c) s
    spell limit first cs s
  | .charClass c,s => do
    visit
    consume limit c s
  | .group child,s => do
    visit
    construct limit child s
  | .concat [],s => do
    visit
    pass limit s
  | .concat (child :: children),s => do
    visit
    let (first,s) ← construct limit child s
    constructAfter limit first children s
  | .alternation children,s => do
    visit
    let (fork,s) ← fresh limit s
    constructBranches limit fork [] children s
  | .repetition least most _ child,s => do
    visit
    let (entry,s) ← pass limit s
    let (sofar,s) ← copies (fun s => construct limit child s) entry least.toNat s
    match most with
    | none => loop limit (fun s => construct limit child s) sofar s
    | some most => options limit (fun s => construct limit child s) sofar (most - least).toNat s

def constructAfter (limit : Nat) (sofar : Fragment) : List Expr → Construction
  | [],s => return (sofar,s)
  | child :: children,s => do
    let (part,s) ← construct limit child s
    let (sofar,s) := sofar.andThen part s
    constructAfter limit sofar children s

def constructBranches (limit : Nat) (fork : Nat) (outs : List Nat) : List Expr → Construction
  | [],s => return (⟨fork,outs⟩,s)
  | child :: children,s => do
    let (branch,s) ← construct limit child s
    let s := s.connect fork none branch.start
    constructBranches limit fork (outs ++ branch.outs) children s

end

def ofExpr? (limit : Nat) (e : Expr) : Metered Nfa := do
  let (whole,s) ← construct limit e .new
  let (accept,s) ← fresh limit s
  let s := s.patch whole.outs accept
  return ⟨s.size,whole.start,accept,s.edges⟩

section Forgetting

variable {α β : Type} {x : Metered α} {y : Option α} {limit : Nat} {part : Construction} {other : Automaton.Construction}

def Forgets (x : Metered α) (y : Option α) : Prop := ∀ m, (x m).1 = y

namespace Forgets

theorem pure (a : α) : Forgets (Pure.pure a) (some a) := fun _ => rfl

theorem bind {f : α → Metered β} {g : α → Option β} (first : Forgets x y) (rest : ∀ a, Forgets (f a) (g a)) :
    Forgets (x >>= f) (y >>= g) := by
  intro m
  change (match x m with | (some a,m) => f a m | (none,m) => (none,m)).1 = _
  rw [← first m]
  rcases x m with ⟨_ | a,m'⟩
  · rfl
  · exact rest a m'

theorem visit {z : Metered α} (rest : Forgets z y) : Forgets (Metered.visit >>= fun _ => z) y := fun _ => rest _

theorem fresh (s : Sketch) : Forgets (Metered.fresh limit s) (s.fresh limit) := by
  intro m
  unfold Metered.fresh
  cases s.fresh limit <;> rfl

end Forgets

theorem pass_forgets (s : Sketch) : Forgets (pass limit s) (Automaton.pass limit s) :=
  (Forgets.fresh s).bind fun _ => .pure _

theorem consume_forgets (c : CharClass) (s : Sketch) : Forgets (consume limit c s) (Automaton.consume limit c s) :=
  (Forgets.fresh s).bind fun made => (Forgets.fresh made.2).bind fun _ => .pure _

theorem spell_forgets (cs : List CodePoint) (f : Fragment) (s : Sketch) :
    Forgets (spell limit f cs s) (Automaton.spell limit f cs s) := by
  induction cs generalizing f s with
  | nil => exact .pure _
  | cons c cs ih => exact (consume_forgets (.single c) s).bind fun _ => ih _ _

theorem copies_forgets (same : ∀ s, Forgets (part s) (other s)) (n : Nat) (f : Fragment) (s : Sketch) :
    Forgets (copies part f n s) (Automaton.copies other f n s) := by
  induction n generalizing f s with
  | zero => exact .pure _
  | succ n ih => exact (same s).bind fun _ => ih _ _

theorem options_forgets (same : ∀ s, Forgets (part s) (other s)) (n : Nat) (f : Fragment) (s : Sketch) :
    Forgets (options limit part f n s) (Automaton.options limit other f n s) := by
  induction n generalizing f s with
  | zero => exact .pure _
  | succ n ih => exact (same s).bind fun copy => (Forgets.fresh copy.2).bind fun _ => ih _ _

theorem loop_forgets (same : ∀ s, Forgets (part s) (other s)) (f : Fragment) (s : Sketch) :
    Forgets (loop limit part f s) (Automaton.loop limit other f s) :=
  (Forgets.fresh s).bind fun made => (same made.2).bind fun _ => .pure _

mutual

theorem construct_forgets : (e : Expr) → (s : Sketch) → Forgets (construct limit e s) (Automaton.construct limit e s)
  | .empty,s => by
    rw [construct,Automaton.construct]
    exact (pass_forgets s).visit
  | .literal [],s => by
    rw [construct,Automaton.construct]
    exact (pass_forgets s).visit
  | .literal (c :: cs),s => by
    rw [construct,Automaton.construct]
    exact ((consume_forgets (.single c) s).bind fun _ => spell_forgets cs _ _).visit
  | .charClass c,s => by
    rw [construct,Automaton.construct]
    exact (consume_forgets c s).visit
  | .group child,s => by
    rw [construct,Automaton.construct]
    exact (construct_forgets child s).visit
  | .concat [],s => by
    rw [construct,Automaton.construct]
    exact (pass_forgets s).visit
  | .concat (child :: children),s => by
    rw [construct,Automaton.construct]
    exact ((construct_forgets child s).bind fun _ => constructAfter_forgets children _ _).visit
  | .alternation children,s => by
    rw [construct,Automaton.construct]
    exact ((Forgets.fresh s).bind fun _ => constructBranches_forgets children _ _ _).visit
  | .repetition least most eager child,s => by
    have inside : ∀ s, Forgets (construct limit child s) (Automaton.construct limit child s) := construct_forgets child
    rw [construct,Automaton.construct]
    refine ((pass_forgets s).bind fun _ => (copies_forgets inside _ _ _).bind fun _ => ?_).visit
    cases most with
    | none => exact loop_forgets inside _ _
    | some most => exact options_forgets inside _ _ _

theorem constructAfter_forgets : (es : List Expr) → (f : Fragment) → (s : Sketch) →
    Forgets (constructAfter limit f es s) (Automaton.constructAfter limit f es s)
  | [],f,s => by
    rw [constructAfter,Automaton.constructAfter]
    exact .pure _
  | e :: es,f,s => by
    rw [constructAfter,Automaton.constructAfter]
    exact (construct_forgets e s).bind fun _ => constructAfter_forgets es _ _

theorem constructBranches_forgets : (es : List Expr) → (fork : Nat) → (outs : List Nat) → (s : Sketch) →
    Forgets (constructBranches limit fork outs es s) (Automaton.constructBranches limit fork outs es s)
  | [],fork,outs,s => by
    rw [constructBranches,Automaton.constructBranches]
    exact .pure _
  | e :: es,fork,outs,s => by
    rw [constructBranches,Automaton.constructBranches]
    exact (construct_forgets e s).bind fun _ => constructBranches_forgets es _ _ _

end

theorem ofExpr?_forgets (limit : Nat) (e : Expr) : Forgets (ofExpr? limit e) (Nfa.ofExpr? limit e) :=
  (construct_forgets e .new).bind fun built => (Forgets.fresh built.2).bind fun _ => .pure _

end Forgetting

section Using

variable {α β : Type} {limit size need more height taller : Nat} {a : α} {b : β} {x : Metered α}

-- Where there are `size` states already, the computation makes `need` more and comes to its result. If the limit does not
-- leave room for so many, it stops as soon as the limit is reached. For each state that is made, and for the one that
-- could not be made, no more than `height` expressions are entered.
structure Uses (limit size need height : Nat) (a : α) (x : Metered α) : Prop where
  enough : size + need ≤ limit → ∀ m, ∃ m', x m = (some a,m') ∧ m'.states = m.states + need ∧
    m'.visits ≤ m.visits + height * need
  short : size ≤ limit → limit < size + need → ∀ m, ∃ m', x m = (none,m') ∧ m'.states = m.states + (limit - size) ∧
    m'.visits ≤ m.visits + height * (limit - size + 1)

theorem bind_some {f : α → Metered β} {m m' : Meter} (ran : x m = (some a,m')) : (x >>= f) m = f a m' := by
  change (match x m with | (some a,m) => f a m | (none,m) => (none,m)) = _
  rw [ran]

theorem bind_none {f : α → Metered β} {m m' : Meter} (ran : x m = (none,m')) : (x >>= f) m = (none,m') := by
  change (match x m with | (some a,m) => f a m | (none,m) => (none,m)) = _
  rw [ran]

namespace Uses

theorem pure (a : α) : Uses limit size 0 height a (Pure.pure a) where
  enough _ m := ⟨m,rfl,rfl,by simp⟩
  short room full := absurd full (Nat.not_lt.mpr room)

theorem mono (uses : Uses limit size need height a x) (higher : height ≤ taller) : Uses limit size need taller a x where
  enough room m := by
    obtain ⟨m',ran,states,visits⟩ := uses.enough room m
    exact ⟨m',ran,states,visits.trans (by gcongr)⟩
  short room full m := by
    obtain ⟨m',ran,states,visits⟩ := uses.short room full m
    exact ⟨m',ran,states,visits.trans (by gcongr)⟩

-- Of two computations one after the other, the second starts with the states of the first.
theorem bind {f : α → Metered β} (first : Uses limit size need height a x)
    (second : Uses limit (size + need) more height b (f a)) : Uses limit size (need + more) height b (x >>= f) where
  enough room m := by
    obtain ⟨m₁,ran₁,states₁,visits₁⟩ := first.enough (by omega) m
    obtain ⟨m₂,ran₂,states₂,visits₂⟩ := second.enough (by omega) m₁
    refine ⟨m₂,(bind_some ran₁).trans ran₂,by omega,?_⟩
    rw [Nat.mul_add]
    omega
  short room full m := by
    by_cases fits : size + need ≤ limit
    · obtain ⟨m₁,ran₁,states₁,visits₁⟩ := first.enough fits m
      obtain ⟨m₂,ran₂,states₂,visits₂⟩ := second.short fits (by omega) m₁
      refine ⟨m₂,(bind_some ran₁).trans ran₂,by omega,?_⟩
      have split : limit - size + 1 = need + (limit - (size + need) + 1) := by omega
      rw [split,Nat.mul_add]
      omega
    · obtain ⟨m₁,ran₁,states₁,visits₁⟩ := first.short room (by omega) m
      exact ⟨m₁,bind_none ran₁,states₁,visits₁⟩

-- An expression is entered for the sake of a state at least.
theorem visit {y : Metered α} (uses : Uses limit size need height a y) (some : 0 < need) :
    Uses limit size need (height + 1) a (Metered.visit >>= fun _ => y) where
  enough room m := by
    obtain ⟨m',ran,states,visits⟩ := uses.enough room ⟨m.states,m.visits + 1⟩
    refine ⟨m',ran,states,visits.trans ?_⟩
    change m.visits + 1 + height * need ≤ _
    rw [Nat.succ_mul]
    omega
  short room full m := by
    obtain ⟨m',ran,states,visits⟩ := uses.short room full ⟨m.states,m.visits + 1⟩
    refine ⟨m',ran,states,visits.trans ?_⟩
    change m.visits + 1 + height * (limit - size + 1) ≤ _
    rw [Nat.succ_mul]
    omega

theorem fresh (limit : Nat) (s : Sketch) :
    Uses limit s.size 1 height (s.size,{s with size := s.size + 1}) (Metered.fresh limit s) where
  enough room m := by
    have made : s.fresh limit = some (s.size,{s with size := s.size + 1}) := if_pos room
    refine ⟨⟨m.states + 1,m.visits⟩,?_,rfl,by simp⟩
    simp only [Metered.fresh,made]
  short room full m := by
    have refused : s.fresh limit = none := if_neg (by omega)
    refine ⟨m,?_,by omega,by simp⟩
    simp only [Metered.fresh,refused]

end Uses

-- Whatever the limit is, the same is added to a sketch, as long as there is room for its states.
def Adds (need height : Nat) (part : Nat → Sketch → Metered (α × Sketch)) : Prop :=
  ∀ s, ∃ a s', s'.size = s.size + need ∧ ∀ limit, Uses limit s.size need height (a,s') (part limit s)

variable {part : Nat → Sketch → Metered (α × Sketch)}

namespace Adds

theorem nothing (a : α) : Adds 0 height fun _ s => Pure.pure (a,s) := fun s => ⟨a,s,rfl,fun _ => .pure _⟩

theorem fresh : Adds 1 height Metered.fresh := fun s => ⟨_,_,rfl,fun limit => .fresh limit s⟩

theorem of_eq {other : Nat → Sketch → Metered (α × Sketch)} (adds : Adds need height other)
    (same : ∀ limit s, part limit s = other limit s) : Adds need height part := by
  rwa [show part = other from funext fun limit => funext (same limit)]

theorem mono (adds : Adds need height part) (higher : height ≤ taller) : Adds need taller part := by
  intro s
  obtain ⟨a,s',size,uses⟩ := adds s
  exact ⟨a,s',size,fun limit => (uses limit).mono higher⟩

theorem visit (adds : Adds need height part) (some : 0 < need) :
    Adds need (height + 1) fun limit s => Metered.visit >>= fun _ => part limit s := by
  intro s
  obtain ⟨a,s',size,uses⟩ := adds s
  exact ⟨a,s',size,fun limit => (uses limit).visit some⟩

theorem linked {link : Sketch → Sketch} (adds : Adds need height part) (same : ∀ s, (link s).size = s.size) :
    Adds need height fun limit s => part limit (link s) := by
  intro s
  obtain ⟨a,s',size,uses⟩ := adds (link s)
  rw [same] at size
  exact ⟨a,s',size,fun limit => same s ▸ uses limit⟩

theorem bind {rest : α → Nat → Sketch → Metered (β × Sketch)} (first : Adds need height part)
    (second : ∀ a, Adds more height (rest a)) :
    Adds (need + more) height fun limit s => part limit s >>= fun made => rest made.1 limit made.2 := by
  intro s
  obtain ⟨a,s₁,size₁,uses₁⟩ := first s
  obtain ⟨b,s₂,size₂,uses₂⟩ := second a s₁
  rw [size₁] at size₂
  refine ⟨b,s₂,by omega,fun limit => (uses₁ limit).bind ?_⟩
  exact size₁ ▸ uses₂ limit

end Adds

variable {copy : Nat → Construction}

theorem pass_adds : Adds 1 height pass := Adds.fresh.bind fun a => .nothing (⟨a,[a]⟩ : Fragment)

theorem consume_adds (c : CharClass) : Adds 2 height fun limit => consume limit c := by
  have linked (a b : Nat) (s : Sketch) : (s.connect a (some c) b).size = s.size := rfl
  exact Adds.fresh.bind fun a => Adds.fresh.bind fun b => (Adds.nothing (⟨a,[b]⟩ : Fragment)).linked (linked a b)

theorem spell_adds (cs : List CodePoint) (f : Fragment) : Adds (2 * cs.length) height fun limit => spell limit f cs := by
  induction cs generalizing f with
  | nil => exact .nothing f
  | cons c cs ih =>
    have length : 2 * (c :: cs).length = 2 + 2 * cs.length := by
      rw [List.length_cons]
      omega
    rw [length]
    exact (consume_adds (.single c)).bind fun part =>
      (ih ⟨f.start,part.outs⟩).linked fun s => s.patch_size f.outs part.start

theorem copies_adds (each : Adds need height copy) (n : Nat) (f : Fragment) :
    Adds (n * need) height fun limit => copies (copy limit) f n := by
  induction n generalizing f with
  | zero =>
    rw [Nat.zero_mul]
    exact .nothing f
  | succ n ih =>
    rw [Nat.succ_mul,Nat.add_comm]
    exact each.bind fun part => (ih ⟨f.start,part.outs⟩).linked fun s => s.patch_size f.outs part.start

theorem options_adds (each : Adds need height copy) (n : Nat) (f : Fragment) :
    Adds (n * (need + 1)) height fun limit => options limit (copy limit) f n := by
  induction n generalizing f with
  | zero =>
    rw [Nat.zero_mul]
    exact .nothing f
  | succ n ih =>
    have linked (part : Fragment) (skip : Nat) (s : Sketch) :
        ((s.patch f.outs skip).patch f.outs part.start).size = s.size := by simp
    rw [Nat.succ_mul,Nat.add_comm,Nat.add_assoc]
    exact each.bind fun part => Adds.fresh.bind fun skip =>
      (ih ⟨f.start,part.outs ++ [skip]⟩).linked (linked part skip)

theorem loop_adds (each : Adds need height copy) (f : Fragment) :
    Adds (1 + need) height fun limit => loop limit (copy limit) f := by
  have linked (hub : Nat) (part : Fragment) (s : Sketch) :
      (((s.patch f.outs hub).connect hub none part.start).patch part.outs hub).size = s.size := by simp [Sketch.connect]
  exact Adds.fresh.bind fun hub => each.bind fun part =>
    (Adds.nothing (⟨f.start,[hub]⟩ : Fragment)).linked (linked hub part)

theorem entered_adds {rest : Fragment → Nat → Construction} (each : Adds need height copy) (least : Nat)
    (follows : ∀ f, Adds more height (rest f)) :
    Adds (1 + (least * need + more)) height fun limit s => pass limit s >>= fun entered =>
      copies (copy limit) entered.1 least entered.2 >>= fun sofar => rest sofar.1 limit sofar.2 :=
  pass_adds.bind fun entry => (copies_adds each least entry).bind follows

mutual

-- Each kind of expression makes its own states and those of its parts.
theorem construct_adds : (e : Expr) → Adds e.stateCount e.height fun limit => construct limit e
  | .empty => (pass_adds.visit Nat.one_pos).of_eq fun limit s => by rw [construct]
  | .literal [] => (pass_adds.visit Nat.one_pos).of_eq fun limit s => by rw [construct]
  | .literal (c :: cs) => by
    have adds : Adds (2 + 2 * cs.length) 0 fun limit s => consume limit (.single c) s >>= fun first =>
        spell limit first.1 cs first.2 := (consume_adds (.single c)).bind (spell_adds cs)
    have count : (Expr.literal (c :: cs)).stateCount = 2 + 2 * cs.length := by
      rw [Expr.stateCount,List.length_cons]
      omega
    rw [count,Expr.height]
    exact (adds.visit (by omega)).of_eq fun limit s => by rw [construct]
  | .charClass c => ((consume_adds c).visit Nat.two_pos).of_eq fun limit s => by rw [construct]
  | .group child => by
    rw [Expr.stateCount,Expr.height]
    exact ((construct_adds child).visit child.stateCount_pos).of_eq fun limit s => by rw [construct]
  | .concat [] => (pass_adds.visit Nat.one_pos).of_eq fun limit s => by rw [construct]
  | .concat (child :: children) => by
    have first := (construct_adds child).mono (Nat.le_max_left child.height (Expr.greatestHeight children))
    have adds := first.bind fun f => (constructAfter_adds children f).mono (Nat.le_max_right _ _)
    have positive := child.stateCount_pos
    rw [Expr.stateCount,Expr.height,Expr.totalCount,Expr.greatestHeight,Nat.max_eq_right (by omega)]
    exact (adds.visit (by omega)).of_eq fun limit s => by rw [construct]
  | .alternation children => by
    have adds := Adds.fresh.bind fun fork => constructBranches_adds children fork []
    rw [Expr.stateCount,Expr.height]
    exact (adds.visit (by omega)).of_eq fun limit s => by rw [construct]
  | .repetition least none eager child => by
    have adds := entered_adds (construct_adds child) least.toNat (loop_adds (construct_adds child))
    have count : (Expr.repetition least none eager child).stateCount =
        1 + (least.toNat * child.stateCount + (1 + child.stateCount)) := by
      rw [Expr.stateCount,Nat.succ_mul]
      omega
    rw [count,Expr.height]
    exact (adds.visit (by omega)).of_eq fun limit s => by rw [construct]
  | .repetition least (some most) eager child => by
    have adds := entered_adds (construct_adds child) least.toNat (options_adds (construct_adds child) (most - least).toNat)
    rw [Expr.stateCount,Expr.height,Nat.add_assoc]
    exact (adds.visit (by omega)).of_eq fun limit s => by rw [construct]

theorem constructAfter_adds : (es : List Expr) → (f : Fragment) →
    Adds (Expr.totalCount es) (Expr.greatestHeight es) fun limit => constructAfter limit f es
  | [],f => (Adds.nothing f).of_eq fun limit s => by rw [constructAfter]
  | e :: es,f => by
    have first := (construct_adds e).mono (Nat.le_max_left e.height (Expr.greatestHeight es))
    have rest (f : Fragment) := (constructAfter_adds es f).mono (Nat.le_max_right e.height (Expr.greatestHeight es))
    have adds := first.bind fun part => (rest ⟨f.start,part.outs⟩).linked fun s => s.patch_size f.outs part.start
    rw [Expr.totalCount,Expr.greatestHeight]
    exact adds.of_eq fun limit s => by
      rw [constructAfter]
      rfl

theorem constructBranches_adds : (es : List Expr) → (fork : Nat) → (outs : List Nat) →
    Adds (Expr.totalCount es) (Expr.greatestHeight es) fun limit => constructBranches limit fork outs es
  | [],fork,outs => (Adds.nothing (⟨fork,outs⟩ : Fragment)).of_eq fun limit s => by rw [constructBranches]
  | e :: es,fork,outs => by
    have linked (branch : Fragment) (s : Sketch) : (s.connect fork none branch.start).size = s.size := rfl
    have first := (construct_adds e).mono (Nat.le_max_left e.height (Expr.greatestHeight es))
    have rest (outs : List Nat) :=
      (constructBranches_adds es fork outs).mono (Nat.le_max_right e.height (Expr.greatestHeight es))
    have adds := first.bind fun branch => (rest (outs ++ branch.outs)).linked (linked branch)
    rw [Expr.totalCount,Expr.greatestHeight]
    exact adds.of_eq fun limit s => by rw [constructBranches]

end

theorem ofExpr?_uses (e : Expr) : ∃ n : Nfa, n.size = e.stateCount + 1 ∧
    ∀ limit, Uses limit 0 (e.stateCount + 1) e.height n (ofExpr? limit e) := by
  obtain ⟨whole,s,size,uses⟩ := construct_adds e .new
  let last : Sketch := Sketch.patch {s with size := s.size + 1} whole.outs s.size
  have count : s.size = 0 + e.stateCount := size
  refine ⟨⟨last.size,whole.start,s.size,last.edges⟩,?_,fun limit => ?_⟩
  · change last.size = _
    rw [Sketch.patch_size,count,Nat.zero_add]
  · have start : Sketch.new.size + e.stateCount = s.size := size.symm
    refine (uses limit).bind ?_
    rw [start]
    change Uses limit s.size (1 + 0) e.height _ _
    exact (Uses.fresh limit s).bind (.pure _)

theorem ofExpr?_counted (e : Expr) : ∃ n : Nfa, n.size = e.stateCount + 1 ∧ ∀ bound, ∃ used,
    ofExpr? bound e ⟨0,0⟩ = (if e.stateCount + 1 ≤ bound then some n else none,used) ∧
      used.states = min (e.stateCount + 1) bound ∧ used.visits ≤ e.height * (bound + 1) := by
  obtain ⟨n,size,uses⟩ := ofExpr?_uses e
  refine ⟨n,size,fun bound => ?_⟩
  by_cases room : e.stateCount + 1 ≤ bound
  · obtain ⟨used,ran,states,visits⟩ := (uses bound).enough (by omega) ⟨0,0⟩
    have within : e.height * (e.stateCount + 1) ≤ e.height * (bound + 1) := Nat.mul_le_mul_left _ (by omega)
    simp only [Nat.zero_add] at states visits
    rw [if_pos room]
    exact ⟨used,ran,by omega,visits.trans within⟩
  · obtain ⟨used,ran,states,visits⟩ := (uses bound).short (Nat.zero_le bound) (by omega) ⟨0,0⟩
    simp only [Nat.zero_add,Nat.sub_zero] at states visits
    rw [if_neg room]
    exact ⟨used,ran,by omega,visits⟩

end Using

end Metered

theorem Nfa.ofExpr?_eq (e : Expr) : ∃ n : Nfa, n.size = e.stateCount + 1 ∧ ∀ bound,
    ofExpr? bound e = if e.stateCount + 1 ≤ bound then some n else none := by
  obtain ⟨n,size,counted⟩ := Metered.ofExpr?_counted e
  refine ⟨n,size,fun bound => ?_⟩
  obtain ⟨used,ran,_⟩ := counted bound
  rw [← Metered.ofExpr?_forgets bound e ⟨0,0⟩,ran]

-- The automaton of an expression is the same under every limit that allows its states, and any other limit ends the
-- construction. By then as many states have been made as there are or as are allowed, and the number of expressions that
-- were entered is bounded by the limit and the height alone, whatever the counts of repetitions are.
theorem Nfa.ofExpr_counted (e : Expr) : ∃ n : Nfa, n.size = e.stateCount + 1 ∧ ∀ limit,
    (ofExpr limit e =
      if e.stateCount + 1 ≤ inForce defaultLimit limit then .ok n else .error ⟨.nfa,inForce defaultLimit limit⟩) ∧
      ∃ used, Metered.ofExpr? (inForce defaultLimit limit) e ⟨0,0⟩ = (ofExpr? (inForce defaultLimit limit) e,used) ∧
        used.states = min (e.stateCount + 1) (inForce defaultLimit limit) ∧
        used.visits ≤ e.height * (inForce defaultLimit limit + 1) := by
  obtain ⟨n,size,counted⟩ := Metered.ofExpr?_counted e
  refine ⟨n,size,fun limit => ?_⟩
  dsimp only [ofExpr]
  generalize inForce defaultLimit limit = bound
  obtain ⟨used,ran,states,visits⟩ := counted bound
  have outcome : ofExpr? bound e = if e.stateCount + 1 ≤ bound then some n else none := by
    rw [← Metered.ofExpr?_forgets bound e ⟨0,0⟩,ran]
  refine ⟨?_,used,by rw [ran,outcome],states,visits⟩
  by_cases room : e.stateCount + 1 ≤ bound
  · rw [outcome,if_pos room,if_pos room]
  · rw [outcome,if_neg room,if_neg room]

example : (Nfa.ofExpr? 10 (.repetition 0x7FFFFFFFFFFFFFFF none true (.literal [0x61]))).isNone = true := by rfl

end LexPattern.Automaton
