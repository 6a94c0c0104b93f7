import Mathlib
import LexPattern.CharClass
import LexPattern.Proofs.Interval.Algebra
import LexPattern.Proofs.Scalar

namespace LexPattern.CharClass

open CodePoint (Scalars Ends surrogateLast)

def Normal (c : CharClass) : Prop := c.ranges.Normal scalars Scalars

def Denotes (c : CharClass) (p : CodePoint → Prop) : Prop := c.ranges.Represents Scalars p

variable {c d : CharClass} {p q : CodePoint → Prop} {x : CodePoint}

theorem Normal.denotes (normal : c.Normal) : c.Denotes fun x => Covers c.toList x :=
  ⟨(IntervalSet.normal_iff_spread scalars_lawful).mp normal,fun _ _ => Iff.rfl⟩

namespace Denotes

theorem normal (denotes : c.Denotes p) : c.Normal := (IntervalSet.normal_iff_spread scalars_lawful).mpr denotes.spread

theorem contains_iff (denotes : c.Denotes p) : c.contains x = true ↔ x.isScalar = true ∧ p x := by
  rw [contains,Bool.and_eq_true]
  exact and_congr_right fun scalar => IntervalSet.Represents.contains_iff denotes scalar

theorem congr (denotes : c.Denotes p) (same : ∀ x, x.isScalar = true → (p x ↔ q x)) : c.Denotes q :=
  IntervalSet.Represents.congr denotes same

theorem unique (one : c.Denotes p) (other : d.Denotes p) : c = d := by
  cases c
  cases d
  exact congrArg CharClass.mk (IntervalSet.Represents.unique one other fun _ _ => Iff.rfl)

theorem empty : CharClass.empty.Denotes fun _ => False := IntervalSet.Represents.empty

theorem any : CharClass.any.Denotes fun _ => True := IntervalSet.Represents.full scalars_lawful

theorem range {lo hi : CodePoint} (order : lo ≤ hi) (lower : lo.isScalar = true) (upper : hi.isScalar = true) :
    (ofRanges [⟨lo,hi⟩]).Denotes fun x => lo ≤ x ∧ x ≤ hi := by
  have valid : ∀ iv ∈ [(⟨lo,hi⟩ : Interval CodePoint)], iv.Valid Scalars := by
    intro iv member
    cases List.mem_singleton.mp member
    exact ⟨order,lower,upper⟩
  refine (IntervalSet.Represents.ofList scalars_lawful valid).congr fun x _ => ?_
  simp [Interval.mem_def]

theorem single (scalar : x.isScalar = true) : (CharClass.single x).Denotes fun y => y = x :=
  (range (Int.le_refl x) scalar scalar).congr fun _ _ =>
    ⟨fun held => Int.le_antisymm held.2 held.1,fun same => by subst same; exact ⟨Int.le_refl _,Int.le_refl _⟩⟩

theorem insert (denotes : c.Denotes p) (scalar : x.isScalar = true) : (c.insert x).Denotes fun y => p y ∨ y = x := by
  have valid : (⟨x,x⟩ : Interval CodePoint).Valid Scalars := ⟨Int.le_refl x,scalar,scalar⟩
  refine (IntervalSet.Represents.insert scalars_lawful denotes valid).congr fun y _ => or_congr_right ?_
  constructor
  · intro inside
    exact Int.le_antisymm inside.2 inside.1
  · intro same
    subst same
    exact ⟨Int.le_refl _,Int.le_refl _⟩

theorem union (left : c.Denotes p) (right : d.Denotes q) : (c.union d).Denotes fun x => p x ∨ q x :=
  IntervalSet.Represents.union scalars_lawful left right

theorem inter (left : c.Denotes p) (right : d.Denotes q) : (c.inter d).Denotes fun x => p x ∧ q x :=
  IntervalSet.Represents.inter left right

theorem diff (left : c.Denotes p) (right : d.Denotes q) : (c.diff d).Denotes fun x => p x ∧ ¬ q x :=
  IntervalSet.Represents.diff scalars_lawful left right

theorem symmDiff (left : c.Denotes p) (right : d.Denotes q) :
    (c.symmDiff d).Denotes fun x => (p x ∧ ¬ q x) ∨ (q x ∧ ¬ p x) :=
  IntervalSet.Represents.symmDiff scalars_lawful left right

theorem complement (denotes : c.Denotes p) : c.complement.Denotes fun x => ¬ p x :=
  IntervalSet.Represents.complement scalars_lawful denotes

end Denotes

-- Ranges from scalars on may end anywhere: the class of them still holds the scalars that they hold.
theorem contains_ofRanges {rs : List (Interval CodePoint)} (starts : ∀ r ∈ rs, r.lo.isScalar = true ∧ r.lo ≤ r.hi)
    (scalar : x.isScalar = true) : (ofRanges rs).contains x = true ↔ Covers rs x := by
  have rooted : ∀ r ∈ rs, r.Rooted Scalars Set.univ := fun r member => ⟨(starts r member).2,(starts r member).1,trivial⟩
  rw [contains,scalar,Bool.true_and]
  exact IntervalSet.contains_ofList scalars_steady rooted scalar

-- Ranges from left to right, each from a scalar to a scalar or to the last surrogate.
structure Tidy (c : CharClass) : Prop where
  starts : ∀ r ∈ c.toList, r.lo.isScalar = true ∧ r.lo ≤ r.hi
  ends : ∀ r ∈ c.toList, r.hi.isScalar = true ∨ r.hi = surrogateLast
  order : c.toList.Pairwise fun a b => a.hi < b.lo

theorem Normal.tidy (normal : c.Normal) : c.Tidy where
  starts := fun r member => ⟨(normal.valid r member).2.1,(normal.valid r member).1⟩
  ends := fun r member => .inl (normal.valid r member).2.2
  order := normal.apart.imp And.left

theorem ofRanges_tidy {rs : List (Interval CodePoint)} (starts : ∀ r ∈ rs, r.lo.isScalar = true ∧ r.lo ≤ r.hi)
    (ends : ∀ r ∈ rs, r.hi.isScalar = true ∨ r.hi = surrogateLast) : (ofRanges rs).Tidy := by
  have steady : scalars.Steady Scalars Ends := fun v _ => scalars_steady v trivial
  have rooted : ∀ r ∈ rs, r.Rooted Scalars Ends := fun r member => ⟨(starts r member).2,(starts r member).1,ends r member⟩
  obtain ⟨kept,before,_⟩ := IntervalSet.ofList_keeps (R := fun a b => a.hi < b.lo) steady
    (fun _ _ separate => IntervalSet.before_of_not_joins separate) (fun before starts => before.trans_le starts) rooted
  exact ⟨fun r member => ⟨(kept r member).lower,(kept r member).order⟩,fun r member => (kept r member).upper,before⟩

theorem Tidy.contains_iff (tidy : c.Tidy) : c.contains x = true ↔ x.isScalar = true ∧ Covers c.toList x := by
  rw [contains,Bool.and_eq_true]
  have ordered : ∀ r ∈ c.toList, r.lo ≤ r.hi := fun r member => (tidy.starts r member).2
  exact and_congr_right fun _ => IntervalSet.contains_iff_covers_of_ordered ordered tidy.order

end LexPattern.CharClass
