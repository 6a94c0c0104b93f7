import Mathlib
import LexPattern.Proofs.CharClass

namespace LexPattern

namespace IntervalSet

variable {α : Type u} [LinearOrder α] {D : Domain α} {S : Set α} {a b c : IntervalSet α}

theorem Normal.represents (lawful : D.Lawful S) (normal : a.Normal D S) : Represents S a fun x => a.contains x = true := by
  have spread := (normal_iff_spread lawful).mp normal
  exact ⟨spread,fun _ _ => (contains_iff_covers spread).symm⟩

structure Laws (D : Domain α) (a b c : IntervalSet α) : Prop where
  union_comm : a.union D b = b.union D a
  union_assoc : (a.union D b).union D c = a.union D (b.union D c)
  inter_comm : a.inter b = b.inter a
  inter_assoc : (a.inter b).inter c = a.inter (b.inter c)
  inter_union : a.inter (b.union D c) = (a.inter b).union D (a.inter c)
  union_inter : a.union D (b.inter c) = (a.union D b).inter (a.union D c)
  complement_complement : (a.complement D).complement D = a
  complement_union : (a.union D b).complement D = (a.complement D).inter (b.complement D)
  diff_eq : a.diff D b = a.inter (b.complement D)
  symmDiff_eq : a.symmDiff D b = (a.union D b).diff D (a.inter b)
  normalize_eq : a.normalize D = a

section Laws

variable {p q r : α → Prop}

theorem Represents.laws (lawful : D.Lawful S) (inA : Represents S a p) (inB : Represents S b q) (inC : Represents S c r) :
    Laws D a b c where
  union_comm := (inA.union lawful inB).unique (inB.union lawful inA) fun _ _ => or_comm
  union_assoc :=
    ((inA.union lawful inB).union lawful inC).unique (inA.union lawful (inB.union lawful inC)) fun _ _ => or_assoc
  inter_comm := (inA.inter inB).unique (inB.inter inA) fun _ _ => and_comm
  inter_assoc := ((inA.inter inB).inter inC).unique (inA.inter (inB.inter inC)) fun _ _ => and_assoc
  inter_union :=
    (inA.inter (inB.union lawful inC)).unique ((inA.inter inB).union lawful (inA.inter inC)) fun _ _ => and_or_left
  union_inter :=
    (inA.union lawful (inB.inter inC)).unique ((inA.union lawful inB).inter (inA.union lawful inC)) fun _ _ => or_and_left
  complement_complement := ((inA.complement lawful).complement lawful).unique inA fun _ _ => not_not
  complement_union :=
    ((inA.union lawful inB).complement lawful).unique ((inA.complement lawful).inter (inB.complement lawful))
      fun _ _ => not_or
  diff_eq := (inA.diff lawful inB).unique (inA.inter (inB.complement lawful)) fun _ _ => Iff.rfl
  symmDiff_eq := rfl
  normalize_eq := (inA.normalize lawful).unique inA fun _ _ => Iff.rfl

end Laws

end IntervalSet

namespace CharClass

variable {c d : CharClass}

theorem Normal.denotes_contains (normal : c.Normal) : c.Denotes fun x => c.contains x = true := by
  refine normal.denotes.congr fun x scalar => ?_
  rw [normal.denotes.contains_iff]
  simp [scalar]

theorem beq_iff_contains (normal : c.Normal) (alsoNormal : d.Normal) :
    (c == d) = true ↔ ∀ x : CodePoint, x.isScalar = true → c.contains x = d.contains x := by
  rw [beq_iff_eq]
  constructor
  · intro same x _
    rw [same]
  · intro same
    refine normal.denotes_contains.unique (alsoNormal.denotes_contains.congr fun x scalar => ?_)
    rw [same x scalar]

end CharClass

-- Normal sets are told apart by their values only, so they obey the laws of sets exactly, and comparing two classes
-- compares the scalars they denote.
theorem normal_forms_unique :
    (∀ {α : Type u} [LinearOrder α] (D : Domain α) (S : Set α), D.Lawful S →
      (∀ a b : IntervalSet α, a.Normal D S → b.Normal D S → (∀ x ∈ S, a.contains x = b.contains x) → a = b) ∧
      ∀ a b c : IntervalSet α, a.Normal D S → b.Normal D S → c.Normal D S → IntervalSet.Laws D a b c) ∧
    ∀ c d : CharClass, c.Normal → d.Normal →
      ((c == d) = true ↔ ∀ x : CodePoint, x.isScalar = true → c.contains x = d.contains x) := by
  refine ⟨?_,fun c d => CharClass.beq_iff_contains⟩
  intro α _ D S lawful
  constructor
  · intro a b normalA normalB same
    refine (normalA.represents lawful).unique (normalB.represents lawful) fun x inX => ?_
    rw [same x inX]
  · intro a b c normalA normalB normalC
    exact (normalA.represents lawful).laws lawful (normalB.represents lawful) (normalC.represents lawful)

def belowGap : CharClass := .ofRanges [⟨0xD700,0xD7FF⟩]

def aboveGap : CharClass := .ofRanges [⟨0xE000,0xE010⟩]

def aroundGap : CharClass := .ofRanges [⟨0xD700,0xE010⟩]

theorem normal_forms_unique_aroundGap :
    IntervalSet.Laws scalars belowGap.ranges aboveGap.ranges aroundGap.ranges ∧
      (belowGap.union aboveGap == aroundGap) = true := by
  have below := CharClass.Denotes.range (show (0xD700 : Int) ≤ 0xD7FF by decide) (by decide) (by decide)
  have above := CharClass.Denotes.range (show (0xE000 : Int) ≤ 0xE010 by decide) (by decide) (by decide)
  have around := CharClass.Denotes.range (show (0xD700 : Int) ≤ 0xE010 by decide) (by decide) (by decide)
  have joined := below.union above
  obtain ⟨sets,classes⟩ := normal_forms_unique
  refine ⟨(sets scalars _ scalars_lawful).2 _ _ _ below.normal above.normal around.normal,?_⟩
  refine (classes _ _ joined.normal around.normal).mpr fun (x : Int) scalar => Bool.eq_iff_iff.mpr ?_
  obtain ⟨_,_,notBetween⟩ := CodePoint.isScalar_iff.mp scalar
  rw [joined.contains_iff,around.contains_iff]
  refine and_congr_right fun _ => ?_
  change (0xD700 ≤ x ∧ x ≤ 0xD7FF) ∨ (0xE000 ≤ x ∧ x ≤ 0xE010) ↔ 0xD700 ≤ x ∧ x ≤ 0xE010
  omega

end LexPattern
