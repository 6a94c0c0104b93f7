import Mathlib
import LexPattern.Proofs.Interval.Algebra
import LexPattern.Proofs.Scalar

namespace LexPattern.IntervalSet

-- An operation stores its result in the set `target`; `operand` is the other set it reads.
inductive Instruction (α : Type u) where
  | new (target : Nat) (ivs : List (Interval α))
  | add (target : Nat) (iv : Interval α)
  | union (target operand : Nat)
  | inter (target operand : Nat)
  | diff (target operand : Nat)
  | symmDiff (target operand : Nat)
  | complement (target : Nat)
  | normalize (target : Nat)

variable {α : Type u} [LinearOrder α] {D : Domain α} {S : Set α}

namespace Instruction

def apply (D : Domain α) (sets : Nat → IntervalSet α) : Instruction α → Except (InvertedRange α) (Nat → IntervalSet α)
  | new target ivs => (ofList? D ivs).map (Function.update sets target)
  | add target iv => ((sets target).insert? D iv).map (Function.update sets target)
  | union target operand => .ok (Function.update sets target ((sets target).union D (sets operand)))
  | inter target operand => .ok (Function.update sets target ((sets target).inter (sets operand)))
  | diff target operand => .ok (Function.update sets target ((sets target).diff D (sets operand)))
  | symmDiff target operand => .ok (Function.update sets target ((sets target).symmDiff D (sets operand)))
  | complement target => .ok (Function.update sets target ((sets target).complement D))
  | normalize target => .ok (Function.update sets target ((sets target).normalize D))

def meaning (members : Nat → α → Bool) : Instruction α → Nat → α → Bool
  | new target ivs => Function.update members target fun x => ivs.any fun iv => decide (iv.lo ≤ x ∧ x ≤ iv.hi)
  | add target iv => Function.update members target fun x => members target x || decide (iv.lo ≤ x ∧ x ≤ iv.hi)
  | union target operand => Function.update members target fun x => members target x || members operand x
  | inter target operand => Function.update members target fun x => members target x && members operand x
  | diff target operand => Function.update members target fun x => members target x && !members operand x
  | symmDiff target operand => Function.update members target fun x => members target x ^^ members operand x
  | complement target => Function.update members target fun x => !members target x
  | normalize _ => members

def Admissible (S : Set α) : Instruction α → Prop
  | new _ ivs => ∀ iv ∈ ivs, iv.lo ≤ iv.hi ∧ iv.lo ∈ S ∧ iv.hi ∈ S
  | add _ iv => iv.lo ≤ iv.hi ∧ iv.lo ∈ S ∧ iv.hi ∈ S
  | _ => True

end Instruction

-- Every numbered set is spread out and has the members it should have.
def Tracks (S : Set α) (sets : Nat → IntervalSet α) (members : Nat → α → Bool) : Prop :=
  ∀ r, Represents S (sets r) fun x => members r x = true

theorem Tracks.update {sets : Nat → IntervalSet α} {members : Nat → α → Bool} {s : IntervalSet α} {m : α → Bool}
    (tracks : Tracks S sets members) (target : Nat) (holds : Represents S s fun x => m x = true) :
    Tracks S (Function.update sets target s) (Function.update members target m) := by
  intro r
  by_cases same : r = target
  · subst same
    simpa using holds
  · simpa [same] using tracks r

theorem firstInverted?_eq_none {ivs : List (Interval α)} (valid : ∀ iv ∈ ivs, iv.lo ≤ iv.hi) :
    firstInverted? ivs = none := by
  rw [firstInverted?,List.findSome?_eq_none_iff]
  intro iv member
  simp [not_lt.mpr (valid iv member)]

theorem Instruction.apply_tracks (lawful : D.Lawful S) {sets : Nat → IntervalSet α} {members : Nat → α → Bool}
    (tracks : Tracks S sets members) {op : Instruction α} (admissible : op.Admissible S) :
    ∃ next, op.apply D sets = .ok next ∧ Tracks S next (op.meaning members) := by
  cases op with
  | new target ivs =>
    have valid : ∀ iv ∈ ivs, iv.Valid S := fun iv member =>
      ⟨(admissible iv member).1,(admissible iv member).2.1,(admissible iv member).2.2⟩
    have inOrder := firstInverted?_eq_none fun iv member => (admissible iv member).1
    refine ⟨_,by rw [apply,ofList?,inOrder]; rfl,tracks.update target ?_⟩
    refine (Represents.ofList lawful valid).congr fun x _ => ?_
    simp [Covers,Interval.mem_def]
  | add target iv =>
    have inOrder : firstInverted? [iv] = none := firstInverted?_eq_none (by simpa using admissible.1)
    refine ⟨_,by rw [apply,insert?,inOrder]; rfl,tracks.update target ?_⟩
    refine ((tracks target).insert lawful ⟨admissible.1,admissible.2.1,admissible.2.2⟩).congr fun x _ => ?_
    simp [Interval.mem_def]
  | union target operand =>
    refine ⟨_,rfl,tracks.update target (((tracks target).union lawful (tracks operand)).congr fun x _ => ?_)⟩
    simp
  | inter target operand =>
    refine ⟨_,rfl,tracks.update target (((tracks target).inter (tracks operand)).congr fun x _ => ?_)⟩
    simp
  | diff target operand =>
    refine ⟨_,rfl,tracks.update target (((tracks target).diff lawful (tracks operand)).congr fun x _ => ?_)⟩
    simp
  | symmDiff target operand =>
    refine ⟨_,rfl,tracks.update target (((tracks target).symmDiff lawful (tracks operand)).congr fun x _ => ?_)⟩
    cases members target x <;> cases members operand x <;> simp
  | complement target =>
    refine ⟨_,rfl,tracks.update target (((tracks target).complement lawful).congr fun x _ => ?_)⟩
    simp
  | normalize target =>
    refine ⟨_,rfl,?_⟩
    have kept := tracks.update target ((tracks target).normalize lawful)
    rwa [Function.update_eq_self] at kept

-- A run from sets that track their members ends in sets that track what the program means.
theorem foldlM_tracks (lawful : D.Lawful S) {sets : Nat → IntervalSet α} {members : Nat → α → Bool}
    (tracks : Tracks S sets members) (program : List (Instruction α)) (admissible : ∀ op ∈ program, op.Admissible S) :
    ∃ final, program.foldlM (Instruction.apply D) sets = .ok final ∧
      Tracks S final (program.foldl Instruction.meaning members) := by
  induction program generalizing sets members with
  | nil => exact ⟨sets,rfl,tracks⟩
  | cons op program ih =>
    obtain ⟨next,applied,tracked⟩ := Instruction.apply_tracks lawful tracks (admissible op (by simp))
    obtain ⟨final,ran,ended⟩ := ih tracked fun op member => admissible op (by simp [member])
    refine ⟨final,?_,ended⟩
    rw [List.foldlM_cons,applied]
    exact ran

theorem programs_compute_boolean_algebra :
    scalars.Lawful {c | CodePoint.isScalar c = true} ∧
    ∀ {α : Type u} [LinearOrder α] (D : Domain α) (S : Set α), D.Lawful S →
      ∀ program : List (Instruction α), (∀ op ∈ program, op.Admissible S) →
        ∃ sets, program.foldlM (Instruction.apply D) (fun _ => IntervalSet.empty) = .ok sets ∧
          ∀ r, (sets r).Normal D S ∧
            ∀ x ∈ S, (sets r).contains x = program.foldl Instruction.meaning (fun _ _ => false) r x := by
  refine ⟨scalars_lawful,?_⟩
  intro α _ D S lawful program admissible
  have empty : Tracks S (fun _ => IntervalSet.empty) fun _ (_ : α) => false :=
    fun _ => Represents.empty.congr fun _ _ => by simp
  obtain ⟨sets,ran,tracks⟩ := foldlM_tracks lawful empty program admissible
  refine ⟨sets,ran,fun r => ⟨(normal_iff_spread lawful).mpr (tracks r).spread,fun x inX => ?_⟩⟩
  exact Bool.eq_iff_iff.mpr ((tracks r).contains_iff inX)

-- Two sets that touch across the gap of the surrogates, joined, complemented and compared.
def acrossGap : List (Instruction CodePoint) :=
  [.new 0 [⟨0x61,0xD7FF⟩],.new 1 [⟨0xE000,0xE010⟩,⟨0x62,0x63⟩],.union 0 1,.complement 1,.symmDiff 0 1,.add 1 ⟨0,0x10FFFF⟩]

theorem programs_compute_boolean_algebra_acrossGap :
    ∃ sets, acrossGap.foldlM (Instruction.apply scalars) (fun _ => IntervalSet.empty) = .ok sets ∧
      ∀ r, (sets r).Normal scalars {c | CodePoint.isScalar c = true} ∧
        ∀ x : CodePoint, x.isScalar = true →
          (sets r).contains x = acrossGap.foldl Instruction.meaning (fun _ _ => false) r x := by
  refine programs_compute_boolean_algebra.2 scalars _ scalars_lawful acrossGap ?_
  simp only [acrossGap,List.forall_mem_cons,Instruction.Admissible,List.not_mem_nil,false_implies,implies_true,and_true,
    CodePoint.mem_scalars]
  decide

end LexPattern.IntervalSet
