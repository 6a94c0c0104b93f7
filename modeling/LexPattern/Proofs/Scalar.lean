import Mathlib
import LexPattern.Proofs.Interval.Normal
import LexPattern.Scalar

namespace LexPattern

def windowValues (least greatest : Int) (hole : Option Hole) : Set Int :=
  {v | least ≤ v ∧ v ≤ greatest ∧ ∀ h ∈ hole, v ≤ h.below ∨ h.above ≤ v}

theorem window_succ_isLeast {least greatest v : Int} {hole : Option Hole}
    (inside : ∀ h ∈ hole, least ≤ h.below ∧ h.below < h.above ∧ h.above ≤ greatest)
    (inV : v ∈ windowValues least greatest hole) (notLast : v ≠ greatest) :
    ∃ w, (Domain.window least greatest hole).succ? v = some w ∧
      IsLeast {u | u ∈ windowValues least greatest hole ∧ v < u} w := by
  obtain ⟨lower,upper,outside⟩ := inV
  have notEnd : ¬ greatest ≤ v := by omega
  cases hole with
  | none =>
    refine ⟨v + 1,by simp [Domain.window,notEnd],⟨⟨by omega,by omega,by simp⟩,by omega⟩,?_⟩
    rintro u ⟨_,above⟩
    omega
  | some h =>
    obtain ⟨holeLow,holeOrder,holeHigh⟩ := inside h rfl
    have apart := outside h rfl
    by_cases atEdge : v = h.below
    · subst atEdge
      refine ⟨h.above,by simp [Domain.window,notEnd],⟨⟨by omega,by omega,by simp⟩,by omega⟩,?_⟩
      rintro u ⟨⟨_,_,apartU⟩,above⟩
      have := apartU h rfl
      omega
    · refine ⟨v + 1,by simp [Domain.window,notEnd,atEdge],⟨⟨by omega,by omega,?_⟩,by omega⟩,?_⟩
      · rintro _ ⟨⟩
        omega
      · rintro u ⟨_,above⟩
        omega

theorem window_pred_isGreatest {least greatest v : Int} {hole : Option Hole}
    (inside : ∀ h ∈ hole, least ≤ h.below ∧ h.below < h.above ∧ h.above ≤ greatest)
    (inV : v ∈ windowValues least greatest hole) (notFirst : v ≠ least) :
    ∃ w, (Domain.window least greatest hole).pred? v = some w ∧
      IsGreatest {u | u ∈ windowValues least greatest hole ∧ u < v} w := by
  obtain ⟨lower,upper,outside⟩ := inV
  have notStart : ¬ v ≤ least := by omega
  cases hole with
  | none =>
    refine ⟨v - 1,by simp [Domain.window,notStart],⟨⟨by omega,by omega,by simp⟩,by omega⟩,?_⟩
    rintro u ⟨_,below⟩
    omega
  | some h =>
    obtain ⟨holeLow,holeOrder,holeHigh⟩ := inside h rfl
    have apart := outside h rfl
    by_cases atEdge : v = h.above
    · subst atEdge
      refine ⟨h.below,by simp [Domain.window,notStart],⟨⟨by omega,by omega,by simp⟩,by omega⟩,?_⟩
      rintro u ⟨⟨_,_,apartU⟩,below⟩
      have := apartU h rfl
      omega
    · refine ⟨v - 1,by simp [Domain.window,notStart,atEdge],⟨⟨by omega,by omega,?_⟩,by omega⟩,?_⟩
      · rintro _ ⟨⟩
        omega
      · rintro u ⟨_,below⟩
        omega

theorem window_lawful {least greatest : Int} {hole : Option Hole} (order : least ≤ greatest)
    (inside : ∀ h ∈ hole, least ≤ h.below ∧ h.below < h.above ∧ h.above ≤ greatest) :
    (Domain.window least greatest hole).Lawful (windowValues least greatest hole) where
  least := ⟨⟨le_rfl,order,fun h found => .inl (inside h found).1⟩,fun _ held => held.1⟩
  greatest := ⟨⟨order,le_rfl,fun h found => .inr (inside h found).2.2⟩,fun _ held => held.2.1⟩
  succ_greatest := by simp [Domain.window]
  pred_least := by simp [Domain.window]
  succ _ := window_succ_isLeast inside
  pred _ := window_pred_isGreatest inside

-- Stepping up is in order from any integer, also from one that is no value.
theorem window_steady {least greatest : Int} {hole : Option Hole} (order : ∀ h ∈ hole, h.below < h.above) :
    (Domain.window least greatest hole).Steady (windowValues least greatest hole) Set.univ := by
  intro v _ w stepped
  simp only [Domain.window] at stepped
  split at stepped
  · cases stepped
  · split at stepped
    · rename_i h
      have holeOrder := order h rfl
      split at stepped
      · rename_i atEdge
        cases stepped
        refine ⟨by omega,?_⟩
        rintro u ⟨_,_,outside⟩ above
        have apart := outside h rfl
        omega
      · cases stepped
        exact ⟨by omega,fun u _ above => by omega⟩
    · cases stepped
      exact ⟨by omega,fun u _ above => by omega⟩

namespace CodePoint

def Scalars : Set CodePoint := {c | c.isScalar = true}

def Ends : Set CodePoint := {c | c.isScalar = true ∨ c = surrogateLast}

theorem isScalar_iff {c : Int} :
    isScalar c = true ↔ 0 ≤ c ∧ c ≤ 0x10FFFF ∧ (c < 0xD800 ∨ 0xDFFF < c) := by
  simp only [isScalar,Bool.and_eq_true,Bool.or_eq_true,decide_eq_true_eq,and_assoc]
  exact Iff.rfl

theorem mem_scalars {c : CodePoint} : c ∈ Scalars ↔ c.isScalar = true := Iff.rfl

end CodePoint

theorem scalars_eq_window : CodePoint.Scalars = windowValues 0 CodePoint.greatest
    (some ⟨CodePoint.surrogateFirst - 1,CodePoint.surrogateLast + 1⟩) := by
  ext (c : Int)
  rw [CodePoint.mem_scalars,CodePoint.isScalar_iff]
  simp only [windowValues,CodePoint.greatest,CodePoint.surrogateFirst,CodePoint.surrogateLast,Set.mem_ofPred_eq,
    Option.mem_some_iff,forall_eq']
  omega

theorem scalars_lawful : scalars.Lawful CodePoint.Scalars := by
  rw [scalars_eq_window]
  exact window_lawful (by decide) (by simp [CodePoint.greatest,CodePoint.surrogateFirst,CodePoint.surrogateLast])

theorem scalars_steady : scalars.Steady CodePoint.Scalars Set.univ := by
  rw [scalars_eq_window]
  exact window_steady (by simp [CodePoint.surrogateFirst,CodePoint.surrogateLast])

end LexPattern
