import Mathlib

namespace LexPattern

variable {α : Type u}

theorem eraseReps_loop (same : α → α → Bool) (a : α) (as acc : List α) :
    List.eraseRepsBy.loop same a as acc = acc.reverse ++ List.eraseRepsBy.loop same a as [] := by
  induction as generalizing a acc with
  | nil => simp [List.eraseRepsBy.loop]
  | cons b as ih =>
    simp only [List.eraseRepsBy.loop]
    split
    · exact ih a acc
    · rw [ih b (a :: acc),ih b [a]]
      simp

theorem eraseReps_cons_cons [DecidableEq α] (a b : α) (as : List α) :
    (a :: b :: as).eraseReps = if a = b then (b :: as).eraseReps else a :: (b :: as).eraseReps := by
  simp only [List.eraseReps,List.eraseRepsBy,List.eraseRepsBy.loop]
  split
  · rename_i equal
    rw [beq_iff_eq] at equal
    rw [equal,if_pos rfl]
  · rename_i different
    rw [beq_eq_false_iff_ne] at different
    rw [if_neg different,eraseReps_loop]
    rfl

theorem mem_eraseReps [DecidableEq α] {x : α} {l : List α} : x ∈ l.eraseReps ↔ x ∈ l := by
  induction l with
  | nil => rfl
  | cons a l ih =>
    cases l with
    | nil => rfl
    | cons b as =>
      rw [eraseReps_cons_cons]
      split
      · rename_i equal
        rw [ih,equal]
        simp
      · simp only [List.mem_cons,ih]

theorem eraseReps_pairwise_lt [LinearOrder α] {l : List α} (sorted : l.Pairwise (· ≤ ·)) :
    l.eraseReps.Pairwise (· < ·) := by
  induction l with
  | nil => exact .nil
  | cons a l ih =>
    obtain ⟨first,others⟩ := List.pairwise_cons.mp sorted
    cases l with
    | nil => exact List.pairwise_singleton _ _
    | cons b as =>
      rw [eraseReps_cons_cons]
      split
      · exact ih others
      · rename_i different
        refine List.pairwise_cons.mpr ⟨?_,ih others⟩
        intro c member
        have above : a < b := lt_of_le_of_ne (first b (by simp)) different
        rcases List.mem_cons.mp (mem_eraseReps.mp member) with rfl | later
        · exact above
        · exact above.trans_le ((List.pairwise_cons.mp others).1 c later)

theorem mergeSort_pairwise_le [LinearOrder α] (l : List α) : (l.mergeSort (· ≤ ·)).Pairwise (· ≤ ·) := by
  have sorted : (l.mergeSort (· ≤ ·)).Pairwise fun a b => decide (a ≤ b) = true := by
    apply List.pairwise_mergeSort
    · intro a b c ab bc
      simp only [decide_eq_true_eq] at *
      exact ab.trans bc
    · intro a b
      simpa using le_total a b
  exact sorted.imp fun related => of_decide_eq_true related

theorem sorted_distinct_pairwise [LinearOrder α] (l : List α) :
    (l.mergeSort (· ≤ ·)).eraseReps.Pairwise (· < ·) :=
  eraseReps_pairwise_lt (mergeSort_pairwise_le l)

theorem mem_sorted_distinct [LinearOrder α] {x : α} {l : List α} :
    x ∈ (l.mergeSort (· ≤ ·)).eraseReps ↔ x ∈ l := by
  rw [mem_eraseReps]
  exact (List.mergeSort_perm l _).mem_iff

end LexPattern
