import Mathlib

namespace LexPattern

variable {α ρ : Type} {put : α → ρ → ρ} {key : α → Nat} {xs : List α} {x : α} {p size : Nat} {empty : ρ}

theorem grouped_after_iff (has : α → ρ → Prop) (law : ∀ x y row, has y (put x row) ↔ has y row ∨ y = x)
    {rows : Array ρ} :
    (∃ row, (xs.foldl (fun rows x => rows.modify (key x) (put x)) rows)[p]? = some row ∧ has x row) ↔
      ∃ row, rows[p]? = some row ∧ (has x row ∨ x ∈ xs ∧ key x = p) := by
  induction xs generalizing rows with
  | nil => simp
  | cons first xs ih =>
    rw [List.foldl_cons,ih,Array.getElem?_modify]
    by_cases here : key first = p
    · cases rows[p]? with
      | none => simp [here]
      | some row =>
        simp only [here,if_true,Option.map_some,Option.some.injEq,exists_eq_left',law,List.mem_cons]
        grind
    · simp only [here,if_false,List.mem_cons]
      grind

theorem grouped_iff (has : α → ρ → Prop) (law : ∀ x y row, has y (put x row) ↔ has y row ∨ y = x)
    (without : ¬ has x empty) :
    has x ((xs.foldl (fun rows x => rows.modify (key x) (put x)) (Array.replicate size empty))[p]?.getD empty) ↔
      p < size ∧ x ∈ xs ∧ key x = p := by
  have present : ∀ row : Option ρ, has x (row.getD empty) ↔ ∃ r, row = some r ∧ has x r := by
    intro row
    cases row <;> simp [without]
  rw [present,grouped_after_iff has law]
  by_cases bound : p < size
  · simp [bound,without]
  · simp [bound]

end LexPattern
