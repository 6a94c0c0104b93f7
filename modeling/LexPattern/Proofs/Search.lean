import Mathlib
import LexPattern.Search

namespace LexPattern.Search

variable {α : Type u} {xs : Array α} {probe : α → Ordering} {i j : Nat} {a b : α}

-- Of two elements the first lies below or the second above, so at most one element is a hit.
def Arranged (probe : α → Ordering) (xs : Array α) : Prop :=
  xs.toList.Pairwise fun a b => probe a = .lt ∨ probe b = .gt

theorem Arranged.related (arranged : Arranged probe xs) (atI : xs[i]? = some a) (atJ : xs[j]? = some b)
    (before : i < j) : probe a = .lt ∨ probe b = .gt := by
  obtain ⟨boundI,rfl⟩ := Array.getElem?_eq_some_iff.mp atI
  obtain ⟨boundJ,rfl⟩ := Array.getElem?_eq_some_iff.mp atJ
  exact List.pairwise_iff_getElem.mp arranged i j boundI boundJ before

def Bracketed (xs : Array α) (below : α → Bool) (lo hi : Nat) : Prop :=
  (∀ i x, i < lo → xs[i]? = some x → below x = true) ∧ ∀ i x, hi ≤ i → xs[i]? = some x → below x = false

theorem firstNotBelow_bracketed {below : α → Bool}
    (initial : ∀ (i j : Nat) a b, i < j → xs[i]? = some a → xs[j]? = some b → below b = true → below a = true)
    (order : lo ≤ hi) (bound : hi ≤ xs.size) (valid : Bracketed xs below lo hi) :
    Bracketed xs below (firstNotBelow xs below lo hi) (firstNotBelow xs below lo hi) := by
  -- The window shrinks around the boundary; each branch moves one of its ends to the middle.
  fun_induction firstNotBelow xs below lo hi with
  | case1 lo hi open_ mid x found isBelow ih =>
    refine ih (by omega) bound ⟨?_,valid.2⟩
    intro i y left atI
    rcases Nat.lt_or_ge i mid with before | after
    · exact initial i mid y x before atI found isBelow
    · have same : i = mid := by omega
      rw [same,found] at atI
      cases atI
      exact isBelow
  | case2 lo hi open_ mid x found notBelow ih =>
    refine ih (by omega) (by omega) ⟨valid.1,?_⟩
    intro i y right atI
    rcases Nat.eq_or_lt_of_le right with rfl | after
    · rw [found] at atI
      cases atI
      simpa using notBelow
    · apply Bool.eq_false_iff.mpr
      intro isBelow
      exact notBelow (initial mid i x y after found atI isBelow)
  | case3 lo hi open_ mid missing =>
    have outside := Array.getElem?_eq_none_iff.mp missing
    omega
  | case4 lo hi closed =>
    have same : lo = hi := by omega
    rw [same] at valid ⊢
    exact valid

-- Where everything before an element that is below is below as well, the search finds the first element that is not
-- below, if that one is a hit.
theorem index?_eq_some_iff_first (rising : xs.toList.Pairwise fun a b => probe b = .lt → probe a = .lt) :
    index? xs probe = some i ↔ ∃ x, xs[i]? = some x ∧ probe x = .eq ∧
      ∀ (j : Nat) y, j < i → xs[j]? = some y → probe y = .lt := by
  have initial : ∀ (i j : Nat) a b, i < j → xs[i]? = some a → xs[j]? = some b →
      (probe b == .lt) = true → (probe a == .lt) = true := by
    intro i j a b before atI atJ isBelow
    obtain ⟨boundI,rfl⟩ := Array.getElem?_eq_some_iff.mp atI
    obtain ⟨boundJ,rfl⟩ := Array.getElem?_eq_some_iff.mp atJ
    have earlier := List.pairwise_iff_getElem.mp rising i j boundI boundJ before (by simpa using isBelow)
    simpa using earlier
  have valid : Bracketed xs (probe · == .lt) 0 xs.size :=
    ⟨by omega,fun j x right atJ => by simp [Array.getElem?_eq_none right] at atJ⟩
  obtain ⟨left,right⟩ := firstNotBelow_bracketed initial (Nat.zero_le _) (Nat.le_refl _) valid
  unfold index?
  generalize firstNotBelow xs (probe · == .lt) 0 xs.size = k at left right
  constructor
  · intro found
    dsimp only at found
    split at found
    · rename_i x atK
      split at found
      · rename_i hit
        cases found
        exact ⟨x,atK,by simpa using hit,fun j y before atJ => by simpa using left j y before atJ⟩
      · cases found
    · cases found
  · rintro ⟨x,atI,hit,below⟩
    -- A hit is not below, so the boundary is not after it; what stands before it is below.
    have atMost : k ≤ i := by
      by_contra later
      simpa [hit] using left i x (by omega) atI
    have same : k = i := by
      by_contra different
      obtain ⟨y,atK⟩ : ∃ y, xs[k]? = some y := by
        have bound := (Array.getElem?_eq_some_iff.mp atI).1
        exact ⟨xs[k],Array.getElem?_eq_some_iff.mpr ⟨by omega,rfl⟩⟩
      have notBelow := right k y (Nat.le_refl _) atK
      simp [below k y (by omega) atK] at notBelow
    subst same
    simp [atI,hit]

theorem index?_eq_some_iff (arranged : Arranged probe xs) :
    index? xs probe = some i ↔ ∃ x, xs[i]? = some x ∧ probe x = .eq := by
  have rising : xs.toList.Pairwise fun a b => probe b = .lt → probe a = .lt := by
    refine arranged.imp fun related isBelow => related.resolve_right fun isAbove => ?_
    rw [isBelow] at isAbove
    cases isAbove
  rw [index?_eq_some_iff_first rising]
  refine exists_congr fun x => ⟨fun ⟨atI,hit,_⟩ => ⟨atI,hit⟩,fun ⟨atI,hit⟩ => ⟨atI,hit,fun j y before atJ => ?_⟩⟩
  refine (arranged.related atJ atI before).resolve_right fun isAbove => ?_
  rw [hit] at isAbove
  cases isAbove

theorem index?_lt (found : index? xs probe = some i) : i < xs.size := by
  unfold index? at found
  dsimp only at found
  split at found
  · rename_i x atK
    split at found
    · cases found
      exact (Array.getElem?_eq_some_iff.mp atK).1
    · cases found
  · cases found

theorem index?_isSome_iff (arranged : Arranged probe xs) :
    (index? xs probe).isSome = true ↔ ∃ x ∈ xs.toList, probe x = .eq := by
  rw [Option.isSome_iff_exists]
  constructor
  · rintro ⟨i,found⟩
    obtain ⟨x,atI,hit⟩ := (index?_eq_some_iff arranged).mp found
    exact ⟨x,Array.mem_toList_iff.mpr (Array.mem_of_getElem? atI),hit⟩
  · rintro ⟨x,member,hit⟩
    obtain ⟨i,bound,rfl⟩ := Array.mem_iff_getElem.mp (Array.mem_toList_iff.mp member)
    exact ⟨i,(index?_eq_some_iff arranged).mpr ⟨xs[i],by simp,hit⟩⟩

end LexPattern.Search
