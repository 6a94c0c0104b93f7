import Mathlib
import LexPattern.Interval.Set
import LexPattern.Proofs.Search

namespace LexPattern

variable {α : Type u} [LinearOrder α] {D : Domain α} {S : Set α}

-- The values of the domain are those of `S`. Stepping goes to the nearest value and fails only at the ends.
structure Domain.Lawful (D : Domain α) (S : Set α) : Prop where
  least : IsLeast S D.least
  greatest : IsGreatest S D.greatest
  succ_greatest : D.succ? D.greatest = none
  pred_least : D.pred? D.least = none
  succ : ∀ v ∈ S, v ≠ D.greatest → ∃ w, D.succ? v = some w ∧ IsLeast {u | u ∈ S ∧ v < u} w
  pred : ∀ v ∈ S, v ≠ D.least → ∃ w, D.pred? v = some w ∧ IsGreatest {u | u ∈ S ∧ u < v} w

namespace Domain.Lawful

variable {v u w : α}

theorem succ_below (lawful : D.Lawful S) (inV : v ∈ S) (inU : u ∈ S) (below : v < u) :
    ∃ w, D.succ? v = some w ∧ w ∈ S ∧ v < w ∧ w ≤ u := by
  have notLast : v ≠ D.greatest := fun same => absurd (lawful.greatest.2 inU) (by rw [← same]; exact not_le.mpr below)
  obtain ⟨w,stepped,⟨inW,above⟩,nearest⟩ := lawful.succ v inV notLast
  exact ⟨w,stepped,inW,above,nearest ⟨inU,below⟩⟩

theorem pred_above (lawful : D.Lawful S) (inV : v ∈ S) (inU : u ∈ S) (above : u < v) :
    ∃ w, D.pred? v = some w ∧ w ∈ S ∧ w < v ∧ u ≤ w := by
  have notFirst : v ≠ D.least := fun same => absurd (lawful.least.2 inU) (by rw [← same]; exact not_le.mpr above)
  obtain ⟨w,stepped,⟨inW,below⟩,nearest⟩ := lawful.pred v inV notFirst
  exact ⟨w,stepped,inW,below,nearest ⟨inU,above⟩⟩

theorem succ_nearest (lawful : D.Lawful S) (inV : v ∈ S) (stepped : D.succ? v = some w) :
    w ∈ S ∧ v < w ∧ ∀ u ∈ S, v < u → w ≤ u := by
  have notLast : v ≠ D.greatest := by
    rintro rfl
    simp [lawful.succ_greatest] at stepped
  obtain ⟨w',same,⟨inW,above⟩,nearest⟩ := lawful.succ v inV notLast
  rw [stepped] at same
  cases same
  exact ⟨inW,above,fun u inU later => nearest ⟨inU,later⟩⟩

theorem pred_nearest (lawful : D.Lawful S) (inV : v ∈ S) (stepped : D.pred? v = some w) :
    w ∈ S ∧ w < v ∧ ∀ u ∈ S, u < v → u ≤ w := by
  have notFirst : v ≠ D.least := by
    rintro rfl
    simp [lawful.pred_least] at stepped
  obtain ⟨w',same,⟨inW,below⟩,nearest⟩ := lawful.pred v inV notFirst
  rw [stepped] at same
  cases same
  exact ⟨inW,below,fun u inU earlier => nearest ⟨inU,earlier⟩⟩

end Domain.Lawful

-- The step from a value of `T` leads above it, and past no value of the domain.
def Domain.Steady (D : Domain α) (S T : Set α) : Prop :=
  ∀ v ∈ T, ∀ w, D.succ? v = some w → v < w ∧ ∀ u ∈ S, v < u → w ≤ u

theorem Domain.Lawful.steady (lawful : D.Lawful S) : D.Steady S S :=
  fun _ inV _ stepped => (lawful.succ_nearest inV stepped).2

namespace Interval

structure Valid (S : Set α) (iv : Interval α) : Prop where
  order : iv.lo ≤ iv.hi
  lower : iv.lo ∈ S
  upper : iv.hi ∈ S

structure Rooted (S T : Set α) (iv : Interval α) : Prop where
  order : iv.lo ≤ iv.hi
  lower : iv.lo ∈ S
  upper : iv.hi ∈ T

instance : Membership α (Interval α) := ⟨fun iv x => iv.lo ≤ x ∧ x ≤ iv.hi⟩

theorem mem_def {iv : Interval α} {x : α} : x ∈ iv ↔ iv.lo ≤ x ∧ x ≤ iv.hi := Iff.rfl

def Apart (S : Set α) (a b : Interval α) : Prop := ∃ x ∈ S, a.hi < x ∧ x < b.lo

variable {a b c : Interval α} {x : α}

theorem Apart.before (apart : Apart S a b) : a.hi < b.lo := by
  obtain ⟨_,_,left,right⟩ := apart
  exact left.trans right

theorem Apart.mono (apart : Apart S a b) (left : c.hi ≤ a.hi) (right : b.lo ≤ d.lo) : Apart S c d := by
  obtain ⟨x,inX,above,below⟩ := apart
  exact ⟨x,inX,left.trans_lt above,below.trans_le right⟩

theorem apart_of_succ {w : α} (stepped : D.succ? a.hi = some w) (inW : w ∈ S) (above : a.hi < w) (atMost : w ≤ b.lo)
    (notAdjacent : D.succ? a.hi ≠ some b.lo) : Apart S a b := by
  refine ⟨w,inW,above,lt_of_le_of_ne atMost ?_⟩
  rintro rfl
  exact notAdjacent stepped

-- Over a lawful domain, a gap is the same as being in order and not adjacent.
theorem apart_iff (lawful : D.Lawful S) (upper : a.hi ∈ S) (lower : b.lo ∈ S) :
    Apart S a b ↔ a.hi < b.lo ∧ D.succ? a.hi ≠ some b.lo := by
  constructor
  · intro apart
    refine ⟨apart.before,?_⟩
    obtain ⟨x,inX,left,right⟩ := apart
    intro adjacent
    exact absurd ((lawful.succ_nearest upper adjacent).2.2 x inX left) (not_le.mpr right)
  · rintro ⟨before,notAdjacent⟩
    obtain ⟨w,stepped,inW,above,atMost⟩ := lawful.succ_below upper lower before
    exact apart_of_succ stepped inW above atMost notAdjacent

theorem le_transitive (a b c : Interval α) (ab : a.le b = true) (bc : b.le c = true) : a.le c = true := by
  simp only [Interval.le,Bool.or_eq_true,Bool.and_eq_true,decide_eq_true_eq] at ab bc ⊢
  grind

theorem le_connected (a b : Interval α) : (a.le b || b.le a) = true := by
  simp only [Interval.le,Bool.or_eq_true,Bool.and_eq_true,decide_eq_true_eq]
  grind

theorem lo_le_of_le (ordered : a.le b = true) : a.lo ≤ b.lo := by
  simp only [Interval.le,Bool.or_eq_true,Bool.and_eq_true,decide_eq_true_eq] at ordered
  grind

end Interval

def Covers (ivs : List (Interval α)) (x : α) : Prop := ∃ iv ∈ ivs, x ∈ iv

namespace Covers

variable {ivs rest : List (Interval α)} {iv : Interval α} {x : α}

@[simp] theorem nil : ¬ Covers ([] : List (Interval α)) x := by simp [Covers]

@[simp] theorem cons : Covers (iv :: rest) x ↔ x ∈ iv ∨ Covers rest x := by simp [Covers]

@[simp] theorem append : Covers (ivs ++ rest) x ↔ Covers ivs x ∨ Covers rest x := by
  simp [Covers,or_and_right,exists_or]

theorem perm (same : ivs.Perm rest) : Covers ivs x ↔ Covers rest x := by simp [Covers,same.mem_iff]

end Covers

structure Spread (S : Set α) (ivs : List (Interval α)) : Prop where
  valid : ∀ iv ∈ ivs, iv.Valid S
  apart : ivs.Pairwise (Interval.Apart S)

namespace Spread

variable {ivs rest : List (Interval α)} {iv : Interval α} {x : α}

theorem nil : Spread S ([] : List (Interval α)) := ⟨by simp,.nil⟩

theorem cons_iff : Spread S (iv :: rest) ↔
    iv.Valid S ∧ (∀ later ∈ rest, iv.Apart S later) ∧ Spread S rest := by
  constructor
  · intro ⟨valid,apart⟩
    obtain ⟨first,others⟩ := List.pairwise_cons.mp apart
    exact ⟨valid iv (by simp),first,fun later member => valid later (by simp [member]),others⟩
  · rintro ⟨valid,first,others⟩
    exact ⟨by simpa using ⟨valid,others.valid⟩,List.pairwise_cons.mpr ⟨first,others.apart⟩⟩

theorem append (left : Spread S ivs) (right : Spread S rest)
    (between : ∀ a ∈ ivs, ∀ b ∈ rest, a.Apart S b) : Spread S (ivs ++ rest) := by
  refine ⟨?_,List.pairwise_append.mpr ⟨left.apart,right.apart,between⟩⟩
  intro iv member
  rcases List.mem_append.mp member with inLeft | inRight
  · exact left.valid iv inLeft
  · exact right.valid iv inRight

theorem above_first (spread : Spread S (iv :: rest)) (covered : Covers rest x) : iv.hi < x := by
  obtain ⟨later,member,lower,_⟩ := covered
  exact ((cons_iff.mp spread).2.1 later member).before.trans_le lower

theorem covers_rest_iff (spread : Spread S (iv :: rest)) : Covers rest x ↔ Covers (iv :: rest) x ∧ iv.hi < x := by
  constructor
  · exact fun later => ⟨Covers.cons.mpr (.inr later),spread.above_first later⟩
  · rintro ⟨covered,above⟩
    exact (Covers.cons.mp covered).resolve_left fun inside => not_le.mpr above inside.2

theorem first_le (spread : Spread S (iv :: rest)) (covered : Covers (iv :: rest) x) : iv.lo ≤ x := by
  rcases Covers.cons.mp covered with inside | later
  · exact inside.1
  · exact (cons_iff.mp spread).1.order.trans (spread.above_first later).le

-- Before the values of the later intervals comes one that is in no interval.
theorem exists_gap (spread : Spread S (iv :: rest)) (covered : Covers rest x) :
    ∃ y ∈ S, iv.hi < y ∧ y < x ∧ ¬ Covers (iv :: rest) y := by
  cases rest with
  | nil => exact absurd covered Covers.nil
  | cons next others =>
    obtain ⟨_,apart,tail⟩ := cons_iff.mp spread
    obtain ⟨y,inY,above,below⟩ := apart next (by simp)
    refine ⟨y,inY,above,below.trans_le (tail.first_le covered),fun held => ?_⟩
    rcases Covers.cons.mp held with inside | later
    · exact absurd inside.2 (not_le.mpr above)
    · exact absurd (tail.first_le later) (not_le.mpr below)

theorem first_hi_le {first second : Interval α} (spread : Spread S (first :: ivs)) (other : Spread S (second :: rest))
    (starts : first.lo = second.lo) (same : ∀ x ∈ S, Covers (first :: ivs) x ↔ Covers (second :: rest) x) :
    first.hi ≤ second.hi := by
  have valid := (cons_iff.mp spread).1
  have held := (same first.hi valid.upper).mp (Covers.cons.mpr (.inl ⟨valid.order,le_rfl⟩))
  rcases Covers.cons.mp held with inside | later
  · exact inside.2
  · -- Else the gap after the second interval is inside the first one.
    exfalso
    obtain ⟨y,inY,above,below,missing⟩ := other.exists_gap later
    have lower : first.lo ≤ y := starts ▸ (cons_iff.mp other).1.order.trans above.le
    exact missing ((same y inY).mp (Covers.cons.mpr (.inl ⟨lower,below.le⟩)))

theorem unique (spread : Spread S ivs) (other : Spread S rest) (same : ∀ x ∈ S, Covers ivs x ↔ Covers rest x) :
    ivs = rest := by
  induction ivs generalizing rest with
  | nil =>
    cases rest with
    | nil => rfl
    | cons second rest =>
      have valid := (cons_iff.mp other).1
      exact absurd ((same second.lo valid.lower).mpr (Covers.cons.mpr (.inl ⟨le_rfl,valid.order⟩))) Covers.nil
  | cons first ivs ih =>
    have valid := (cons_iff.mp spread).1
    have covered := (same first.lo valid.lower).mp (Covers.cons.mpr (.inl ⟨le_rfl,valid.order⟩))
    cases rest with
    | nil => exact absurd covered Covers.nil
    | cons second rest =>
      have valid' := (cons_iff.mp other).1
      have covered' := (same second.lo valid'.lower).mpr (Covers.cons.mpr (.inl ⟨le_rfl,valid'.order⟩))
      have starts : first.lo = second.lo := le_antisymm (spread.first_le covered') (other.first_le covered)
      have ends : first.hi = second.hi := le_antisymm (spread.first_hi_le other starts same)
        (other.first_hi_le spread starts.symm fun x inX => (same x inX).symm)
      have heads : first = second := by
        cases first
        cases second
        cases starts
        cases ends
        rfl
      subst heads
      refine congrArg (first :: ·) (ih (cons_iff.mp spread).2.2 (cons_iff.mp other).2.2 fun x inX => ?_)
      rw [spread.covers_rest_iff,other.covers_rest_iff,same x inX]

end Spread

namespace IntervalSet

structure Normal (D : Domain α) (S : Set α) (s : IntervalSet α) : Prop where
  valid : ∀ iv ∈ s.toList, iv.lo ≤ iv.hi ∧ iv.lo ∈ S ∧ iv.hi ∈ S
  apart : s.toList.Pairwise fun a b => a.hi < b.lo ∧ D.succ? a.hi ≠ some b.lo

theorem normal_iff_spread (lawful : D.Lawful S) {s : IntervalSet α} : Normal D S s ↔ Spread S s.toList := by
  constructor
  · intro ⟨valid,apart⟩
    refine ⟨fun iv member => ⟨(valid iv member).1,(valid iv member).2.1,(valid iv member).2.2⟩,?_⟩
    refine apart.imp_of_mem ?_
    intro a b inA inB related
    exact (Interval.apart_iff lawful (valid a inA).2.2 (valid b inB).2.1).mpr related
  · intro ⟨valid,apart⟩
    refine ⟨fun iv member => ⟨(valid iv member).order,(valid iv member).lower,(valid iv member).upper⟩,?_⟩
    refine apart.imp_of_mem ?_
    intro a b inA inB related
    exact (Interval.apart_iff lawful (valid a inA).upper (valid b inB).lower).mp related

variable {x : α} {s : IntervalSet α}

@[simp] theorem toList_ofSorted {β : Type u} (ivs : List (Interval β)) : (ofSorted ivs).toList = ivs := by
  simp [ofSorted,toList]

theorem locate_eq_iff {iv : Interval α} : iv.locate x = .eq ↔ x ∈ iv := by
  unfold Interval.locate
  rw [Interval.mem_def]
  split
  · rename_i below
    simp [not_le.mpr below]
  · split
    · rename_i above
      simp [not_le.mpr above]
    · simp_all

theorem arranged_locate {ivs : Array (Interval α)} (ordered : ∀ iv ∈ ivs.toList, iv.lo ≤ iv.hi)
    (before : ivs.toList.Pairwise fun a b => a.hi < b.lo) : Search.Arranged (Interval.locate x) ivs := by
  refine List.Pairwise.imp_of_mem ?_ before
  intro a b _ inB apart
  unfold Interval.locate
  by_cases below : a.hi < x
  · simp [below]
  · have above : x < b.lo := (not_lt.mp below).trans_lt apart
    simp [above,not_lt.mpr (above.le.trans (ordered b inB))]

theorem contains_iff_covers_of_ordered (ordered : ∀ iv ∈ s.toList, iv.lo ≤ iv.hi)
    (before : s.toList.Pairwise fun a b => a.hi < b.lo) : s.contains x = true ↔ Covers s.toList x := by
  unfold contains
  rw [Search.index?_isSome_iff (arranged_locate ordered before)]
  simp only [locate_eq_iff]
  exact Iff.rfl

theorem contains_iff_covers (spread : Spread S s.toList) : s.contains x = true ↔ Covers s.toList x :=
  contains_iff_covers_of_ordered (fun iv member => (spread.valid iv member).order) (spread.apart.imp Interval.Apart.before)

variable {current next : Interval α} {ivs rest : List (Interval α)} {T : Set α} {R : Interval α → Interval α → Prop}

theorem mem_grown (steady : D.Steady S T) (rootedC : current.Rooted S T) (rootedN : next.Rooted S T)
    (order : current.lo ≤ next.lo) (joined : current.joins D next = true) (inX : x ∈ S) :
    x ∈ (⟨current.lo,max current.hi next.hi⟩ : Interval α) ↔ x ∈ current ∨ x ∈ next := by
  have reaches : ∀ y ∈ S, current.hi < y → next.lo ≤ y := by
    intro y inY above
    simp only [Interval.joins,Interval.precedes,Bool.or_eq_true,decide_eq_true_eq,beq_iff_eq] at joined
    rcases joined with (overlap | adjacent) | behind
    · exact overlap.trans above.le
    · exact (steady _ rootedC.upper _ adjacent).2 y inY above
    · have after := (steady _ rootedN.upper _ behind).1
      exact absurd (order.trans rootedN.order) (not_le.mpr after)
  simp only [Interval.mem_def,le_max_iff]
  constructor
  · rintro ⟨lower,upper⟩
    rcases le_or_gt x current.hi with inside | beyond
    · exact .inl ⟨lower,inside⟩
    · exact .inr ⟨reaches x inX beyond,upper.resolve_left (not_le.mpr beyond)⟩
  · rintro (⟨lower,upper⟩ | ⟨lower,upper⟩)
    · exact ⟨lower,.inl upper⟩
    · exact ⟨order.trans lower,.inr upper⟩

theorem before_of_not_joins (separate : ¬ current.joins D next = true) : current.hi < next.lo := by
  simp only [Interval.joins,Bool.or_eq_true,decide_eq_true_eq,not_or,not_le] at separate
  exact separate.1.1

theorem not_adjacent_of_not_joins (separate : ¬ current.joins D next = true) : D.succ? current.hi ≠ some next.lo := by
  simp only [Interval.joins,Interval.precedes,Bool.or_eq_true,beq_iff_eq,not_or] at separate
  exact separate.1.2

theorem apart_of_not_joins (lawful : D.Lawful S) (rootedC : current.Rooted S S) (rootedN : next.Rooted S S)
    (separate : ¬ current.joins D next = true) : current.Apart S next :=
  (Interval.apart_iff lawful rootedC.upper rootedN.lower).mpr
    ⟨before_of_not_joins separate,not_adjacent_of_not_joins separate⟩

-- The sweep keeps the values and never looks back before the interval it grows. What holds between intervals that do
-- not join, and goes on to later ones, holds between any two of the result.
theorem coalesce_keeps (steady : D.Steady S T)
    (gap : ∀ {a b : Interval α}, a.Rooted S T → b.Rooted S T → ¬ a.joins D b = true → R a b)
    (later : ∀ {a b c : Interval α}, R a b → b.lo ≤ c.lo → R a c)
    (rootedC : current.Rooted S T) (rooted : ∀ iv ∈ rest, iv.Rooted S T)
    (first : ∀ iv ∈ rest, current.lo ≤ iv.lo) (sorted : rest.Pairwise fun a b => a.lo ≤ b.lo) :
    (∀ iv ∈ coalesce D current rest, iv.Rooted S T ∧ current.lo ≤ iv.lo) ∧ (coalesce D current rest).Pairwise R ∧
      ∀ x ∈ S, Covers (coalesce D current rest) x ↔ Covers (current :: rest) x := by
  induction rest generalizing current with
  | nil => exact ⟨by simp [coalesce,rootedC],List.pairwise_singleton _ _,by simp [coalesce]⟩
  | cons next rest ih =>
    have rootedN := rooted next (by simp)
    have order := first next (by simp)
    have rootedR : ∀ iv ∈ rest, iv.Rooted S T := fun iv member => rooted iv (by simp [member])
    obtain ⟨firstN,sortedR⟩ := List.pairwise_cons.mp sorted
    rw [coalesce]
    split
    · rename_i joined
      have grownHi : (if current.hi ≤ next.hi then next.hi else current.hi) = max current.hi next.hi :=
        (max_def _ _).symm
      rw [grownHi]
      have rootedG : (⟨current.lo,max current.hi next.hi⟩ : Interval α).Rooted S T := by
        refine ⟨rootedC.order.trans (le_max_left _ _),rootedC.lower,?_⟩
        rcases max_choice current.hi next.hi with same | same
        · simpa only [same] using rootedC.upper
        · simpa only [same] using rootedN.upper
      obtain ⟨kept,related,covers⟩ := ih rootedG rootedR (fun iv member => first iv (by simp [member])) sortedR
      refine ⟨kept,related,?_⟩
      intro x inX
      rw [covers x inX,Covers.cons,mem_grown steady rootedC rootedN order joined inX]
      simp [or_assoc]
    · rename_i separate
      obtain ⟨kept,related,covers⟩ := ih rootedN rootedR firstN sortedR
      have apart := gap rootedC rootedN separate
      refine ⟨?_,List.pairwise_cons.mpr ⟨fun iv member => later apart (kept iv member).2,related⟩,?_⟩
      · intro iv member
        rcases List.mem_cons.mp member with rfl | inRest
        · exact ⟨rootedC,le_rfl⟩
        · exact ⟨(kept iv inRest).1,order.trans (kept iv inRest).2⟩
      · intro x inX
        simp only [Covers.cons,covers x inX]

theorem ofList_keeps (steady : D.Steady S T)
    (gap : ∀ {a b : Interval α}, a.Rooted S T → b.Rooted S T → ¬ a.joins D b = true → R a b)
    (later : ∀ {a b c : Interval α}, R a b → b.lo ≤ c.lo → R a c) (rooted : ∀ iv ∈ ivs, iv.Rooted S T) :
    (∀ iv ∈ (ofList D ivs).toList, iv.Rooted S T) ∧ (ofList D ivs).toList.Pairwise R ∧
      ∀ x ∈ S, Covers (ofList D ivs).toList x ↔ Covers ivs x := by
  have same := List.mergeSort_perm ivs Interval.le
  have sorted := (List.pairwise_mergeSort Interval.le_transitive Interval.le_connected ivs).imp Interval.lo_le_of_le
  rw [ofList,toList_ofSorted]
  cases sort : ivs.mergeSort Interval.le with
  | nil =>
    rw [sort] at same
    simp [sweep,← Covers.perm same]
  | cons first rest =>
    rw [sort] at same sorted
    have rootedAll : ∀ iv ∈ first :: rest, iv.Rooted S T := fun iv member => rooted iv (same.mem_iff.mp member)
    obtain ⟨lowest,sortedR⟩ := List.pairwise_cons.mp sorted
    obtain ⟨kept,related,covers⟩ := coalesce_keeps steady gap later (rootedAll first (by simp))
      (fun iv member => rootedAll iv (by simp [member])) lowest sortedR
    exact ⟨fun iv member => (kept iv member).1,related,fun x inX => (covers x inX).trans (Covers.perm same)⟩

-- Whatever valid intervals a set is made from, it is spread out and covers what they cover.
theorem ofList_spread (lawful : D.Lawful S) (valid : ∀ iv ∈ ivs, iv.Valid S) :
    Spread S (ofList D ivs).toList ∧ ∀ x ∈ S, Covers (ofList D ivs).toList x ↔ Covers ivs x := by
  have rooted : ∀ iv ∈ ivs, iv.Rooted S S := fun iv member =>
    ⟨(valid iv member).order,(valid iv member).lower,(valid iv member).upper⟩
  obtain ⟨kept,apart,covers⟩ := ofList_keeps lawful.steady (apart_of_not_joins lawful)
    (fun apart starts => apart.mono le_rfl starts) rooted
  exact ⟨⟨fun iv member => ⟨(kept iv member).order,(kept iv member).lower,(kept iv member).upper⟩,apart⟩,covers⟩

theorem contains_ofList (steady : D.Steady S T) (rooted : ∀ iv ∈ ivs, iv.Rooted S T) (inX : x ∈ S) :
    (ofList D ivs).contains x = true ↔ Covers ivs x := by
  obtain ⟨kept,before,covers⟩ := ofList_keeps (R := fun a b => a.hi < b.lo) steady
    (fun _ _ separate => before_of_not_joins separate) (fun before starts => before.trans_le starts) rooted
  rw [contains_iff_covers_of_ordered (fun iv member => (kept iv member).order) before,covers x inX]

end IntervalSet

end LexPattern
