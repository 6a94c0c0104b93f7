import Mathlib
import LexPattern.Automaton.Alphabet
import LexPattern.Proofs.CharClass
import LexPattern.Proofs.SortedList

namespace LexPattern.Automaton

structure Segmented (segments : Array Segment) : Prop where
  starts : ∀ s ∈ segments.toList, s.lo.isScalar = true ∧ s.lo ≤ s.hi
  order : segments.toList.Pairwise fun a b => a.hi < b.lo

theorem segmentIndex?_lt {segments : Array Segment} {c : CodePoint} {i : Nat} (found : segmentIndex? segments c = some i) :
    i < segments.size := by
  unfold segmentIndex? at found
  split at found
  · exact Search.index?_lt found
  · cases found

namespace Segmented

variable {segments : Array Segment} {c : CodePoint} {i : Nat} {s : Segment}

theorem arranged (segmented : Segmented segments) : Search.Arranged (Interval.locate c) segments :=
  IntervalSet.arranged_locate (fun s member => (segmented.starts s member).2) segmented.order

theorem segmentIndex?_eq_some_iff (segmented : Segmented segments) :
    segmentIndex? segments c = some i ↔ c.isScalar = true ∧ ∃ s, segments[i]? = some s ∧ c ∈ s := by
  unfold segmentIndex?
  split
  · rename_i scalar
    rw [Search.index?_eq_some_iff segmented.arranged]
    simp [scalar,IntervalSet.locate_eq_iff]
  · rename_i notScalar
    simp [notScalar]

theorem segmentIndex?_lo (segmented : Segmented segments) (found : segments[i]? = some s) :
    segmentIndex? segments s.lo = some i := by
  obtain ⟨scalar,order⟩ := segmented.starts s (Array.mem_toList_iff.mpr (Array.mem_of_getElem? found))
  exact segmented.segmentIndex?_eq_some_iff.mpr ⟨scalar,s,found,Int.le_refl _,order⟩

theorem lo_lt (segmented : Segmented segments) {j : Nat} {t : Segment} (atI : segments[i]? = some s)
    (atJ : segments[j]? = some t) (before : i < j) : s.lo < t.lo := by
  obtain ⟨boundI,rfl⟩ := Array.getElem?_eq_some_iff.mp atI
  obtain ⟨boundJ,rfl⟩ := Array.getElem?_eq_some_iff.mp atJ
  have order := (segmented.starts segments[i] (Array.mem_toList_iff.mpr (Array.getElem_mem boundI))).2
  exact Int.lt_of_le_of_lt order (List.pairwise_iff_getElem.mp segmented.order i j boundI boundJ before)

end Segmented

section Neighbours

variable {cs : List Int} {k n x : Int}

theorem neighbours_split (sorted : cs.Pairwise (· < ·)) (near : [k,n] <:+: cs) (member : c ∈ cs) : c ≤ k ∨ n ≤ c := by
  obtain ⟨before,after,rfl⟩ := near
  rw [List.append_assoc,List.pairwise_append] at sorted
  obtain ⟨_,later,earlier⟩ := sorted
  simp only [List.append_assoc,List.mem_append,List.cons_append,List.nil_append,List.mem_cons] at member
  rcases member with early | rfl | rfl | late
  · exact .inl (earlier c early k (by simp)).le
  · exact .inl le_rfl
  · exact .inr le_rfl
  · have afterN := (List.pairwise_cons.mp (List.pairwise_cons.mp later).2).1
    exact .inr (afterN c late).le

theorem neighbours_lt (sorted : cs.Pairwise (· < ·)) (near : [k,n] <:+: cs) : k < n := by
  have pair := sorted.sublist near.sublist
  simpa using pair

theorem exists_neighbours {low high : Int} (sorted : cs.Pairwise (· < ·)) (inLow : low ∈ cs) (inHigh : high ∈ cs)
    (lower : low ≤ x) (upper : x < high) : ∃ k n, [k,n] <:+: cs ∧ k ≤ x ∧ x < n := by
  induction cs generalizing low with
  | nil => cases inLow
  | cons first cs ih =>
    obtain ⟨least,others⟩ := List.pairwise_cons.mp sorted
    cases cs with
    | nil =>
      have one := List.mem_singleton.mp inLow
      have two := List.mem_singleton.mp inHigh
      omega
    | cons second cs =>
      by_cases here : x < second
      · have startsBelow : first ≤ x := by
          rcases List.mem_cons.mp inLow with rfl | later
          · exact lower
          · exact (least low later).le.trans lower
        exact ⟨first,second,⟨[],cs,rfl⟩,startsBelow,here⟩
      · have later : high ∈ second :: cs := by
          rcases List.mem_cons.mp inHigh with rfl | later
          · have order := least second (by simp)
            omega
          · exact later
        obtain ⟨k,n,near,below,above⟩ := ih others (List.mem_cons_self ..) later (not_lt.mp here)
        exact ⟨k,n,near.trans (List.suffix_cons _ _).isInfix,below,above⟩

end Neighbours

section Partition

variable {ranges : List (Interval CodePoint)} {used : CharClass} {cs : List CodePoint}

-- What an alphabet is cut by: a range that starts at a scalar and ends anywhere before the last of the words.
structure Ranged (r : Interval CodePoint) : Prop where
  lower : r.lo.isScalar = true
  order : r.lo ≤ r.hi
  upper : r.hi < 0x7FFFFFFF

theorem cutAfter_eq {r : Interval CodePoint} (ranged : Ranged r) : cutAfter r.hi = r.hi + 1 := by
  have lower : (0 : Int) ≤ r.hi := (CodePoint.isScalar_iff.mp ranged.lower).1.trans ranged.order
  have upper : (0x7FFFFFFF : Int) > r.hi := ranged.upper
  rw [cutAfter]
  exact Int.bmod_eq_of_le (by omega) (by omega)

theorem mem_cuts {c : CodePoint} : c ∈ cuts ranges ↔ ∃ r ∈ ranges, c = r.lo ∨ c = cutAfter r.hi := by
  rw [cuts,mem_sorted_distinct]
  simp

theorem cuts_sorted : (cuts ranges).Pairwise (· < ·) := sorted_distinct_pairwise _

theorem mem_segmentsBetween {s : Segment} :
    s ∈ segmentsBetween used cs ↔ ∃ k n : Int, [k,n] <:+: cs ∧ segmentBetween used k n = some s := by
  fun_induction segmentsBetween used cs with
  | case1 cut next rest ih =>
    rw [List.mem_append,ih,Option.mem_toList]
    constructor
    · rintro (here | ⟨k,n,near,found⟩)
      · exact ⟨cut,next,⟨[],rest,rfl⟩,here⟩
      · exact ⟨k,n,near.trans (List.suffix_cons _ _).isInfix,found⟩
    · rintro ⟨k,n,near,found⟩
      rcases List.infix_cons_iff.mp near with starts | later
      · obtain ⟨rfl,second⟩ := List.cons_prefix_cons.mp starts
        obtain ⟨rfl,_⟩ := List.cons_prefix_cons.mp second
        exact .inl found
      · exact .inr ⟨k,n,later,found⟩
  | case2 cs short =>
    simp only [List.not_mem_nil,false_iff,not_exists,not_and]
    rintro k n ⟨before,after,rfl⟩
    cases before with
    | nil => exact absurd rfl (short k n after)
    | cons first before =>
      cases before with
      | nil => exact absurd rfl (short first k (n :: after))
      | cons second before => exact absurd rfl (short first second _)

def cellStart (k : CodePoint) : CodePoint := if k.isScalar then k else CodePoint.surrogateLast + 1

theorem segmentBetween_eq_some_iff {k n : CodePoint} {s : Segment} : segmentBetween used k n = some s ↔
    s = ⟨cellStart k,n - 1⟩ ∧ cellStart k ≤ n - 1 ∧ used.contains (cellStart k) = true := by
  change (if cellStart k ≤ n - 1 ∧ used.contains (cellStart k) = true then some ⟨cellStart k,n - 1⟩ else none) = some s ↔ _
  split
  · rename_i inUse
    exact ⟨fun same => ⟨(Option.some.inj same).symm,inUse⟩,fun held => by rw [held.1]⟩
  · rename_i unused
    simp only [reduceCtorEq,false_iff,not_and]
    exact fun _ order held => unused ⟨order,held⟩

theorem cellStart_spec {k : Int} (lower : 0 ≤ k) (upper : k ≤ 0x10FFFF) :
    (cellStart k).isScalar = true ∧ k ≤ cellStart k ∧ ∀ x : Int, CodePoint.isScalar x = true → k ≤ x → cellStart k ≤ x := by
  unfold cellStart
  split
  · rename_i scalar
    exact ⟨scalar,Int.le_refl k,fun _ _ below => below⟩
  · rename_i notScalar
    rw [CodePoint.isScalar_iff] at notScalar
    change _ ∧ k ≤ 0xE000 ∧ ∀ x : Int, _ → _ → 0xE000 ≤ x
    refine ⟨by decide,by omega,fun x scalar below => ?_⟩
    rw [CodePoint.isScalar_iff] at scalar
    omega

theorem cuts_nonneg (ranged : ∀ r ∈ ranges, Ranged r) {c : Int} (member : c ∈ cuts ranges) : 0 ≤ c := by
  obtain ⟨r,inRanges,place⟩ := mem_cuts.mp member
  have lower : (0 : Int) ≤ r.lo := (CodePoint.isScalar_iff.mp (ranged r inRanges).lower).1
  rw [cutAfter_eq (ranged r inRanges)] at place
  rcases place with rfl | rfl
  · exact lower
  · exact lower.trans ((ranged r inRanges).order.trans (Int.le_add_one (Int.le_refl _)))

-- No range starts or ends inside a cell, so it holds all of the cell or nothing of it.
theorem cell_even (ranged : ∀ r ∈ ranges, Ranged r) {k n : Int} (near : [k,n] <:+: cuts ranges)
    {r : Interval CodePoint} (member : r ∈ ranges) {x y : Int} (inX : k ≤ x ∧ x < n) (inY : k ≤ y ∧ y < n) :
    (x : CodePoint) ∈ r ↔ (y : CodePoint) ∈ r := by
  have lowCut := neighbours_split cuts_sorted near (mem_cuts.mpr ⟨r,member,.inl rfl⟩)
  have highCut := neighbours_split cuts_sorted near (mem_cuts.mpr ⟨r,member,.inr rfl⟩)
  rw [cutAfter_eq (ranged r member)] at highCut
  rw [Interval.mem_def,Interval.mem_def]
  obtain ⟨lo,hi⟩ := r
  change Int at lo hi
  change lo ≤ k ∨ n ≤ lo at lowCut
  change hi + 1 ≤ k ∨ n ≤ hi + 1 at highCut
  change lo ≤ x ∧ x ≤ hi ↔ lo ≤ y ∧ y ≤ hi
  omega

theorem segmentsBetween_order {R : Segment → Segment → Prop} {cs : List Int} (sorted : cs.Pairwise (· < ·))
    (step : ∀ {cut next k n : Int}, next ≤ k → k ∈ cs → k < n → n ∈ cs → R ⟨cellStart cut,next - 1⟩ ⟨cellStart k,n - 1⟩) :
    (segmentsBetween used cs).Pairwise R := by
  fun_induction segmentsBetween used cs with
  | case1 cut next rest ih =>
    obtain ⟨_,others⟩ := List.pairwise_cons.mp sorted
    refine List.pairwise_append.mpr ⟨?_,ih others fun after inK less inN => ?_,?_⟩
    · cases segmentBetween used cut next <;> simp
    · exact step after (List.mem_cons_of_mem _ inK) less (List.mem_cons_of_mem _ inN)
    · intro a inA b inB
      obtain ⟨rfl,_,_⟩ := segmentBetween_eq_some_iff.mp (Option.mem_toList.mp inA)
      obtain ⟨k,n,near,found⟩ := mem_segmentsBetween.mp inB
      obtain ⟨rfl,_,_⟩ := segmentBetween_eq_some_iff.mp found
      have inK : k ∈ next :: rest := near.subset (by simp)
      have inN : n ∈ next :: rest := near.subset (by simp)
      refine step ?_ (List.mem_cons_of_mem _ inK) (neighbours_lt others near) (List.mem_cons_of_mem _ inN)
      rcases List.mem_cons.mp inK with rfl | later
      · exact Int.le_refl _
      · exact ((List.pairwise_cons.mp others).1 k later).le
  | case2 cs short => exact .nil

theorem segments_ascend : (segmentsBetween used (cuts ranges)).Pairwise fun a b => a.hi < b.hi := by
  refine segmentsBetween_order cuts_sorted fun {cut next k n} after _ less _ => ?_
  change next - 1 < n - 1
  omega

theorem segments_hi_lt {i j : Nat} {s t : Segment} (atI : (segmentsBetween used (cuts ranges))[i]? = some s)
    (atJ : (segmentsBetween used (cuts ranges))[j]? = some t) (before : i < j) : s.hi < t.hi := by
  obtain ⟨boundI,rfl⟩ := List.getElem?_eq_some_iff.mp atI
  obtain ⟨boundJ,rfl⟩ := List.getElem?_eq_some_iff.mp atJ
  exact List.pairwise_iff_getElem.mp segments_ascend i j boundI boundJ before

-- Where all ranges end within Unicode, no cut but the last lies outside it.
theorem cuts_le (ranged : ∀ r ∈ ranges, Ranged r) (ends : ∀ r ∈ ranges, r.hi ≤ CodePoint.greatest) {c : Int}
    (member : c ∈ cuts ranges) : c ≤ 0x110000 := by
  obtain ⟨r,inRanges,place⟩ := mem_cuts.mp member
  have bound : r.hi ≤ 0x10FFFF := ends r inRanges
  rw [cutAfter_eq (ranged r inRanges)] at place
  rcases place with rfl | rfl
  · exact ((ranged r inRanges).order.trans bound).trans (by decide)
  · exact Int.add_le_add_right bound 1

theorem segments_segmented (ranged : ∀ r ∈ ranges, Ranged r) (ends : ∀ r ∈ ranges, r.hi ≤ CodePoint.greatest) :
    Segmented (segmentsBetween used (cuts ranges)).toArray := by
  refine ⟨?_,?_⟩
  · intro s member
    obtain ⟨k,n,near,found⟩ := mem_segmentsBetween.mp member
    obtain ⟨rfl,order,_⟩ := segmentBetween_eq_some_iff.mp found
    have less := neighbours_lt cuts_sorted near
    have boundN := cuts_le ranged ends (near.subset (by simp : n ∈ [k,n]))
    exact ⟨(cellStart_spec (cuts_nonneg ranged (near.subset (by simp))) (by omega)).1,order⟩
  · refine segmentsBetween_order cuts_sorted fun {cut next k n} after inK less inN => ?_
    have boundN := cuts_le ranged ends inN
    have starts := (cellStart_spec (cuts_nonneg ranged inK) (by omega)).2.1
    exact Int.lt_of_lt_of_le (Int.sub_one_lt_of_le after) starts

-- Such segments end within Unicode too, though perhaps at a surrogate.
theorem segments_le_greatest (ranged : ∀ r ∈ ranges, Ranged r) (ends : ∀ r ∈ ranges, r.hi ≤ CodePoint.greatest)
    {s : Segment} (member : s ∈ segmentsBetween used (cuts ranges)) : s.hi ≤ CodePoint.greatest := by
  obtain ⟨k,n,near,found⟩ := mem_segmentsBetween.mp member
  obtain ⟨rfl,_,_⟩ := segmentBetween_eq_some_iff.mp found
  have boundN := cuts_le ranged ends (near.subset (by simp : n ∈ [k,n]))
  change n - 1 ≤ 0x10FFFF
  omega

variable {x : CodePoint} {i : Nat} {s : Segment}

theorem segmentIndex?_eq_some_iff_first {segments : Array Segment}
    (ascend : segments.toList.Pairwise fun a b => a.hi < b.hi) : segmentIndex? segments x = some i ↔
      x.isScalar = true ∧ ∃ s, segments[i]? = some s ∧ x ∈ s ∧ ∀ (j : Nat) t, j < i → segments[j]? = some t → t.hi < x := by
  have below : ∀ t : Segment, t.locate x = .lt ↔ t.hi < x := by
    intro t
    unfold Interval.locate
    split
    · simp [*]
    · split <;> simp [*]
  have rising : segments.toList.Pairwise fun a b => b.locate x = .lt → a.locate x = .lt := by
    refine ascend.imp fun {a b} order isBelow => ?_
    rw [below] at isBelow ⊢
    exact Int.lt_trans order isBelow
  unfold segmentIndex?
  split
  · rename_i scalar
    rw [Search.index?_eq_some_iff_first rising]
    simp only [scalar,true_and,below,IntervalSet.locate_eq_iff]
  · rename_i notScalar
    simp [notScalar]

def Uses (used : CharClass) (ranges : List (Interval CodePoint)) : Prop :=
  ∀ x : CodePoint, x.isScalar = true → (used.contains x = true ↔ Covers ranges x)

theorem uses_ofRanges (ranged : ∀ r ∈ ranges, Ranged r) : Uses (.ofRanges ranges) ranges :=
  fun _ scalar => CharClass.contains_ofRanges (fun r member => ⟨(ranged r member).lower,(ranged r member).order⟩) scalar

theorem exists_cell (ranged : ∀ r ∈ ranges, Ranged r) (covered : Covers ranges x) :
    ∃ k n : Int, [k,n] <:+: cuts ranges ∧ k ≤ x ∧ x < n := by
  obtain ⟨r,inRanges,lower,upper⟩ := covered
  have after : (x : Int) < cutAfter r.hi := by
    rw [cutAfter_eq (ranged r inRanges)]
    exact Int.lt_add_one_of_le upper
  exact exists_neighbours cuts_sorted (mem_cuts.mpr ⟨r,inRanges,.inl rfl⟩) (mem_cuts.mpr ⟨r,inRanges,.inr rfl⟩) lower after

theorem segmentIndex?_of_covered (ranged : ∀ r ∈ ranges, Ranged r) (uses : Uses used ranges)
    (scalar : x.isScalar = true) (covered : Covers ranges x) {k n : Int} (near : [k,n] <:+: cuts ranges) (below : k ≤ x)
    (above : x < n) : ∃ i, (segmentsBetween used (cuts ranges))[i]? = some ⟨cellStart k,n - 1⟩ ∧
      segmentIndex? (segmentsBetween used (cuts ranges)).toArray x = some i := by
  have lower := cuts_nonneg ranged (near.subset (by simp : k ∈ [k,n]))
  have inUnicode : k ≤ 0x10FFFF := below.trans (CodePoint.isScalar_iff.mp scalar).2.1
  obtain ⟨startScalar,starts,first⟩ := cellStart_spec lower inUnicode
  have atMost := first x scalar below
  have startsInside : (cellStart k : Int) < n := Int.lt_of_le_of_lt atMost above
  -- The range that holds the scalar holds the start of its cell as well.
  have inUse : used.contains (cellStart k) = true := by
    obtain ⟨r,inRanges,inR⟩ := covered
    exact (uses _ startScalar).mpr ⟨r,inRanges,
      (cell_even ranged near inRanges ⟨starts,startsInside⟩ ⟨below,above⟩).mpr inR⟩
  have member : (⟨cellStart k,n - 1⟩ : Segment) ∈ segmentsBetween used (cuts ranges) :=
    mem_segmentsBetween.mpr ⟨k,n,near,
      segmentBetween_eq_some_iff.mpr ⟨rfl,Int.le_sub_one_of_lt startsInside,inUse⟩⟩
  obtain ⟨i,atI⟩ := List.mem_iff_getElem?.mp member
  refine ⟨i,atI,(segmentIndex?_eq_some_iff_first segments_ascend).mpr
    ⟨scalar,_,by simpa using atI,⟨atMost,Int.le_sub_one_of_lt above⟩,fun j t before atJ => ?_⟩⟩
  -- An earlier segment ends at an earlier cut, and no cut lies between the start of the cell and its end.
  have atJ' : (segmentsBetween used (cuts ranges))[j]? = some t := by simpa using atJ
  obtain ⟨k',n',near',found⟩ := mem_segmentsBetween.mp (List.mem_of_getElem? atJ')
  obtain ⟨rfl,_,_⟩ := segmentBetween_eq_some_iff.mp found
  have order : (n' : Int) - 1 < n - 1 := segments_hi_lt atJ' atI before
  have apart : (n' : Int) ≤ k ∨ n ≤ n' := neighbours_split cuts_sorted near (near'.subset (by simp))
  change (n' : Int) - 1 < x
  omega

-- Only scalars of the ranges are found. A segment past the end of Unicode stands after one that ends there.
theorem covered_of_segmentIndex? (ranged : ∀ r ∈ ranges, Ranged r) (uses : Uses used ranges)
    (found : segmentIndex? (segmentsBetween used (cuts ranges)).toArray x = some i) : Covers ranges x := by
  obtain ⟨scalar,s,atI,⟨lower,upper⟩,earlier⟩ := (segmentIndex?_eq_some_iff_first segments_ascend).mp found
  have atI' : (segmentsBetween used (cuts ranges))[i]? = some s := by simpa using atI
  obtain ⟨k,n,near,between⟩ := mem_segmentsBetween.mp (List.mem_of_getElem? atI')
  obtain ⟨rfl,order,inUse⟩ := segmentBetween_eq_some_iff.mp between
  have inK : k ∈ cuts ranges := near.subset (by simp)
  have less := neighbours_lt cuts_sorted near
  by_cases inUnicode : (k : Int) ≤ 0x10FFFF
  · obtain ⟨startScalar,starts,_⟩ := cellStart_spec (cuts_nonneg ranged inK) inUnicode
    obtain ⟨r,inRanges,inR⟩ := (uses _ startScalar).mp inUse
    exact ⟨r,inRanges,(cell_even ranged near inRanges ⟨starts.trans lower,Int.lt_of_le_sub_one upper⟩
      ⟨starts,Int.lt_of_le_sub_one order⟩).mpr inR⟩
  · exfalso
    obtain ⟨r,inRanges,place⟩ := mem_cuts.mp inK
    obtain ⟨rLower,rOrder,_⟩ := ranged r inRanges
    have rStart : (0x10FFFF : Int) ≥ r.lo := (CodePoint.isScalar_iff.mp rLower).2.1
    rw [cutAfter_eq (ranged r inRanges)] at place
    have rEnd : (0x10FFFF : Int) ≤ r.hi := by
      rcases place with rfl | rfl <;> omega
    have covered : Covers ranges (0x10FFFF : Int) := ⟨r,inRanges,rStart,rEnd⟩
    obtain ⟨k₀,n₀,near₀,below₀,above₀⟩ := exists_cell ranged covered
    obtain ⟨j,atJ,_⟩ := segmentIndex?_of_covered ranged uses (by decide) covered near₀ below₀ above₀
    have apart : (k : Int) ≤ k₀ ∨ n₀ ≤ k := neighbours_split cuts_sorted near₀ inK
    have before : j < i := by
      by_contra notBefore
      rcases Nat.eq_or_lt_of_le (not_lt.mp notBefore) with rfl | after
      · have same : (n - 1 : Int) = n₀ - 1 := congrArg Interval.hi (Option.some.inj (atI'.symm.trans atJ))
        omega
      · have ends : (n - 1 : Int) < n₀ - 1 := segments_hi_lt atI' atJ after
        omega
    have ends : (n₀ - 1 : Int) < x := earlier j _ before (by simpa using atJ)
    have last : (0x10FFFF : Int) ≥ x := (CodePoint.isScalar_iff.mp scalar).2.1
    have room : (0x10FFFF : Int) < n₀ := above₀
    omega

-- The segment that holds a scalar stands for it: no range tells the two apart.
theorem segments_even (ranged : ∀ r ∈ ranges, Ranged r) (uses : Uses used ranges)
    (found : segmentIndex? (segmentsBetween used (cuts ranges)).toArray x = some i)
    (atI : (segmentsBetween used (cuts ranges))[i]? = some s) :
    s.lo.isScalar = true ∧ ∀ r ∈ ranges, x ∈ r ↔ s.lo ∈ r := by
  have covered := covered_of_segmentIndex? ranged uses found
  have scalar := ((segmentIndex?_eq_some_iff_first segments_ascend).mp found).1
  obtain ⟨k,n,near,below,above⟩ := exists_cell ranged covered
  obtain ⟨j,atJ,found'⟩ := segmentIndex?_of_covered ranged uses scalar covered near below above
  cases found.symm.trans found'
  cases atI.symm.trans atJ
  have lower := cuts_nonneg ranged (near.subset (by simp : k ∈ [k,n]))
  obtain ⟨startScalar,starts,first⟩ := cellStart_spec lower (below.trans (CodePoint.isScalar_iff.mp scalar).2.1)
  have startsInside := Int.lt_of_le_of_lt (first x scalar below) above
  exact ⟨startScalar,fun r inRanges => cell_even ranged near inRanges ⟨below,above⟩ ⟨starts,startsInside⟩⟩

theorem segments_complete (ranged : ∀ r ∈ ranges, Ranged r) (uses : Uses used ranges) (scalar : x.isScalar = true)
    (missing : segmentIndex? (segmentsBetween used (cuts ranges)).toArray x = none) : ¬ Covers ranges x := by
  intro covered
  obtain ⟨k,n,near,below,above⟩ := exists_cell ranged covered
  obtain ⟨i,_,found⟩ := segmentIndex?_of_covered ranged uses scalar covered near below above
  cases missing.symm.trans found

theorem isScalar_pred {c : Int} (scalar : CodePoint.isScalar c = true) (nonneg : 0 ≤ c - 1) :
    CodePoint.isScalar (c - 1) = true ∨ c - 1 = CodePoint.surrogateLast := by
  rw [CodePoint.isScalar_iff] at scalar ⊢
  change _ ∨ c - 1 = 0xDFFF
  omega

variable {classes : List CharClass}

theorem le_greatest_of_tidy (tidy : ∀ c ∈ classes, c.Tidy) :
    ∀ r ∈ classes.flatMap CharClass.toList, r.hi ≤ CodePoint.greatest := by
  intro r member
  obtain ⟨c,inClasses,inC⟩ := List.mem_flatMap.mp member
  rcases (tidy c inClasses).ends r inC with scalar | last
  · exact (CodePoint.isScalar_iff.mp scalar).2.1
  · rw [last]
    decide

theorem ranged_of_tidy (tidy : ∀ c ∈ classes, c.Tidy) : ∀ r ∈ classes.flatMap CharClass.toList, Ranged r := by
  intro r member
  obtain ⟨c,inClasses,inC⟩ := List.mem_flatMap.mp member
  obtain ⟨scalar,order⟩ := (tidy c inClasses).starts r inC
  exact ⟨scalar,order,Int.lt_of_le_of_lt (le_greatest_of_tidy tidy r member) (by decide)⟩

theorem covers_iff_contains (tidy : ∀ c ∈ classes, c.Tidy) (scalar : x.isScalar = true) :
    Covers (classes.flatMap CharClass.toList) x ↔ ∃ c ∈ classes, c.contains x = true := by
  constructor
  · rintro ⟨r,member,inR⟩
    obtain ⟨c,inClasses,inC⟩ := List.mem_flatMap.mp member
    exact ⟨c,inClasses,(tidy c inClasses).contains_iff.mpr ⟨scalar,r,inC,inR⟩⟩
  · rintro ⟨c,inClasses,held⟩
    obtain ⟨_,r,inC,inR⟩ := (tidy c inClasses).contains_iff.mp held
    exact ⟨r,List.mem_flatMap.mpr ⟨c,inClasses,inC⟩,inR⟩

theorem partition_segmented (tidy : ∀ c ∈ classes, c.Tidy) : Segmented (partition classes) :=
  segments_segmented (ranged_of_tidy tidy) (le_greatest_of_tidy tidy)

theorem partition_le_greatest (tidy : ∀ c ∈ classes, c.Tidy) (member : s ∈ partition classes) :
    s.hi ≤ CodePoint.greatest :=
  segments_le_greatest (ranged_of_tidy tidy) (le_greatest_of_tidy tidy) (List.mem_toArray.mp member)

-- Where a class starts after the surrogates, the segment before it may end with them.
theorem partition_ends (tidy : ∀ c ∈ classes, c.Tidy) (member : s ∈ partition classes) :
    s.hi.isScalar = true ∨ s.hi = CodePoint.surrogateLast := by
  have starts := (partition_segmented tidy).starts s (Array.mem_toList_iff.mpr member)
  obtain ⟨k,n,near,found⟩ := mem_segmentsBetween.mp (List.mem_toArray.mp member)
  obtain ⟨rfl,_,_⟩ := segmentBetween_eq_some_iff.mp found
  obtain ⟨r,inRanges,place⟩ := mem_cuts.mp (near.subset (by simp : n ∈ [k,n]))
  rw [cutAfter_eq (ranged_of_tidy tidy r inRanges)] at place
  change CodePoint.isScalar (n - 1) = true ∨ n - 1 = CodePoint.surrogateLast
  rcases place with rfl | rfl
  · exact isScalar_pred (ranged_of_tidy tidy r inRanges).lower
      ((CodePoint.isScalar_iff.mp starts.1).1.trans starts.2)
  · obtain ⟨c,inClasses,inC⟩ := List.mem_flatMap.mp inRanges
    rw [Int.add_sub_cancel]
    exact (tidy c inClasses).ends r inC

theorem partition_even (tidy : ∀ c ∈ classes, c.Tidy) (found : segmentIndex? (partition classes) x = some i)
    (atI : (partition classes)[i]? = some s) {c : CharClass} (member : c ∈ classes) :
    c.contains x = true ↔ c.contains s.lo = true := by
  have ranged := ranged_of_tidy tidy
  have scalar := ((partition_segmented tidy).segmentIndex?_eq_some_iff.mp found).1
  obtain ⟨startScalar,even⟩ := segments_even ranged (uses_ofRanges ranged) found (by simpa [partition] using atI)
  rw [(tidy c member).contains_iff,(tidy c member).contains_iff]
  simp only [scalar,startScalar,true_and]
  exact exists_congr fun r => and_congr_right fun inC => even r (List.mem_flatMap.mpr ⟨c,member,inC⟩)

theorem segmentIndex?_isSome_iff (tidy : ∀ c ∈ classes, c.Tidy) :
    (segmentIndex? (partition classes) x).isSome = true ↔ ∃ c ∈ classes, c.contains x = true := by
  have ranged := ranged_of_tidy tidy
  constructor
  · intro held
    obtain ⟨i,found⟩ := Option.isSome_iff_exists.mp held
    have scalar := ((partition_segmented tidy).segmentIndex?_eq_some_iff.mp found).1
    exact (covers_iff_contains tidy scalar).mp (covered_of_segmentIndex? ranged (uses_ofRanges ranged) found)
  · rintro ⟨c,inClasses,held⟩
    have scalar := ((tidy c inClasses).contains_iff.mp held).1
    have covered := (covers_iff_contains tidy scalar).mpr ⟨c,inClasses,held⟩
    by_contra missing
    exact segments_complete ranged (uses_ofRanges ranged) scalar (Option.not_isSome_iff_eq_none.mp missing) covered

theorem partition_complete (tidy : ∀ c ∈ classes, c.Tidy) (missing : segmentIndex? (partition classes) x = none)
    {c : CharClass} (member : c ∈ classes) : c.contains x = false := by
  apply Bool.eq_false_iff.mpr
  intro held
  have found := (segmentIndex?_isSome_iff tidy).mpr ⟨c,member,held⟩
  rw [missing] at found
  cases found

-- However the classes touch, overlap or span the surrogates, their segments are in order and disjoint, each of them is
-- inside a class or outside it, together they hold the characters in use, and looking a character up finds its segment.
-- They end where ranges of such classes may end, so that they can be cut again.
theorem partition_divides (classes : List CharClass) (tidy : ∀ c ∈ classes, c.Tidy) :
    Segmented (partition classes) ∧
    (∀ s ∈ partition classes, s.hi.isScalar = true ∨ s.hi = CodePoint.surrogateLast) ∧
    (∀ s ∈ partition classes, ∀ c ∈ classes, (∀ x ∈ s, x.isScalar = true → c.contains x = true) ∨
      ∀ x ∈ s, x.isScalar = true → c.contains x = false) ∧
    (∀ x : CodePoint, x.isScalar = true →
      ((∃ s ∈ partition classes, x ∈ s) ↔ ∃ c ∈ classes, c.contains x = true)) ∧
    (∀ (x : CodePoint) (i : Nat), segmentIndex? (partition classes) x = some i ↔
      x.isScalar = true ∧ ∃ s, (partition classes)[i]? = some s ∧ x ∈ s) ∧
    ∀ x : CodePoint, (segmentIndex? (partition classes) x).isSome = true ↔ ∃ c ∈ classes, c.contains x = true := by
  have segmented := partition_segmented tidy
  have found : ∀ (x : CodePoint) (i : Nat), segmentIndex? (partition classes) x = some i ↔
      x.isScalar = true ∧ ∃ s, (partition classes)[i]? = some s ∧ x ∈ s := fun _ _ => segmented.segmentIndex?_eq_some_iff
  refine ⟨segmented,fun s => partition_ends tidy,?_,?_,found,fun x => segmentIndex?_isSome_iff tidy⟩
  · intro s member c inClasses
    obtain ⟨i,atI⟩ := Array.mem_iff_getElem?.mp member
    have even : ∀ x ∈ s, x.isScalar = true → (c.contains x = true ↔ c.contains s.lo = true) :=
      fun x inS scalar => partition_even tidy ((found x i).mpr ⟨scalar,s,atI,inS⟩) atI inClasses
    -- The lowest character decides for the whole segment.
    cases lowest : c.contains s.lo with
    | true => exact .inl fun x inS scalar => (even x inS scalar).mpr lowest
    | false =>
      refine .inr fun x inS scalar => Bool.eq_false_iff.mpr fun held => ?_
      rw [(even x inS scalar).mp held] at lowest
      cases lowest
  · intro x scalar
    rw [← segmentIndex?_isSome_iff tidy,Option.isSome_iff_exists]
    constructor
    · rintro ⟨s,member,inS⟩
      obtain ⟨i,atI⟩ := Array.mem_iff_getElem?.mp member
      exact ⟨i,(found x i).mpr ⟨scalar,s,atI,inS⟩⟩
    · rintro ⟨i,place⟩
      obtain ⟨_,s,atI,inS⟩ := (found x i).mp place
      exact ⟨s,Array.mem_of_getElem? atI,inS⟩

-- Classes that end before the surrogates, go on after them, and end with them.
def touching : List CharClass :=
  [.ofRanges [⟨0xD000,0xD7FF⟩],.ofRanges [⟨0xD7FF,0xE001⟩],.ofRanges [⟨0x10FFFF,0x10FFFF⟩,⟨0xD700,0xDFFF⟩]]

theorem partition_divides_touching : (∀ c ∈ touching, c.Tidy) ∧
    partition touching = #[⟨0xD000,0xD6FF⟩,⟨0xD700,0xD7FE⟩,⟨0xD7FF,0xD7FF⟩,⟨0xE000,0xE001⟩,⟨0x10FFFF,0x10FFFF⟩] ∧
    Segmented (partition touching) ∧
    (∀ s ∈ partition touching, ∀ c ∈ touching, (∀ x ∈ s, x.isScalar = true → c.contains x = true) ∨
      ∀ x ∈ s, x.isScalar = true → c.contains x = false) ∧
    ∀ x : CodePoint, (segmentIndex? (partition touching) x).isSome = true ↔ ∃ c ∈ touching, c.contains x = true := by
  have tidy : ∀ c ∈ touching, c.Tidy := by
    intro c member
    simp only [touching,List.mem_cons,List.not_mem_nil,or_false] at member
    rcases member with rfl | rfl | rfl
    · exact CharClass.ofRanges_tidy (by decide) (by decide)
    · exact CharClass.ofRanges_tidy (by decide) (by decide)
    · exact CharClass.ofRanges_tidy (by decide) (by decide)
  obtain ⟨segmented,_,even,_,_,found⟩ := partition_divides touching tidy
  exact ⟨tidy,by cbv,segmented,even,found⟩

end Partition

end LexPattern.Automaton
