import Mathlib
import LexPattern.Proofs.Interval.Normal

namespace LexPattern

variable {α : Type u} [LinearOrder α] {D : Domain α} {S : Set α} {x : α}

namespace Interval

variable {a b : Interval α}

theorem leftOf_spec (lawful : D.Lawful S) (validA : a.Valid S) (validB : b.Valid S) :
    Spread S (a.leftOf D b).toList ∧ (∀ piece ∈ (a.leftOf D b).toList, piece.lo = a.lo ∧ piece.hi < b.lo) ∧
      ∀ x ∈ S, Covers (a.leftOf D b).toList x ↔ a.lo ≤ x ∧ x < b.lo := by
  unfold leftOf
  split
  · rename_i starts
    obtain ⟨hi,stepped,inHi,below,atLeast⟩ := lawful.pred_above validB.lower validA.lower starts
    have nearest := (lawful.pred_nearest validB.lower stepped).2.2
    rw [stepped]
    simp only [Option.map_some,Option.toList_some,Covers.cons,Covers.nil,or_false,mem_def]
    refine ⟨Spread.cons_iff.mpr ⟨⟨atLeast,validA.lower,inHi⟩,by simp,.nil⟩,by simpa using below,?_⟩
    intro x inX
    exact ⟨fun held => ⟨held.1,held.2.trans_lt below⟩,fun held => ⟨held.1,nearest x inX held.2⟩⟩
  · rename_i covered
    simp only [Option.toList_none,Covers.nil,false_iff,not_and,not_lt]
    exact ⟨.nil,by simp,fun x _ lower => (not_lt.mp covered).trans lower⟩

-- Nothing is right of an overlapping interval only if that one reaches the end.
theorem rightOf_none (lawful : D.Lawful S) (validA : a.Valid S) (validB : b.Valid S)
    (gone : a.rightOf D b = none) : a.hi ≤ b.hi := by
  unfold rightOf at gone
  split at gone
  · rename_i ends
    obtain ⟨lo,stepped,_⟩ := lawful.succ_below validB.upper validA.upper ends
    simp [stepped] at gone
  · rename_i reaches
    exact not_lt.mp reaches

theorem rightOf_some (lawful : D.Lawful S) (validA : a.Valid S) (validB : b.Valid S)
    (found : a.rightOf D b = some right) :
    right.Valid S ∧ right.hi = a.hi ∧ b.hi < right.lo ∧ ∀ x ∈ S, b.hi < x → right.lo ≤ x := by
  unfold rightOf at found
  split at found
  · rename_i ends
    obtain ⟨lo,stepped,inLo,above,atMost⟩ := lawful.succ_below validB.upper validA.upper ends
    have nearest := (lawful.succ_nearest validB.upper stepped).2.2
    rw [stepped,Option.map_some] at found
    cases found
    exact ⟨⟨atMost,inLo,validA.upper⟩,rfl,above,nearest⟩
  · cases found

end Interval

namespace IntervalSet

variable {as bs cuts rest : List (Interval α)} {a b current : Interval α}

def overlap (a b : Interval α) : List (Interval α) :=
  if max a.lo b.lo ≤ min a.hi b.hi then [⟨max a.lo b.lo,min a.hi b.hi⟩] else []

theorem meet_cons_cons : meet (a :: as) (b :: bs) =
    overlap a b ++ if a.hi < b.hi then meet as (b :: bs) else meet (a :: as) bs := by
  rw [meet,overlap,max_def,min_def]
  by_cases shared : (if a.lo ≤ b.lo then b.lo else a.lo) ≤ (if a.hi ≤ b.hi then a.hi else b.hi)
  · simp only [if_pos shared,List.singleton_append]
  · simp only [if_neg shared,List.nil_append]

theorem covers_overlap : Covers (overlap a b) x ↔ x ∈ a ∧ x ∈ b := by
  unfold overlap
  simp only [Interval.mem_def]
  split
  · simp only [Covers.cons,Covers.nil,or_false,Interval.mem_def,max_le_iff,le_min_iff]
    tauto
  · rename_i disjoint
    simp only [Covers.nil,false_iff]
    rintro ⟨⟨lowerA,upperA⟩,lowerB,upperB⟩
    exact disjoint ((max_le lowerA lowerB).trans (le_min upperA upperB))

theorem overlap_spread (validA : a.Valid S) (validB : b.Valid S) : Spread S (overlap a b) := by
  unfold overlap
  split
  · rename_i order
    refine Spread.cons_iff.mpr ⟨⟨order,?_,?_⟩,by simp,.nil⟩
    · rcases max_choice a.lo b.lo with same | same
      · simpa only [same] using validA.lower
      · simpa only [same] using validB.lower
    · rcases min_choice a.hi b.hi with same | same
      · simpa only [same] using validA.upper
      · simpa only [same] using validB.upper
  · exact .nil

theorem mem_overlap {iv : Interval α} (member : iv ∈ overlap a b) :
    a.lo ≤ iv.lo ∧ b.lo ≤ iv.lo ∧ iv.hi ≤ a.hi ∧ iv.hi ≤ b.hi := by
  unfold overlap at member
  split at member
  · cases List.mem_singleton.mp member
    exact ⟨le_max_left _ _,le_max_right _ _,min_le_left _ _,min_le_right _ _⟩
  · cases member

-- Whatever the walk yields starts inside an interval of each list.
theorem meet_starts {iv : Interval α} (member : iv ∈ meet as bs) :
    (∃ a ∈ as, a.lo ≤ iv.lo) ∧ ∃ b ∈ bs, b.lo ≤ iv.lo := by
  induction as generalizing bs with
  | nil => simp [meet] at member
  | cons a as ihA =>
    induction bs with
    | nil => simp [meet] at member
    | cons b bs ihB =>
      rw [meet_cons_cons] at member
      rcases List.mem_append.mp member with shared | later
      · exact ⟨⟨a,by simp,(mem_overlap shared).1⟩,b,by simp,(mem_overlap shared).2.1⟩
      · split at later
        · obtain ⟨⟨a',inA,lower⟩,right⟩ := ihA later
          exact ⟨⟨a',by simp [inA],lower⟩,right⟩
        · obtain ⟨left,b',inB,lower⟩ := ihB later
          exact ⟨left,b',by simp [inB],lower⟩

theorem meet_spread (left : Spread S as) (right : Spread S bs) : Spread S (meet as bs) := by
  induction as generalizing bs with
  | nil => simpa only [meet] using Spread.nil
  | cons a as ihA =>
    induction bs with
    | nil => simpa only [meet] using Spread.nil
    | cons b bs ihB =>
      obtain ⟨validA,gapA,restA⟩ := Spread.cons_iff.mp left
      obtain ⟨validB,gapB,restB⟩ := Spread.cons_iff.mp right
      rw [meet_cons_cons]
      -- The interval left behind is apart from all that follow it in its own list.
      split
      · refine (overlap_spread validA validB).append (ihA restA right) ?_
        intro shared inShared iv inRest
        obtain ⟨⟨later,inLater,lower⟩,_⟩ := meet_starts inRest
        exact (gapA later inLater).mono (mem_overlap inShared).2.2.1 lower
      · refine (overlap_spread validA validB).append (ihB restB) ?_
        intro shared inShared iv inRest
        obtain ⟨_,later,inLater,lower⟩ := meet_starts inRest
        exact (gapB later inLater).mono (mem_overlap inShared).2.2.2 lower

theorem covers_meet (left : Spread S as) (right : Spread S bs) :
    Covers (meet as bs) x ↔ Covers as x ∧ Covers bs x := by
  induction as generalizing bs with
  | nil => simp [meet]
  | cons a as ihA =>
    induction bs with
    | nil => simp [meet]
    | cons b bs ihB =>
      have laterA := left.above_first (x := x)
      have laterB := right.above_first (x := x)
      rw [meet_cons_cons,Covers.append,covers_overlap]
      split
      · rename_i first
        rw [ihA (Spread.cons_iff.mp left).2.2 right]
        simp only [Covers.cons,Interval.mem_def] at *
        grind
      · rename_i second
        rw [ihB (Spread.cons_iff.mp right).2.2]
        simp only [Covers.cons,Interval.mem_def] at *
        grind

-- What cutting one interval by spread cutters promises: the pieces, and cutters that still tell all that
-- lies beyond the interval.
structure Carved (S : Set α) (current : Interval α) (cuts : List (Interval α))
    (result : List (Interval α) × List (Interval α)) : Prop where
  spread : Spread S result.1
  inside : ∀ piece ∈ result.1, current.lo ≤ piece.lo ∧ piece.hi ≤ current.hi
  values : ∀ x ∈ S, Covers result.1 x ↔ x ∈ current ∧ ¬ Covers cuts x
  later : Spread S result.2
  beyond : ∀ x, current.hi < x → (Covers result.2 x ↔ Covers cuts x)

theorem carve_carved (lawful : D.Lawful S) (validC : current.Valid S) (spread : Spread S cuts)
    (reach : ∀ cut ∈ cuts, current.lo ≤ cut.hi) : Carved S current cuts (carve D current cuts) := by
  fun_induction carve D current cuts with
  | case1 current =>
    exact ⟨Spread.cons_iff.mpr ⟨validC,by simp,.nil⟩,by simp,by simp,.nil,by simp⟩
  | case2 current cut cuts meets left gone =>
    obtain ⟨validB,gaps,_⟩ := Spread.cons_iff.mp spread
    obtain ⟨leftSpread,leftInside,leftValues⟩ := Interval.leftOf_spec lawful validC validB
    have ends := Interval.rightOf_none lawful validC validB gone
    refine ⟨leftSpread,?_,?_,spread,fun x _ => Iff.rfl⟩
    · intro piece member
      obtain ⟨lower,upper⟩ := leftInside piece member
      exact ⟨lower.ge,upper.le.trans meets⟩
    · intro x inX
      have after := spread.above_first (x := x)
      rw [leftValues x inX]
      simp only [Covers.cons,Interval.mem_def] at *
      have order := validB.order
      grind
  | case3 current cut cuts meets left right found pieces later carved ih =>
    obtain ⟨validB,gaps,restCuts⟩ := Spread.cons_iff.mp spread
    obtain ⟨leftSpread,leftInside,leftValues⟩ := Interval.leftOf_spec lawful validC validB
    obtain ⟨validR,sameEnd,above,nearest⟩ := Interval.rightOf_some lawful validC validB found
    have starts := reach cut (by simp)
    have inner : Carved S right cuts (pieces,later) := by
      rw [← carved]
      refine ih validR restCuts ?_
      intro later' member
      have valid' := restCuts.valid later' member
      exact (nearest later'.lo valid'.lower (gaps later' member).before).trans valid'.order
    refine ⟨?_,?_,?_,inner.later,?_⟩
    · refine leftSpread.append inner.spread ?_
      -- The cutter's own start lies in the gap between the two sides.
      intro piece inLeft piece' inRight
      refine ⟨cut.lo,validB.lower,(leftInside piece inLeft).2,?_⟩
      exact (validB.order.trans_lt above).trans_le (inner.inside piece' inRight).1
    · intro piece member
      rcases List.mem_append.mp member with inLeft | inRight
      · obtain ⟨lower,upper⟩ := leftInside piece inLeft
        exact ⟨lower.ge,upper.le.trans meets⟩
      · obtain ⟨lower,upper⟩ := inner.inside piece inRight
        exact ⟨(starts.trans above.le).trans lower,upper.trans sameEnd.le⟩
    · intro x inX
      have after := spread.above_first (x := x)
      have beyond := nearest x inX
      have order := validB.order
      rw [Covers.append,leftValues x inX,inner.values x inX]
      simp only [Covers.cons,Interval.mem_def,sameEnd] at *
      grind
    · intro x outside
      rw [inner.beyond x (sameEnd.le.trans_lt outside)]
      have ends : cut.hi < x := (above.le.trans validR.order).trans_lt (sameEnd.le.trans_lt outside)
      simp [Interval.mem_def,not_le.mpr ends]
  | case4 current cut cuts misses =>
    refine ⟨Spread.cons_iff.mpr ⟨validC,by simp,.nil⟩,by simp,?_,spread,fun x _ => Iff.rfl⟩
    intro x inX
    have after := spread.above_first (x := x)
    have order := (Spread.cons_iff.mp spread).1.order
    simp only [Covers.cons,Covers.nil,or_false,Interval.mem_def] at *
    grind

theorem covers_dropWhile (start : α) (lower : start ≤ x) :
    Covers (cuts.dropWhile fun cut => decide (cut.hi < start)) x ↔ Covers cuts x := by
  induction cuts with
  | nil => simp
  | cons cut cuts ih =>
    rw [List.dropWhile_cons]
    split
    · rename_i before
      rw [ih,Covers.cons,Interval.mem_def]
      have ended : ¬ x ≤ cut.hi := not_le.mpr ((of_decide_eq_true before).trans_le lower)
      simp [ended]
    · exact Iff.rfl

theorem dropWhile_spread (spread : Spread S cuts) (p : Interval α → Bool) : Spread S (cuts.dropWhile p) := by
  have kept := List.dropWhile_suffix (l := cuts) p
  exact ⟨fun iv member => spread.valid iv (kept.subset member),spread.apart.sublist kept.sublist⟩

theorem dropWhile_reach (spread : Spread S cuts) (start : α) :
    ∀ cut ∈ cuts.dropWhile (fun cut => decide (cut.hi < start)), start ≤ cut.hi := by
  induction cuts with
  | nil => simp
  | cons cut cuts ih =>
    obtain ⟨valid,gaps,others⟩ := Spread.cons_iff.mp spread
    rw [List.dropWhile_cons]
    split
    · exact ih others
    · rename_i reaches
      have here : start ≤ cut.hi := by simpa using reaches
      intro later member
      rcases List.mem_cons.mp member with rfl | inRest
      · exact here
      · exact (here.trans (gaps later inRest).before.le).trans (others.valid later inRest).order

-- The pieces of each interval, one interval after the other. Cutters are never lost to a later interval.
theorem remove_spread (lawful : D.Lawful S) (left : Spread S as) (right : Spread S cuts) :
    Spread S (remove D as cuts) ∧ (∀ piece ∈ remove D as cuts, ∃ a ∈ as, a.lo ≤ piece.lo) ∧
      ∀ x ∈ S, Covers (remove D as cuts) x ↔ Covers as x ∧ ¬ Covers cuts x := by
  fun_induction remove D as cuts with
  | case1 cuts => exact ⟨.nil,by simp,by simp⟩
  | case2 a as cuts pieces later carved ih =>
    obtain ⟨validA,gaps,others⟩ := Spread.cons_iff.mp left
    have cut := carve_carved lawful validA (dropWhile_spread right fun cut => decide (cut.hi < a.lo))
      (dropWhile_reach right a.lo)
    rw [carved] at cut
    obtain ⟨spread,starts,values⟩ := ih others cut.later
    refine ⟨cut.spread.append spread ?_,?_,?_⟩
    · intro piece inPieces piece' inRest
      obtain ⟨a',inA,lower⟩ := starts piece' inRest
      exact (gaps a' inA).mono (cut.inside piece inPieces).2 lower
    · intro piece member
      rcases List.mem_append.mp member with inPieces | inRest
      · exact ⟨a,by simp,(cut.inside piece inPieces).1⟩
      · obtain ⟨a',inA,lower⟩ := starts piece inRest
        exact ⟨a',by simp [inA],lower⟩
    · intro x inX
      rw [Covers.append,cut.values x inX,values x inX,Covers.cons,or_and_right]
      refine or_congr (and_congr_right fun held => ?_) (and_congr_right fun held => ?_)
      · rw [covers_dropWhile a.lo held.1]
      · have beyond := left.above_first held
        rw [cut.beyond x beyond,covers_dropWhile a.lo (validA.order.trans beyond.le)]

def whole (D : Domain α) : Interval α := ⟨D.least,D.greatest⟩

theorem whole_valid (lawful : D.Lawful S) : (whole D).Valid S :=
  ⟨lawful.least.2 lawful.greatest.1,lawful.least.1,lawful.greatest.1⟩

theorem outside_cons (lawful : D.Lawful S) (valid : current.Valid S) :
    outside D (current :: rest) = ((whole D).leftOf D current).toList ++ gaps D current rest := by
  rw [outside,Interval.leftOf]
  congr 1
  by_cases starts : current.lo = D.least
  · simp [starts,whole]
  · have later : D.least < current.lo := lt_of_le_of_ne (lawful.least.2 valid.lower) (Ne.symm starts)
    simp [starts,whole,later]

theorem gaps_nil (lawful : D.Lawful S) (valid : current.Valid S) :
    gaps D current [] = ((whole D).rightOf D current).toList := by
  rw [gaps,Interval.rightOf]
  by_cases ends : current.hi = D.greatest
  · simp [ends,whole]
  · have earlier : current.hi < D.greatest := lt_of_le_of_ne (lawful.greatest.2 valid.upper) ends
    simp [ends,whole,earlier]

theorem gaps_cons (lawful : D.Lawful S) (validC : current.Valid S) (validN : next.Valid S)
    (apart : current.Apart S next) (rest : List (Interval α)) :
    ∃ between : Interval α, gaps D current (next :: rest) = between :: gaps D next rest ∧ between.Valid S ∧
      current.hi < between.lo ∧ between.hi < next.lo ∧ ∀ x ∈ S, x ∈ between ↔ current.hi < x ∧ x < next.lo := by
  obtain ⟨y,inY,above,below⟩ := apart
  obtain ⟨lo,up,inLo,afterLo,_⟩ := lawful.succ_below validC.upper inY above
  obtain ⟨hi,down,inHi,beforeHi,_⟩ := lawful.pred_above validN.lower inY below
  have nearestLo := (lawful.succ_nearest validC.upper up).2.2
  have nearestHi := (lawful.pred_nearest validN.lower down).2.2
  have order : lo ≤ hi := (nearestLo y inY above).trans (nearestHi y inY below)
  refine ⟨⟨lo,hi⟩,by rw [gaps]; simp [up,down,order],⟨order,inLo,inHi⟩,afterLo,beforeHi,?_⟩
  intro x inX
  rw [Interval.mem_def]
  exact ⟨fun held => ⟨afterLo.trans_le held.1,held.2.trans_lt beforeHi⟩,
    fun held => ⟨nearestLo x inX held.1,nearestHi x inX held.2⟩⟩

theorem gaps_spread (lawful : D.Lawful S) (spread : Spread S (current :: rest)) :
    Spread S (gaps D current rest) ∧ (∀ iv ∈ gaps D current rest, current.hi < iv.lo) ∧
      ∀ x ∈ S, Covers (gaps D current rest) x ↔ current.hi < x ∧ ¬ Covers rest x := by
  induction rest generalizing current with
  | nil =>
    have validC := (Spread.cons_iff.mp spread).1
    rw [gaps_nil lawful validC]
    cases found : (whole D).rightOf D current with
    | none =>
      have ends : D.greatest ≤ current.hi := Interval.rightOf_none lawful (whole_valid lawful) validC found
      refine ⟨.nil,by simp,fun x inX => ?_⟩
      have bound := (lawful.greatest.2 inX).trans ends
      simp [bound]
    | some right =>
      obtain ⟨valid,sameEnd,above,nearest⟩ := Interval.rightOf_some lawful (whole_valid lawful) validC found
      refine ⟨Spread.cons_iff.mpr ⟨valid,by simp,.nil⟩,by simpa using above,fun x inX => ?_⟩
      have bound : x ≤ right.hi := sameEnd.symm ▸ lawful.greatest.2 inX
      simp only [Option.toList_some,Covers.cons,Covers.nil,or_false,Interval.mem_def,not_false_eq_true,and_true]
      exact ⟨fun held => above.trans_le held.1,fun held => ⟨nearest x inX held,bound⟩⟩
  | cons next rest ih =>
    obtain ⟨validC,gapC,others⟩ := Spread.cons_iff.mp spread
    obtain ⟨validN,_,_⟩ := Spread.cons_iff.mp others
    obtain ⟨later,after,values⟩ := ih others
    have apart := gapC next (by simp)
    obtain ⟨between,shape,valid,above,below,inside⟩ := gaps_cons lawful validC validN apart rest
    rw [shape]
    refine ⟨Spread.cons_iff.mpr ⟨valid,?_,later⟩,?_,?_⟩
    · intro iv member
      exact ⟨next.lo,validN.lower,below,validN.order.trans_lt (after iv member)⟩
    · intro iv member
      rcases List.mem_cons.mp member with rfl | inRest
      · exact above
      · exact (apart.before.trans_le validN.order).trans (after iv inRest)
    · intro x inX
      have beyond := others.above_first (x := x)
      have order := validN.order
      have before := apart.before
      rw [Covers.cons,inside x inX,values x inX]
      simp only [Covers.cons,Interval.mem_def] at *
      grind

theorem outside_spread (lawful : D.Lawful S) (spread : Spread S as) :
    Spread S (outside D as) ∧ ∀ x ∈ S, Covers (outside D as) x ↔ ¬ Covers as x := by
  cases as with
  | nil =>
    refine ⟨Spread.cons_iff.mpr ⟨whole_valid lawful,by simp,.nil⟩,fun x inX => ?_⟩
    simp [outside,Interval.mem_def,lawful.least.2 inX,lawful.greatest.2 inX]
  | cons first rest =>
    have valid := (Spread.cons_iff.mp spread).1
    obtain ⟨front,inside,frontValues⟩ := Interval.leftOf_spec lawful (whole_valid lawful) valid
    obtain ⟨later,after,values⟩ := gaps_spread lawful spread
    rw [outside_cons lawful valid]
    refine ⟨front.append later ?_,?_⟩
    · intro piece inFront iv inLater
      exact ⟨first.lo,valid.lower,(inside piece inFront).2,valid.order.trans_lt (after iv inLater)⟩
    · intro x inX
      have beyond := spread.above_first (x := x)
      have lower : (whole D).lo ≤ x := lawful.least.2 inX
      have order := valid.order
      rw [Covers.append,frontValues x inX,values x inX]
      simp only [Covers.cons,Interval.mem_def] at *
      grind

structure Represents (S : Set α) (s : IntervalSet α) (p : α → Prop) : Prop where
  spread : Spread S s.toList
  values : ∀ x ∈ S, Covers s.toList x ↔ p x

namespace Represents

variable {s t : IntervalSet α} {p q : α → Prop} {ivs : List (Interval α)} {iv : Interval α}

theorem contains_iff (holds : Represents S s p) (inX : x ∈ S) : s.contains x = true ↔ p x :=
  (contains_iff_covers holds.spread).trans (holds.values x inX)

theorem congr (holds : Represents S s p) (same : ∀ x ∈ S, p x ↔ q x) : Represents S s q :=
  ⟨holds.spread,fun x inX => (holds.values x inX).trans (same x inX)⟩

theorem unique (one : Represents S s p) (other : Represents S t q) (same : ∀ x ∈ S, p x ↔ q x) : s = t := by
  have lists : s.toList = t.toList := by
    refine one.spread.unique other.spread fun x inX => ?_
    rw [one.values x inX,same x inX,other.values x inX]
  cases s
  cases t
  exact congrArg IntervalSet.mk (Array.toList_inj.mp lists)

theorem empty : Represents S (IntervalSet.empty : IntervalSet α) fun _ => False :=
  ⟨.nil,fun _ _ => by simp [IntervalSet.empty,toList]⟩

theorem full (lawful : D.Lawful S) : Represents S (IntervalSet.full D) fun _ => True := by
  refine ⟨Spread.cons_iff.mpr ⟨whole_valid lawful,by simp,.nil⟩,fun x inX => ?_⟩
  simp [IntervalSet.full,Interval.mem_def,lawful.least.2 inX,lawful.greatest.2 inX]

theorem ofList (lawful : D.Lawful S) (valid : ∀ iv ∈ ivs, iv.Valid S) :
    Represents S (IntervalSet.ofList D ivs) (Covers ivs) :=
  ⟨(ofList_spread lawful valid).1,(ofList_spread lawful valid).2⟩

theorem normalize (lawful : D.Lawful S) (holds : Represents S s p) : Represents S (s.normalize D) p :=
  (ofList lawful holds.spread.valid).congr holds.values

theorem insert (lawful : D.Lawful S) (holds : Represents S s p) (valid : iv.Valid S) :
    Represents S (s.insert D iv) fun x => p x ∨ x ∈ iv := by
  have validAll : ∀ each ∈ s.toList ++ [iv], each.Valid S := by
    intro each member
    rcases List.mem_append.mp member with old | new
    · exact holds.spread.valid each old
    · cases List.mem_singleton.mp new
      exact valid
  refine (ofList lawful validAll).congr fun x inX => ?_
  rw [Covers.append,holds.values x inX]
  simp

theorem union (lawful : D.Lawful S) (left : Represents S s p) (right : Represents S t q) :
    Represents S (s.union D t) fun x => p x ∨ q x := by
  unfold IntervalSet.union
  split
  · rename_i nothingNew
    refine left.congr fun x inX => ⟨.inl,?_⟩
    rintro (held | held)
    · exact held
    · rcases Bool.or_eq_true_iff.mp nothingNew with none | same
      · have covered := (right.values x inX).mpr held
        have empty : t.toList = [] := by simpa [isEmpty,toList] using none
        simp [empty] at covered
      · rw [beq_iff_eq] at same
        subst same
        exact (left.values x inX).mp ((right.values x inX).mpr held)
  · have validAll : ∀ each ∈ s.toList ++ t.toList, each.Valid S := by
      intro each member
      rcases List.mem_append.mp member with inS | inT
      · exact left.spread.valid each inS
      · exact right.spread.valid each inT
    refine (ofList lawful validAll).congr fun x inX => ?_
    rw [Covers.append,left.values x inX,right.values x inX]

theorem inter (left : Represents S s p) (right : Represents S t q) :
    Represents S (s.inter t) fun x => p x ∧ q x := by
  refine ⟨by simpa [IntervalSet.inter] using meet_spread left.spread right.spread,fun x inX => ?_⟩
  rw [IntervalSet.inter,toList_ofSorted,covers_meet left.spread right.spread,left.values x inX,right.values x inX]

theorem diff (lawful : D.Lawful S) (left : Represents S s p) (right : Represents S t q) :
    Represents S (s.diff D t) fun x => p x ∧ ¬ q x := by
  obtain ⟨spread,_,values⟩ := remove_spread lawful left.spread right.spread
  refine ⟨by simpa [IntervalSet.diff] using spread,fun x inX => ?_⟩
  rw [IntervalSet.diff,toList_ofSorted,values x inX,left.values x inX,right.values x inX]

theorem symmDiff (lawful : D.Lawful S) (left : Represents S s p) (right : Represents S t q) :
    Represents S (s.symmDiff D t) fun x => (p x ∧ ¬ q x) ∨ (q x ∧ ¬ p x) := by
  refine ((left.union lawful right).diff lawful (left.inter right)).congr fun x _ => ?_
  tauto

theorem complement (lawful : D.Lawful S) (holds : Represents S s p) :
    Represents S (s.complement D) fun x => ¬ p x := by
  obtain ⟨spread,values⟩ := outside_spread lawful holds.spread
  refine ⟨by simpa [IntervalSet.complement] using spread,fun x inX => ?_⟩
  rw [IntervalSet.complement,toList_ofSorted,values x inX,holds.values x inX]

end Represents

end IntervalSet

end LexPattern
