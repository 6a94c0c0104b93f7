import Mathlib
import LexPattern.Automaton.Shortest
import LexPattern.Proofs.Automaton.LeastText
import LexPattern.Proofs.Automaton.Residual

namespace LexPattern.Automaton

-- What a search should answer: the first text of a language, or nothing where there is no text.
def First (l : Language CodePoint) : Option (List CodePoint) → Prop
  | some w => w ∈ l ∧ ∀ v ∈ l, rank w ≤ rank v
  | none => ∀ w, w ∉ l

theorem First.unique {l : Language CodePoint} {one other : Option (List CodePoint)} (first : First l one)
    (second : First l other) : one = other := by
  cases one with
  | none =>
    cases other with
    | none => rfl
    | some v => exact absurd second.1 (first v)
  | some w =>
    cases other with
    | none => exact absurd first.1 (second w)
    | some v => rw [rank_injective (le_antisymm (first.2 v second.1) (second.2 w first.1))]

namespace Dfa

def textOf (v : Visit) : List CodePoint := v.2.reverse

def AtDistance (d : Dfa) (k s : Nat) : Prop := (∃ w, d.Leads w s ∧ w.length = k) ∧ ∀ w, d.Leads w s → k ≤ w.length

variable {d : Dfa} {s t k : Nat} {u v : Visit} {w : List CodePoint} {layer vs : List Visit} {seen : Std.HashSet Nat}

section Pass

-- What a pass over candidates keeps: the first of them for each state that was not seen.
structure Kept (R : Visit → Visit → Prop) (seen : Std.HashSet Nat) (vs kept : List Visit) (after : Std.HashSet Nat) :
    Prop where
  sublist : kept.Sublist vs
  fresh : ∀ v ∈ kept, seen.contains v.1 = false
  first : ∀ v ∈ kept, ∀ u ∈ vs, u.1 = v.1 → u = v ∨ R v u
  complete : ∀ u ∈ vs, seen.contains u.1 = false → ∃ v ∈ kept, v.1 = u.1
  after : ∀ s, after.contains s = true ↔ seen.contains s = true ∨ ∃ v ∈ vs, v.1 = s

theorem newVisits_kept {R : Visit → Visit → Prop} (seen : Std.HashSet Nat) (ordered : vs.Pairwise R) :
    Kept R seen vs (newVisits seen vs).1 (newVisits seen vs).2 := by
  induction vs generalizing seen with
  | nil => exact ⟨.slnil,by simp [newVisits],by simp [newVisits],by simp,by simp [newVisits]⟩
  | cons c vs ih =>
    obtain ⟨before,others⟩ := List.pairwise_cons.mp ordered
    rw [newVisits]
    split
    · rename_i known
      obtain ⟨sublist,fresh,first,complete,after⟩ := ih seen others
      have other : ∀ s, seen.contains s = false → c.1 ≠ s := fun s unseen same => by simp [← same,known] at unseen
      refine ⟨sublist.cons c,fresh,?_,?_,?_⟩
      · intro v inKept u member same
        rcases List.mem_cons.mp member with rfl | later
        · exact absurd same (other v.1 (fresh v inKept))
        · exact first v inKept u later same
      · intro u member unseen
        rcases List.mem_cons.mp member with rfl | later
        · exact absurd rfl (other u.1 unseen)
        · exact complete u later unseen
      · intro s
        rw [after]
        constructor
        · exact Or.imp_right fun ⟨v,member,same⟩ => ⟨v,List.mem_cons_of_mem _ member,same⟩
        · rintro (held | ⟨v,member,rfl⟩)
          · exact .inl held
          · rcases List.mem_cons.mp member with rfl | later
            · exact .inl known
            · exact .inr ⟨v,later,rfl⟩
    · rename_i unseen
      obtain ⟨sublist,fresh,first,complete,after⟩ := ih (seen.insert c.1) others
      have inserted : ∀ s, (seen.insert c.1).contains s = false ↔ c.1 ≠ s ∧ seen.contains s = false := by
        intro s
        simp [Std.HashSet.contains_insert]
      refine ⟨sublist.cons_cons c,?_,?_,?_,?_⟩
      · intro v inKept
        rcases List.mem_cons.mp inKept with rfl | later
        · simpa using unseen
        · exact ((inserted v.1).mp (fresh v later)).2
      · intro v inKept u member same
        rcases List.mem_cons.mp inKept with rfl | later
        · exact (List.mem_cons.mp member).imp_right fun inRest => before u inRest
        · rcases List.mem_cons.mp member with rfl | inRest
          · exact absurd same ((inserted v.1).mp (fresh v later)).1
          · exact first v later u inRest same
      · intro u member missing
        by_cases same : c.1 = u.1
        · exact ⟨c,List.mem_cons_self ..,same⟩
        · rcases List.mem_cons.mp member with rfl | inRest
          · exact absurd rfl same
          · obtain ⟨v,inKept,equal⟩ := complete u inRest ((inserted u.1).mpr ⟨same,missing⟩)
            exact ⟨v,List.mem_cons_of_mem _ inKept,equal⟩
      · intro s
        simp only [after,Std.HashSet.contains_insert,Bool.or_eq_true,beq_iff_eq,List.mem_cons,exists_eq_or_imp]
        tauto

end Pass

section Layers

theorem mem_successors : u ∈ d.successors v ↔
    ∃ c segment t, d.target? v.1 c = some t ∧ d.segments[c]? = some segment ∧ u = (t,segment.lo :: v.2) := by
  simp only [successors,List.mem_filterMap,List.mem_range]
  constructor
  · rintro ⟨c,_,found⟩
    split at found
    · rename_i t segment leads atC
      exact ⟨c,segment,t,leads,atC,(Option.some.inj found).symm⟩
    · cases found
  · rintro ⟨c,segment,t,leads,atC,rfl⟩
    refine ⟨c,(Array.getElem?_eq_some_iff.mp atC).1,?_⟩
    rw [leads,atC]

theorem textOf_cons (s : Nat) (x : CodePoint) (v : Visit) : textOf (s,x :: v.2) = textOf v ++ [x] := List.reverse_cons

theorem successors_ascend (segmented : Segmented d.segments) :
    (d.successors v).Pairwise fun a b => rank (textOf a) < rank (textOf b) := by
  refine List.pairwise_filterMap.mpr (List.pairwise_lt_range.imp fun {c c'} less a foundA b foundB => ?_)
  split at foundA
  · rename_i t segment _ atC
    cases foundA
    split at foundB
    · rename_i t' segment' _ atC'
      cases foundB
      rw [textOf_cons,textOf_cons]
      exact rank_snoc_lt_of_last (segmented.lo_lt atC atC' less)
    · cases foundB
  · cases foundA

-- The visits of a layer carry the least texts of the states at its distance, from first to last, and the states seen
-- are those that are no further.
structure Layered (d : Dfa) (k : Nat) (layer : List Visit) (seen : Std.HashSet Nat) : Prop where
  least : ∀ v ∈ layer, d.LeastTo (textOf v) v.1 ∧ (textOf v).length = k
  ascend : layer.Pairwise fun a b => rank (textOf a) < rank (textOf b)
  complete : ∀ {s : Nat}, d.AtDistance k s → ∃ v ∈ layer, v.1 = s
  seen : ∀ s, seen.contains s = true ↔ ∃ w, d.Leads w s ∧ w.length ≤ k

namespace Layered

theorem new : d.Layered 0 [(d.start,[])] ((∅ : Std.HashSet Nat).insert d.start) where
  least := by
    intro v member
    cases List.mem_singleton.mp member
    exact ⟨⟨leads_nil,fun _ _ => rank_nil_le⟩,rfl⟩
  ascend := List.pairwise_singleton _ _
  complete := by
    rintro s ⟨⟨w,leads,empty⟩,_⟩
    cases List.eq_nil_of_length_eq_zero empty
    exact ⟨_,List.mem_singleton_self _,leads_nil.unique leads⟩
  seen := by
    intro s
    simp only [Std.HashSet.contains_insert,Std.HashSet.contains_empty,Bool.or_false,beq_iff_eq,Nat.le_zero]
    constructor
    · rintro rfl
      exact ⟨[],leads_nil,rfl⟩
    · rintro ⟨w,leads,empty⟩
      cases List.eq_nil_of_length_eq_zero empty
      exact leads_nil.unique leads

variable (layered : d.Layered k layer seen)

include layered

theorem candidates_ascend (wellFormed : d.WellFormed) :
    (layer.flatMap d.successors).Pairwise fun a b => rank (textOf a) < rank (textOf b) := by
  refine List.pairwise_flatMap.mpr ⟨fun v _ => successors_ascend wellFormed.segmented,layered.ascend.imp ?_⟩
  intro a b less a' inA b' inB
  obtain ⟨_,_,_,_,_,rfl⟩ := mem_successors.mp inA
  obtain ⟨_,_,_,_,_,rfl⟩ := mem_successors.mp inB
  rw [textOf_cons,textOf_cons]
  exact rank_snoc_lt less

theorem candidate_leads (wellFormed : d.WellFormed) (member : u ∈ layer.flatMap d.successors) :
    d.Leads (textOf u) u.1 ∧ (textOf u).length = k + 1 := by
  obtain ⟨v,inLayer,follows⟩ := List.mem_flatMap.mp member
  obtain ⟨c,segment,t,leads,atC,rfl⟩ := mem_successors.mp follows
  obtain ⟨least,length⟩ := layered.least v inLayer
  obtain ⟨_,atC',scalar,stepped⟩ := wellFormed.step?_lowest leads
  cases atC.symm.trans atC'
  rw [textOf_cons]
  exact ⟨leads_snoc.mpr ⟨v.1,least.leads,scalar,stepped⟩,by simp [length]⟩

-- Some candidate comes no later than any text that reaches a state of the next distance.
theorem exists_candidate (wellFormed : d.WellFormed) (distance : ∀ w, d.Leads w t → k + 1 ≤ w.length)
    (leads : d.Leads w t) (length : w.length = k + 1) :
    ∃ v ∈ layer.flatMap d.successors, v.1 = t ∧ rank (textOf v) ≤ rank w := by
  rcases List.eq_nil_or_concat w with rfl | ⟨before,x,rfl⟩
  · cases length
  rw [List.concat_eq_append] at leads length ⊢
  obtain ⟨s,earlier,scalar,stepped⟩ := leads_snoc.mp leads
  have beforeLength : before.length = k := by simpa using length
  -- A shorter way to the state before would make a shorter way to this one.
  have atDistance : d.AtDistance k s := by
    refine ⟨⟨before,earlier,beforeLength⟩,fun w other => ?_⟩
    have further := distance _ (leads_snoc.mpr ⟨s,other,scalar,stepped⟩)
    simpa using further
  obtain ⟨v,inLayer,rfl⟩ := layered.complete atDistance
  obtain ⟨c,segment,atC,lowest,target⟩ := wellFormed.exists_segment stepped
  refine ⟨(t,segment.lo :: v.2),List.mem_flatMap.mpr ⟨v,inLayer,mem_successors.mpr ⟨c,segment,t,target,atC,rfl⟩⟩,rfl,?_⟩
  rw [textOf_cons]
  exact rank_snoc_le ((layered.least v inLayer).1.least before earlier) lowest

theorem distance_of_unseen (unseen : seen.contains s = false) (leads : d.Leads w s) : k + 1 ≤ w.length := by
  by_contra near
  have known := (layered.seen s).mpr ⟨w,leads,by omega⟩
  rw [unseen] at known
  cases known

theorem step (wellFormed : d.WellFormed) : d.Layered (k + 1) (newVisits seen (layer.flatMap d.successors)).1
    (newVisits seen (layer.flatMap d.successors)).2 := by
  obtain ⟨sublist,fresh,first,complete,after⟩ := newVisits_kept seen (layered.candidates_ascend wellFormed)
  refine ⟨?_,(layered.candidates_ascend wellFormed).sublist sublist,?_,?_⟩
  · intro v inKept
    obtain ⟨leads,length⟩ := layered.candidate_leads wellFormed (sublist.subset inKept)
    have distance : ∀ w, d.Leads w v.1 → k + 1 ≤ w.length := fun w other =>
      layered.distance_of_unseen (fresh v inKept) other
    refine ⟨⟨leads,fun w other => ?_⟩,length⟩
    rcases Nat.eq_or_lt_of_le (distance w other) with same | longer
    · obtain ⟨u,candidate,equal,notLater⟩ := layered.exists_candidate wellFormed distance other same.symm
      rcases first v inKept u candidate equal with rfl | less
      · exact notLater
      · exact less.le.trans notLater
    · exact (rank_lt_iff.mpr (.inl (length ▸ longer))).le
  · rintro s ⟨⟨w,leads,length⟩,distance⟩
    obtain ⟨u,candidate,rfl,_⟩ := layered.exists_candidate wellFormed distance leads length
    refine complete u candidate (Bool.eq_false_iff.mpr fun known => ?_)
    obtain ⟨w',other,near⟩ := (layered.seen u.1).mp known
    have := distance w' other
    omega
  · intro s
    rw [after,layered.seen]
    constructor
    · rintro (⟨w,leads,near⟩ | ⟨v,candidate,rfl⟩)
      · exact ⟨w,leads,by omega⟩
      · obtain ⟨leads,length⟩ := layered.candidate_leads wellFormed candidate
        exact ⟨_,leads,length.le⟩
    · rintro ⟨w,leads,near⟩
      by_cases known : seen.contains s = true
      · exact .inl ((layered.seen s).mp known)
      · have distance : ∀ w, d.Leads w s → k + 1 ≤ w.length := fun w other =>
          layered.distance_of_unseen (Bool.eq_false_iff.mpr known) other
        obtain ⟨v,candidate,equal,_⟩ :=
          layered.exists_candidate wellFormed distance leads (le_antisymm near (distance w leads))
        exact .inr ⟨v,candidate,equal⟩

theorem exists_accepting (shortest : ∀ w ∈ d.language, k ≤ w.length) (member : w ∈ d.language) (length : w.length = k) :
    ∃ v ∈ layer, d.isAccepting v.1 = true ∧ rank (textOf v) ≤ rank w := by
  obtain ⟨s,leads,accepting⟩ := mem_language_iff_leads.mp member
  have atDistance : d.AtDistance k s := ⟨⟨w,leads,length⟩,fun u other =>
    shortest u (mem_language_iff_leads.mpr ⟨s,other,accepting⟩)⟩
  obtain ⟨v,inLayer,rfl⟩ := layered.complete atDistance
  exact ⟨v,inLayer,accepting,(layered.least v inLayer).1.least w leads⟩

theorem first_of_accepting (shortest : ∀ w ∈ d.language, k ≤ w.length)
    (found : layer.find? (fun v => d.isAccepting v.1) = some v) : First d.language (some (textOf v)) := by
  obtain ⟨accepting,before,after,parts,refused⟩ := List.find?_eq_some_iff_append.mp found
  have inLayer : v ∈ layer := by simp [parts]
  obtain ⟨least,length⟩ := layered.least v inLayer
  refine ⟨mem_language_iff_leads.mpr ⟨v.1,least.leads,accepting⟩,fun w member => ?_⟩
  rcases Nat.eq_or_lt_of_le (shortest w member) with same | longer
  · obtain ⟨u,inLayer',accepting',notLater⟩ := layered.exists_accepting shortest member same.symm
    refine le_trans ?_ notLater
    -- The visits before the one found are refused, and those after it have later texts.
    have ordered := layered.ascend
    rw [parts] at inLayer' ordered
    rcases List.mem_append.mp inLayer' with early | here
    · have no := refused u early
      rw [accepting'] at no
      cases no
    · rcases List.mem_cons.mp here with rfl | late
      · exact le_rfl
      · exact ((List.pairwise_cons.mp (List.pairwise_append.mp ordered).2.1).1 u late).le
  · exact (rank_lt_iff.mpr (.inl (length ▸ longer))).le

theorem longer_of_refused (shortest : ∀ w ∈ d.language, k ≤ w.length)
    (missing : layer.find? (fun v => d.isAccepting v.1) = none) : ∀ w ∈ d.language, k + 1 ≤ w.length := by
  intro w member
  rcases Nat.eq_or_lt_of_le (shortest w member) with same | longer
  · obtain ⟨v,inLayer,accepting,_⟩ := layered.exists_accepting shortest member same.symm
    exact absurd accepting (List.find?_eq_none.mp missing v inLayer)
  · exact longer

omit layered in
-- A shortest accepted text passes every distance up to its length, so an empty layer leaves no accepted text.
theorem none_of_empty (layered : d.Layered k [] seen) (shortest : ∀ w ∈ d.language, k ≤ w.length) :
    First d.language none := by
  intro w member
  obtain ⟨u,inLanguage,minimal⟩ :=
    WellFounded.has_min (InvImage.wf List.length Nat.lt_wfRel.wf) {v | v ∈ d.language} ⟨w,member⟩
  obtain ⟨s,⟨scalars,arrives⟩,accepting⟩ := mem_language_iff_leads.mp inLanguage
  rw [← List.take_append_drop k u] at scalars arrives
  obtain ⟨firstScalars,lastScalars⟩ := List.forall_mem_append.mp scalars
  rw [run?_append] at arrives
  obtain ⟨t,passes,rest⟩ := Option.bind_eq_some_iff.mp arrives
  have long := shortest u inLanguage
  have atDistance : d.AtDistance k t := by
    refine ⟨⟨u.take k,⟨firstScalars,passes⟩,by simp [long]⟩,fun v other => ?_⟩
    have shortcut : v ++ u.drop k ∈ d.language := by
      refine mem_language_iff_leads.mpr ⟨s,⟨List.forall_mem_append.mpr ⟨other.1,lastScalars⟩,?_⟩,accepting⟩
      rw [run?_append,other.2]
      exact rest
    have notShorter : ¬ (v ++ u.drop k).length < u.length := minimal _ shortcut
    rw [List.length_append,List.length_drop] at notShorter
    omega
  obtain ⟨v,inLayer,_⟩ := layered.complete atDistance
  cases inLayer

end Layered

end Layers

section Search

-- Layer by layer, the search arrives at the first accepted text. It has as many layers as states, and the least text
-- of a state is shorter than that.
theorem shortestFrom_first (wellFormed : d.WellFormed) {layers : Nat} (layered : d.Layered k layer seen)
    (shortest : ∀ w ∈ d.language, k ≤ w.length) (nonempty : layer ≠ []) (room : d.size ≤ k + layers) :
    First d.language (d.shortestFrom layers layer seen) := by
  induction layers generalizing k layer seen with
  | zero =>
    obtain ⟨v,inLayer⟩ := List.exists_mem_of_ne_nil layer nonempty
    obtain ⟨least,length⟩ := layered.least v inLayer
    have short := least.length_lt wellFormed
    omega
  | succ layers ih =>
    rw [shortestFrom]
    split
    · rename_i v found
      exact layered.first_of_accepting shortest found
    · rename_i missing
      have longer := layered.longer_of_refused shortest missing
      have next := layered.step wellFormed
      split
      rename_i next' seen' pass
      rw [pass] at next
      split
      · rename_i empty
        rw [List.isEmpty_iff.mp empty] at next
        exact next.none_of_empty longer
      · rename_i more
        exact ih next longer (by simpa using more) (by omega)

theorem shortest?_first (wellFormed : d.WellFormed) : First d.language d.shortest? :=
  shortestFrom_first wellFormed .new (fun _ _ => Nat.zero_le _) (List.cons_ne_nil _ _) (Nat.zero_add _).ge

theorem shortest?_eq_some_iff (wellFormed : d.WellFormed) : d.shortest? = some w ↔
    w ∈ d.language ∧ ∀ v ∈ d.language, v = w ∨ List.Shortlex (· < ·) w v := by
  simp only [← rank_le_iff_shortlex]
  have first := shortest?_first wellFormed
  constructor
  · intro found
    rwa [found] at first
  · intro least
    have answered : First d.language (some w) := least
    exact first.unique answered

theorem shortest?_eq_none_iff (wellFormed : d.WellFormed) : d.shortest? = none ↔ ∀ w, w ∉ d.language := by
  have first := shortest?_first wellFormed
  constructor
  · intro missing
    rwa [missing] at first
  · intro empty
    have answered : First d.language none := empty
    exact first.unique answered

theorem shortest?_congr {e : Dfa} (wellFormed : d.WellFormed) (alsoWellFormed : e.WellFormed)
    (same : d.language = e.language) : d.shortest? = e.shortest? := by
  have first := shortest?_first wellFormed
  rw [same] at first
  exact first.unique (shortest?_first alsoWellFormed)

end Search

end Dfa

end LexPattern.Automaton
