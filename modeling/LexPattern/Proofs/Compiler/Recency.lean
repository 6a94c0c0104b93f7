import Mathlib
import LexPattern.Proofs.Compiler.Memory

namespace LexPattern

section Recency

variable {κ : Type} [DecidableEq κ] {key : κ} {keys earlier since : List κ} {room : Nat}

def recency (keys : List κ) : List κ := keys.dedup.reverse

-- The key was used before, and fewer than `room` others have been used since.
def Repeats (room : Nat) (earlier : List κ) (key : κ) : Prop :=
  ∃ before since, earlier = before ++ key :: since ∧ key ∉ since ∧ since.toFinset.card < room

theorem recency_nodup : (recency keys).Nodup := List.nodup_reverse.mpr (List.nodup_dedup keys)

theorem recency_length : (recency keys).length = keys.toFinset.card := by
  rw [recency,List.length_reverse,List.card_toFinset]

theorem dedup_snoc : (keys ++ [key]).dedup = keys.dedup.filter (· ≠ key) ++ [key] := by
  induction keys with
  | nil => rfl
  | cons first keys ih =>
    by_cases later : first ∈ keys
    · simpa [later] using ih
    · by_cases same : first = key
      · subst same
        simpa [later] using ih
      · simpa [later,same] using ih

theorem recency_snoc : recency (keys ++ [key]) = key :: (recency keys).filter (· ≠ key) := by
  simp [recency,dedup_snoc,List.filter_reverse]

-- Among distinct keys at most one is left out, so one more than asked for is enough to look at.
theorem take_filter_ne {n : Nat} (distinct : keys.Nodup) :
    ((keys.take (n + 1)).filter (· ≠ key)).take n = (keys.filter (· ≠ key)).take n := by
  induction keys generalizing n with
  | nil => rfl
  | cons first keys ih =>
    obtain ⟨isNew,others⟩ := List.nodup_cons.mp distinct
    by_cases same : first = key
    · subst same
      have kept : ∀ l : List κ, l ⊆ keys → l.filter (· ≠ first) = l := by
        intro l included
        refine List.filter_eq_self.mpr fun k member => ?_
        simpa using ne_of_mem_of_not_mem (included member) isNew
      rw [List.take_succ_cons,List.filter_cons_of_neg (by simp),List.filter_cons_of_neg (by simp),
        kept _ (List.take_subset n keys),kept keys (List.Subset.refl _),List.take_take,Nat.min_self]
    · cases n with
      | zero => simp
      | succ n => simpa [same] using ih others

omit [DecidableEq κ] in
theorem mem_take_append {n : Nat} {front rest : List κ} (absent : key ∉ front) :
    key ∈ (front ++ key :: rest).take n ↔ front.length < n := by
  rw [List.take_append,List.mem_append]
  constructor
  · intro found
    rcases found with early | late
    · exact absurd (List.mem_of_mem_take early) absent
    · by_contra short
      simp [Nat.sub_eq_zero_of_le (not_lt.mp short)] at late
  · intro long
    obtain ⟨more,size⟩ := Nat.exists_eq_add_of_lt long
    right
    rw [show n - front.length = more + 1 by omega]
    simp

theorem mem_take_recency : key ∈ (recency earlier).take room ↔ Repeats room earlier key := by
  have place : ∀ {before since : List κ}, earlier = before ++ key :: since → key ∉ since →
      (key ∈ (recency earlier).take room ↔ since.toFinset.card < room) := by
    intro before since split absent
    have last : key :: since.dedup <:+ earlier.dedup := by
      rw [split,List.dedup_append,List.dedup_cons_of_notMem absent]
      exact List.suffix_union_right _ _
    obtain ⟨front,whole⟩ := last
    have shape : recency earlier = since.dedup.reverse ++ key :: front.reverse := by simp [recency,← whole]
    have notLater : key ∉ since.dedup.reverse := by simpa using absent
    rw [shape,mem_take_append notLater,List.length_reverse,List.card_toFinset]
  constructor
  · intro found
    have used : key ∈ earlier := by simpa [recency] using List.mem_of_mem_take found
    obtain ⟨since,before,backwards,absent⟩ := List.eq_append_cons_of_mem (List.mem_reverse.mpr used)
    have split : earlier = before.reverse ++ key :: since.reverse := by
      rw [← List.reverse_reverse earlier,backwards]
      simp
    have notLater : key ∉ since.reverse := by simpa using absent
    exact ⟨before.reverse,since.reverse,split,notLater,(place split notLater).mp found⟩
  · intro ⟨before,since,split,absent,few⟩
    exact (place split absent).mpr few

instance : Decidable (Repeats room earlier key) := decidable_of_iff _ mem_take_recency

example : Repeats 2 [1,2,1,3] 1 ∧ ¬ Repeats 2 [1,2,1,3] 2 := by decide

end Recency

namespace Cache

variable {κ ν : Type} [DecidableEq κ] {f : κ → ν} {cache : Cache κ ν} {keys : List κ}

def Recalls (f : κ → ν) (keys : List κ) (cache : Cache κ ν) : Prop :=
  cache.entries = ((recency keys).take cache.capacity).map fun k => (k,f k)

theorem Recalls.new (capacity : Nat) : (Cache.new capacity).Recalls f [] := by simp [Recalls,Cache.new,recency]

theorem Recalls.size (recalls : cache.Recalls f keys) : cache.size = min cache.capacity keys.toFinset.card := by
  rw [Cache.size,recalls,List.length_map,List.length_take,recency_length]

-- A key that is late has its entry moved to the front, which comes to the same as putting it in again.
theorem Recalls.get?_of_late (recalls : cache.Recalls f keys) {key : κ} (late : Repeats cache.capacity keys key) :
    cache.get? key = some (f key,cache.put key (f key)) := by
  have known : cache.entries.lookup key = some (f key) := by
    rw [recalls]
    exact List.lookup_graph f (mem_take_recency.mpr late)
  have room : cache.entries.length ≤ cache.capacity := by
    rw [recalls,List.length_map,List.length_take]
    exact Nat.min_le_left _ _
  have fewer : (cache.entries.filter fun entry => entry.1 ≠ key).length < cache.entries.length := by
    obtain ⟨before,behind,split,_⟩ := List.lookup_eq_some_iff.mp known
    refine List.length_filter_lt_length_iff_exists.mpr ⟨(key,f key),?_,by simp⟩
    rw [split]
    simp
  rw [get?,known,Option.map_some,Cache.put,List.take_of_length_le]
  exact fewer.trans_le room

theorem Recalls.get?_of_not_late (recalls : cache.Recalls f keys) {key : κ} (notLate : ¬ Repeats cache.capacity keys key) :
    cache.get? key = none := by
  rw [get?,recalls,Option.map_eq_none_iff]
  refine List.lookup_eq_none_iff.mpr fun entry member => ?_
  obtain ⟨k,isLatest,same⟩ := List.mem_map.mp member
  subst same
  refine bne_iff_ne.mpr fun same => ?_
  subst same
  exact notLate (mem_take_recency.mp isLatest)

theorem Recalls.put (recalls : cache.Recalls f keys) (key : κ) : (cache.put key (f key)).Recalls f (keys ++ [key]) := by
  have others : (cache.entries.filter fun entry => entry.1 ≠ key) =
      (((recency keys).take cache.capacity).filter (· ≠ key)).map fun k => (k,f k) := by
    rw [recalls,List.filter_map]
    rfl
  change ((key,f key) :: cache.entries.filter fun entry => entry.1 ≠ key).take cache.capacity =
    ((recency (keys ++ [key])).take cache.capacity).map fun k => (k,f k)
  rw [others,recency_snoc]
  cases cache.capacity with
  | zero => rfl
  | succ n => rw [List.take_succ_cons,List.take_succ_cons,List.map_cons,← List.map_take,take_filter_ne recency_nodup]

end Cache

namespace Counters

variable {c : Counters} {o other : Outcome}

@[simp] theorem hits_hit : c.hit.hits = c.hits + 1 := rfl

@[simp] theorem misses_hit : c.hit.misses = c.misses := rfl

@[simp] theorem count_hit : c.hit.count o = c.count o := by cases o <;> rfl

@[simp] theorem hits_miss : (c.miss o).hits = c.hits := by cases o <;> rfl

@[simp] theorem misses_miss : (c.miss o).misses = c.misses + 1 := rfl

@[simp] theorem count_miss : (c.miss o).count other = c.count other + if o = other then 1 else 0 := by
  cases o <;> cases other <;> rfl

end Counters

inductive Outcome.Of : CompileResult → Outcome → Prop where
  | ok {p : Compiled} : Of (.ok p) .ok
  | malformed {file : String} {fault : Surface.Fault} : Of (.error (.malformed file fault)) .malformed
  | unsupported {file : String} {r : Core.Rejection} (severity : r.reason.severity = .unsupported) :
    Of (.error (.rejected file r)) .unsupported
  | unavailable {file : String} {r : Core.Rejection} (severity : r.reason.severity = .unavailable) :
    Of (.error (.rejected file r)) .unavailable
  | invalid {file : String} {r : Core.Rejection} (severity : r.reason.severity = .invalid) :
    Of (.error (.rejected file r)) .invalid
  | tooLarge {error : Automaton.TooLarge} : Of (.error (.tooLarge error)) .tooLarge

theorem Outcome.of_ofResult (result : CompileResult) : Outcome.Of result (.ofResult result) := by
  cases result with
  | ok p => exact .ok
  | error error =>
    cases error with
    | malformed file fault => exact .malformed
    | tooLarge error => exact .tooLarge
    | rejected file r =>
      unfold ofResult ofSeverity
      dsimp only
      split
      · rename_i severity
        exact .unsupported severity
      · rename_i severity
        exact .unavailable severity
      · rename_i severity
        exact .invalid severity

namespace Compiler

variable {settings : Settings} {size : Nat} {c : Compiler} {earlier requests : List Request}

structure Recalls (settings : Settings) (size : Nat) (earlier : List Request) (c : Compiler) : Prop where
  configured : c.settings = settings
  room : c.cache.capacity = size
  cache : c.cache.Recalls (uncached settings) earlier

theorem new_recalls (settings : Settings) (size : Int) :
    (new settings size).Recalls settings (inForce defaultCacheSize size) [] := ⟨rfl,rfl,.new _⟩

theorem Recalls.faithful (recalls : c.Recalls settings size earlier) : c.Faithful := by
  intro entry member
  rw [recalls.cache] at member
  obtain ⟨r,_,same⟩ := List.mem_map.mp member
  subst same
  rw [recalls.configured]

-- A hit makes its request the latest one, just as a miss does.
theorem compile_cache (recalls : c.Recalls settings size earlier) (r : Request) :
    (c.compile r).2.cache = c.cache.put r (uncached settings r) := by
  unfold compile
  by_cases late : Repeats c.cache.capacity earlier r
  · rw [recalls.cache.get?_of_late late]
  · rw [recalls.cache.get?_of_not_late late,recalls.configured]
    rfl

theorem compile_recalls (recalls : c.Recalls settings size earlier) (r : Request) :
    (c.compile r).2.Recalls settings size (earlier ++ [r]) := by
  refine ⟨(compile_settings r).trans recalls.configured,?_,?_⟩
  · rw [compile_cache recalls]
    exact recalls.room
  · rw [compile_cache recalls]
    exact recalls.cache.put r

theorem after_recalls (recalls : c.Recalls settings size earlier) :
    (c.after requests).Recalls settings size (earlier ++ requests) := by
  induction requests generalizing c earlier with
  | nil =>
    rw [List.append_nil]
    exact recalls
  | cons r requests ih =>
    rw [List.append_cons]
    exact ih (compile_recalls recalls r)

theorem compile_counters (recalls : c.Recalls settings size earlier) (r : Request) : (c.compile r).2.counters =
    if Repeats size earlier r then c.counters.hit
    else c.counters.miss (.ofResult (uncached settings r)) := by
  unfold compile
  rw [← recalls.room]
  by_cases late : Repeats c.cache.capacity earlier r
  · rw [recalls.cache.get?_of_late late,if_pos late]
  · rw [recalls.cache.get?_of_not_late late,if_neg late,recalls.configured]
    rfl

def withHistory (earlier : List Request) : List Request → List (List Request × Request)
  | [] => []
  | r :: requests => (earlier,r) :: withHistory (earlier ++ [r]) requests

theorem withHistory_length : (withHistory earlier requests).length = requests.length := by
  induction requests generalizing earlier with
  | nil => rfl
  | cons r requests ih => simp [withHistory,ih]

-- A number that each call raises by one or leaves as it is shows how many calls raised it.
theorem after_tally (read : Counters → Nat) {raises : List Request × Request → Bool}
    (recalls : c.Recalls settings size earlier)
    (onHit : ∀ (counters : Counters) (earlier : List Request) (r : Request), Repeats size earlier r →
      read counters.hit = read counters + if raises (earlier,r) then 1 else 0)
    (onMiss : ∀ (counters : Counters) (earlier : List Request) (r : Request), ¬ Repeats size earlier r →
      read (counters.miss (.ofResult (uncached settings r))) = read counters + if raises (earlier,r) then 1 else 0) :
    read (c.after requests).counters = read c.counters + (withHistory earlier requests).countP raises := by
  induction requests generalizing c earlier with
  | nil => rfl
  | cons r requests ih =>
    have first : read (c.compile r).2.counters = read c.counters + if raises (earlier,r) then 1 else 0 := by
      rw [compile_counters recalls]
      split
      · rename_i late
        exact onHit c.counters earlier r late
      · rename_i notLate
        exact onMiss c.counters earlier r notLate
    rw [withHistory,List.countP_cons,← Nat.add_assoc,Nat.add_right_comm,← first]
    exact ih (compile_recalls recalls r)

def missed (room : Nat) (requests : List Request) : List Request :=
  ((withHistory [] requests).filter fun call => ¬ Repeats room call.1 call.2).map Prod.snd

section Counts

variable (requests) (recalls : c.Recalls settings size []) (fresh : c.counters = {})

include recalls fresh

theorem after_hits : (c.after requests).counters.hits =
    (withHistory [] requests).countP fun call => Repeats size call.1 call.2 := by
  rw [after_tally Counters.hits recalls,fresh,Nat.zero_add]
  · intro counters earlier r late
    simp [late]
  · intro counters earlier r notLate
    simp [notLate]

theorem after_misses : (c.after requests).counters.misses =
    (withHistory [] requests).countP fun call => ¬ Repeats size call.1 call.2 := by
  rw [after_tally Counters.misses recalls,fresh,Nat.zero_add]
  · intro counters earlier r late
    simp [late]
  · intro counters earlier r notLate
    simp [notLate]

theorem after_count (o : Outcome) : (c.after requests).counters.count o =
    (withHistory [] requests).countP fun call =>
      ¬ Repeats size call.1 call.2 ∧ Outcome.ofResult (uncached settings call.2) = o := by
  have none : Counters.count {} o = 0 := by cases o <;> rfl
  rw [after_tally (Counters.count · o) recalls,fresh,none,Nat.zero_add]
  · intro counters earlier r late
    simp [late]
  · intro counters earlier r notLate
    simp [notLate]

theorem after_outcomes : ∃ outcomes,
    List.Forall₂ (fun r o => Outcome.Of (uncached settings r) o) (missed size requests) outcomes ∧
      ∀ o, (c.after requests).counters.count o = outcomes.count o := by
  refine ⟨(missed size requests).map fun r => .ofResult (uncached settings r),?_,fun o => ?_⟩
  · exact List.forall₂_map_right_iff.mpr (List.forall₂_same.mpr fun r _ => Outcome.of_ofResult (uncached settings r))
  · rw [after_count requests recalls fresh,missed,List.map_map,List.count_eq_countP,List.countP_map,List.countP_filter]
    refine List.countP_congr fun call _ => ?_
    simp [and_comm]

end Counts

-- What a compiler has to show for its requests, where its cache was asked to have room for `size` results.
structure Accounts (settings : Settings) (size : Int) (requests : List Request) (c : Compiler) : Prop where
  room : c.cache.capacity = if size ≤ 0 then 256 else size.toNat
  entries : c.cache.entries = ((recency requests).take c.cache.capacity).map fun r => (r,uncached settings r)
  remembered : c.remembered = min c.cache.capacity requests.toFinset.card
  answers : ∀ r, (c.compile r).1 = uncached settings r
  repeats : ∀ r, (c.compile r).2.counters.hits = c.counters.hits + 1 ↔ Repeats c.cache.capacity requests r
  hits : c.counters.hits = (withHistory [] requests).countP fun call => Repeats c.cache.capacity call.1 call.2
  total : c.counters.hits + c.counters.misses = requests.length
  outcomes : ∃ outcomes, List.Forall₂ (fun r o => Outcome.Of (uncached settings r) o) (missed c.cache.capacity requests)
    outcomes ∧ ∀ o, c.counters.count o = outcomes.count o

theorem after_accounts (settings : Settings) (size : Int) (requests : List Request) :
    Accounts settings size requests ((new settings size).after requests) := by
  have start := new_recalls settings size
  have recalls : ((new settings size).after requests).Recalls settings (inForce defaultCacheSize size) requests :=
    after_recalls start
  have hits := after_hits requests start rfl
  have misses := after_misses requests start rfl
  have outcomes := after_outcomes requests start rfl
  have room := recalls.room
  rw [← room] at recalls hits misses outcomes
  refine ⟨room,recalls.cache,recalls.cache.size,?_,?_,hits,?_,outcomes⟩
  · intro r
    rw [compile_answer recalls.faithful,recalls.configured]
  · intro r
    rw [compile_counters recalls]
    by_cases late : Repeats ((new settings size).after requests).cache.capacity requests r
    · simp [late]
    · simp [late]
  · have split := (withHistory [] requests).length_eq_countP_add_countP fun call =>
      Repeats ((new settings size).after requests).cache.capacity call.1 call.2
    simpa [hits,misses,withHistory_length] using split.symm

end Compiler

end LexPattern
