import Mathlib
import LexPattern.Proofs.Automaton.Walk
import LexPattern.Proofs.Core.Language

namespace LexPattern.Automaton

open scoped Computability
open LexPattern.Core (oneOf mem_oneOf)

structure Framed (low high : Nat) (edges : List Edge) : Prop where
  inside : ∀ e ∈ edges, (low ≤ e.source ∧ e.source < high) ∧ low ≤ e.target ∧ e.target < high
  normal : ∀ e ∈ edges, ∀ c ∈ e.label, c.Normal

-- A fragment within these states that is left on the texts of a language.
structure Piece (low high : Nat) (edges : List Edge) (f : Fragment) (l : Language CodePoint) : Prop where
  framed : Framed low high edges
  starts : low ≤ f.start ∧ f.start < high
  leaves : ∀ o ∈ f.outs, low ≤ o ∧ o < high
  sound : ∀ o ∈ f.outs, reach edges f.start o ≤ l
  complete : ∀ w ∈ l, ∃ o ∈ f.outs, Walk edges f.start w o

def bridges (outs : List Nat) (target : Nat) : List Edge := outs.map fun o => ⟨o,none,target⟩

variable {low mid high p q : Nat} {edges more : List Edge} {f g : Fragment} {l m : Language CodePoint}
  {label : Nat → Language CodePoint} {outs : List Nat}

theorem mem_bridges {e : Edge} : e ∈ bridges outs q ↔ ∃ o ∈ outs, e = ⟨o,none,q⟩ := by
  simp only [bridges,List.mem_map,eq_comm]

theorem bridge_mem (member : p ∈ outs) : ⟨p,none,q⟩ ∈ bridges outs q := mem_bridges.mpr ⟨p,member,rfl⟩

namespace Framed

theorem nil : Framed low high [] := ⟨by simp,by simp⟩

theorem widen {low' high' : Nat} (framed : Framed low high edges) (lower : low' ≤ low) (upper : high ≤ high') :
    Framed low' high' edges := by
  refine ⟨fun e member => ?_,framed.normal⟩
  have := framed.inside e member
  omega

theorem append (first : Framed low high edges) (second : Framed low high more) : Framed low high (edges ++ more) := by
  constructor
  · intro e member
    exact (List.mem_append.mp member).elim (first.inside e) (second.inside e)
  · intro e member
    exact (List.mem_append.mp member).elim (first.normal e) (second.normal e)

theorem bridges (sources : ∀ o ∈ outs, low ≤ o ∧ o < high) (target : low ≤ q ∧ q < high) :
    Framed low high (bridges outs q) := by
  constructor
  · intro e member
    obtain ⟨o,inOuts,rfl⟩ := mem_bridges.mp member
    exact ⟨sources o inOuts,target⟩
  · intro e member
    obtain ⟨o,_,rfl⟩ := mem_bridges.mp member
    simp

end Framed

namespace Piece

theorem low_lt_high (piece : Piece low high edges f l) : low < high := piece.starts.1.trans_lt piece.starts.2

-- Sets that follow the walks of a piece are closed under its edges.
theorem closed (piece : Piece low high edges f l) (before : Language CodePoint)
    (agrees : ∀ r, low ≤ r → r < high → label r = before * reach edges f.start r) : Closed edges label := by
  refine (Closed.after before edges f.start).congr fun e member => ?_
  obtain ⟨source,target⟩ := piece.framed.inside e member
  exact ⟨agrees _ source.1 source.2,agrees _ target.1 target.2⟩

theorem pass (q : Nat) : Piece q (q + 1) [] ⟨q,[q]⟩ 1 where
  framed := .nil
  starts := by simp
  leaves := by simp
  sound := by
    intro o member w path
    cases path with
    | stay => rfl
    | silent edge => cases edge
    | read edge => cases edge
  complete := by
    rintro w rfl
    exact ⟨q,by simp,.stay q⟩

theorem consume (q : Nat) {c : CharClass} (normal : c.Normal) :
    Piece q (q + 2) [⟨q,some c,q + 1⟩] ⟨q,[q + 1]⟩ (oneOf fun x => c.contains x = true) where
  framed := ⟨by simp,by simpa using normal⟩
  starts := by simp
  leaves := by simp
  sound := by
    intro o member w path
    cases List.mem_singleton.mp member
    let label : Nat → Language CodePoint := fun r => if r = q then 1 else oneOf fun x => c.contains x = true
    have closed : Closed [⟨q,some c,q + 1⟩] label := by
      intro e inEdges w inSource
      cases List.mem_singleton.mp inEdges
      intro x held
      have nil : w = [] := by simpa [label] using inSource
      simpa [label,nil,mem_oneOf] using held
    have start : [] ∈ label q := by simp [label]
    simpa [label] using closed.reach_le start path
  complete := by
    rintro w ⟨x,held,rfl⟩
    exact ⟨q + 1,by simp,.read (List.mem_singleton.mpr rfl) held (.stay _)⟩

-- Walks in the second part start where the first one is left.
theorem andThen (first : Piece low mid edges f l) (second : Piece mid high more g m) :
    Piece low high (edges ++ (more ++ bridges f.outs g.start)) ⟨f.start,g.outs⟩ (l * m) where
  framed := by
    have lower := first.low_lt_high
    have upper := second.low_lt_high
    refine (first.framed.widen le_rfl upper.le).append ((second.framed.widen lower.le le_rfl).append (.bridges ?_ ?_))
    · intro o member
      have := first.leaves o member
      omega
    · have := second.starts
      omega
  starts := ⟨first.starts.1,first.starts.2.trans second.low_lt_high⟩
  leaves := fun o member => ⟨first.low_lt_high.le.trans (second.leaves o member).1,(second.leaves o member).2⟩
  sound := by
    intro o member
    let label : Nat → Language CodePoint := fun r => if r < mid then reach edges f.start r else l * reach more g.start r
    have below : ∀ r, r < mid → label r = reach edges f.start r := fun r bound => if_pos bound
    have above : ∀ r, mid ≤ r → label r = l * reach more g.start r := fun r bound => if_neg (not_lt.mpr bound)
    have closed : Closed (edges ++ (more ++ bridges f.outs g.start)) label := by
      refine .append ?_ (.append ?_ (.silents ?_))
      · exact first.closed 1 fun r _ bound => by rw [one_mul,below r bound]
      · exact second.closed l fun r bound _ => above r bound
      · intro o inOuts
        rw [below o (first.leaves o inOuts).2,above _ second.starts.1]
        exact (first.sound o inOuts).trans (le_mul_reach l)
    have start : [] ∈ label f.start := by
      rw [below _ first.starts.2]
      exact nil_mem_reach
    refine (closed.reach_le start).trans ?_
    rw [above o (second.leaves o member).1]
    exact mul_le_mul_right (second.sound o member) l
  complete := by
    rintro _ ⟨a,inL,b,inM,rfl⟩
    obtain ⟨o,inOuts,before⟩ := first.complete a inL
    obtain ⟨o',leaves,after⟩ := second.complete b inM
    have bridge : (⟨o,none,g.start⟩ : Edge) ∈ edges ++ (more ++ bridges f.outs g.start) := by simp [bridge_mem inOuts]
    exact ⟨o',leaves,(before.mono (by simp)).append (.silent bridge (after.mono (by simp)))⟩

-- A state from which no way has been built yet.
theorem fork (q : Nat) : Piece q (q + 1) [] ⟨q,[]⟩ 0 where
  framed := .nil
  starts := by simp
  leaves := by simp
  sound := by simp
  complete := fun w member => absurd member (Language.notMem_zero w)

-- The second part may be left out, by way of the state `high`.
theorem optional (first : Piece low mid edges f l) (second : Piece mid high more g m) :
    Piece low (high + 1) (edges ++ (more ++ (bridges f.outs high ++ bridges f.outs g.start)))
      ⟨f.start,g.outs ++ [high]⟩ (l * (1 + m)) where
  framed := by
    have lower := first.low_lt_high
    have upper := second.low_lt_high
    have sources : ∀ o ∈ f.outs, low ≤ o ∧ o < high + 1 := by
      intro o member
      have := first.leaves o member
      omega
    refine (first.framed.widen le_rfl (by omega)).append ((second.framed.widen lower.le (by omega)).append ?_)
    refine (Framed.bridges sources (by omega)).append (.bridges sources ?_)
    have := second.starts
    omega
  starts := by
    have := first.starts
    have := second.low_lt_high
    dsimp only
    omega
  leaves := by
    intro o member
    have := first.low_lt_high
    have := second.low_lt_high
    rcases List.mem_append.mp member with inOuts | skip
    · have := second.leaves o inOuts
      omega
    · have := List.mem_singleton.mp skip
      omega
  sound := by
    intro o member
    let label : Nat → Language CodePoint := fun r =>
      if r < mid then reach edges f.start r else if r < high then l * reach more g.start r else l
    have order := second.low_lt_high
    have below : ∀ r, r < mid → label r = reach edges f.start r := fun r bound => if_pos bound
    have within : ∀ r, mid ≤ r → r < high → label r = l * reach more g.start r := by
      intro r lower upper
      simp only [label,not_lt.mpr lower,upper,if_true,if_false]
    have skip : label high = l := by simp only [label,not_lt.mpr order.le,lt_irrefl,if_false]
    have closed : Closed (edges ++ (more ++ (bridges f.outs high ++ bridges f.outs g.start))) label := by
      refine .append ?_ (.append ?_ (.append (.silents ?_) (.silents ?_)))
      · exact first.closed 1 fun r _ bound => by rw [one_mul,below r bound]
      · exact second.closed l within
      · intro o inOuts
        rw [below o (first.leaves o inOuts).2,skip]
        exact first.sound o inOuts
      · intro o inOuts
        rw [below o (first.leaves o inOuts).2,within _ second.starts.1 second.starts.2]
        exact (first.sound o inOuts).trans (le_mul_reach l)
    have start : [] ∈ label f.start := by
      rw [below _ first.starts.2]
      exact nil_mem_reach
    refine (closed.reach_le start).trans ?_
    rw [mul_add,mul_one]
    rcases List.mem_append.mp member with inOuts | last
    · obtain ⟨lower,upper⟩ := second.leaves o inOuts
      rw [within o lower upper]
      exact (mul_le_mul_right (second.sound o inOuts) l).trans le_add_self
    · rw [List.mem_singleton.mp last,skip]
      exact le_self_add
  complete := by
    rintro _ ⟨a,inL,b,inM,rfl⟩
    obtain ⟨o,inOuts,before⟩ := first.complete a inL
    rcases (Language.mem_add _ _ _).mp inM with rfl | inM
    · refine ⟨high,by simp,(before.mono (by simp)).append (.silent ?_ (.stay high))⟩
      simp [bridge_mem inOuts]
    · obtain ⟨o',leaves,after⟩ := second.complete b inM
      refine ⟨o',by simp [leaves],(before.mono (by simp)).append (.silent ?_ (after.mono (by simp)))⟩
      simp [bridge_mem inOuts]

-- The second part may be passed any number of times, by way of the state `mid`.
theorem loop (first : Piece low mid edges f l) (second : Piece (mid + 1) high more g m) :
    Piece low high (edges ++ (more ++ (bridges f.outs mid ++ (bridges [mid] g.start ++ bridges g.outs mid))))
      ⟨f.start,[mid]⟩ (l * m∗) where
  framed := by
    have lower := first.low_lt_high
    have upper := second.low_lt_high
    refine (first.framed.widen le_rfl (by omega)).append ((second.framed.widen (by omega) le_rfl).append ?_)
    refine (Framed.bridges ?_ (by omega)).append ((Framed.bridges ?_ ?_).append (.bridges ?_ (by omega)))
    · intro o member
      have := first.leaves o member
      omega
    · intro o member
      have := List.mem_singleton.mp member
      omega
    · have := second.starts
      omega
    · intro o member
      have := second.leaves o member
      omega
  starts := by
    have := first.starts
    have := second.low_lt_high
    dsimp only
    omega
  leaves := by
    intro o member
    have := first.low_lt_high
    have := second.low_lt_high
    have := List.mem_singleton.mp member
    omega
  sound := by
    intro o member
    let label : Nat → Language CodePoint := fun r =>
      if r < mid then reach edges f.start r else if r = mid then l * m∗ else l * m∗ * reach more g.start r
    have below : ∀ r, r < mid → label r = reach edges f.start r := fun r bound => if_pos bound
    have hub : label mid = l * m∗ := by simp only [label,lt_irrefl,if_true,if_false]
    have above : ∀ r, mid + 1 ≤ r → label r = l * m∗ * reach more g.start r := by
      intro r bound
      have notLess : ¬ r < mid := by omega
      have notHub : r ≠ mid := by omega
      simp only [label,notLess,notHub,if_false]
    have closed : Closed (edges ++ (more ++ (bridges f.outs mid ++ (bridges [mid] g.start ++ bridges g.outs mid))))
        label := by
      refine .append ?_ (.append ?_ (.append (.silents ?_) (.append (.silents ?_) (.silents ?_))))
      · exact first.closed 1 fun r _ bound => by rw [one_mul,below r bound]
      · exact second.closed _ fun r bound _ => above r bound
      · intro o inOuts
        rw [below o (first.leaves o inOuts).2,hub]
        exact (first.sound o inOuts).trans (le_mul_of_one_le_right' one_le_kstar)
      · intro o inHub
        rw [List.mem_singleton.mp inHub,hub,above _ second.starts.1]
        exact le_mul_reach _
      · intro o inOuts
        rw [above o (second.leaves o inOuts).1,hub,mul_assoc]
        refine mul_le_mul_right ?_ l
        exact (mul_le_mul_right (second.sound o inOuts) _).trans kstar_mul_le_kstar
    have start : [] ∈ label f.start := by
      rw [below _ first.starts.2]
      exact nil_mem_reach
    refine (closed.reach_le start).trans ?_
    rw [List.mem_singleton.mp member,hub]
  complete := by
    rintro _ ⟨a,inL,b,inStar,rfl⟩
    obtain ⟨o,inOuts,before⟩ := first.complete a inL
    obtain ⟨turns,rfl,allIn⟩ := Language.mem_kstar.mp inStar
    let all := edges ++ (more ++ (bridges f.outs mid ++ (bridges [mid] g.start ++ bridges g.outs mid)))
    -- Each text of the star is read on a turn of its own round the hub.
    have round : ∀ turn ∈ turns, Walk all mid turn mid := by
      intro turn member
      obtain ⟨o',leaves,path⟩ := second.complete turn (allIn turn member)
      have enter : (⟨mid,none,g.start⟩ : Edge) ∈ all := by simp [all,bridge_mem]
      have back : (⟨o',none,mid⟩ : Edge) ∈ all := by simp [all,bridge_mem leaves]
      have path' : Walk all mid (turn ++ []) mid := (Walk.silent enter (path.mono (by simp [all]))).append (.silent back (.stay mid))
      rwa [List.append_nil] at path'
    have rounds : Walk all mid turns.flatten mid := by
      clear inStar allIn
      induction turns with
      | nil => exact .stay mid
      | cons turn turns ih =>
        have later := ih fun y member => round y (List.mem_cons_of_mem _ member)
        exact (round turn (List.mem_cons_self ..)).append later
    have arrive : (⟨o,none,mid⟩ : Edge) ∈ all := by simp [all,bridge_mem inOuts]
    exact ⟨mid,by simp,(before.mono (by simp)).append (.silent arrive rounds)⟩

theorem branch {fork : Nat} (first : Piece low mid edges ⟨fork,outs⟩ l) (unentered : ∀ e ∈ edges, e.target ≠ fork)
    (second : Piece mid high more g m) :
    Piece low high (edges ++ (more ++ bridges [fork] g.start)) ⟨fork,outs ++ g.outs⟩ (l + m) where
  framed := by
    have lower := first.low_lt_high
    have upper := second.low_lt_high
    refine (first.framed.widen le_rfl upper.le).append ((second.framed.widen lower.le le_rfl).append (.bridges ?_ ?_))
    · intro o member
      rw [List.mem_singleton.mp member]
      exact ⟨first.starts.1,first.starts.2.trans upper⟩
    · have := second.starts
      omega
  starts := ⟨first.starts.1,first.starts.2.trans second.low_lt_high⟩
  leaves := by
    intro o member
    have := first.low_lt_high
    have := second.low_lt_high
    rcases List.mem_append.mp member with left | right
    · have := first.leaves o left
      omega
    · have := second.leaves o right
      omega
  sound := by
    intro o member
    let label : Nat → Language CodePoint := fun r => if r < mid then reach edges fork r else reach more g.start r
    have below : ∀ r, r < mid → label r = reach edges fork r := fun r bound => if_pos bound
    have above : ∀ r, mid ≤ r → label r = reach more g.start r := fun r bound => if_neg (not_lt.mpr bound)
    have closed : Closed (edges ++ (more ++ bridges [fork] g.start)) label := by
      refine .append ?_ (.append ?_ (.silents ?_))
      · exact first.closed 1 fun r _ bound => by rw [one_mul,below r bound]
      · exact second.closed 1 fun r bound _ => by rw [one_mul,above r bound]
      · intro o inFork w inLabel
        rw [List.mem_singleton.mp inFork,below _ first.starts.2] at inLabel
        rw [above _ second.starts.1,(Walk.of_unentered unentered inLabel).2]
        exact nil_mem_reach
    have start : [] ∈ label fork := by
      rw [below _ first.starts.2]
      exact nil_mem_reach
    refine (closed.reach_le start).trans ?_
    rcases List.mem_append.mp member with left | right
    · rw [below o (first.leaves o left).2]
      exact (first.sound o left).trans le_self_add
    · rw [above o (second.leaves o right).1]
      exact (second.sound o right).trans le_add_self
  complete := by
    intro w inSum
    rcases (Language.mem_add _ _ _).mp inSum with inL | inM
    · obtain ⟨o,inOuts,path⟩ := first.complete w inL
      exact ⟨o,by simp [inOuts],path.mono (by simp)⟩
    · obtain ⟨o,inOuts,path⟩ := second.complete w inM
      exact ⟨o,by simp [inOuts],.silent (q := g.start) (by simp [bridge_mem]) (path.mono (by simp))⟩

end Piece

end LexPattern.Automaton
