import Mathlib
import LexPattern.Proofs.Automaton.Labels
import LexPattern.Proofs.Compiler.Stages

namespace LexPattern

open scoped Computability
open LexPattern.Automaton
open LexPattern.Core (Expr)

section Drawing

variable {settings settings' : Settings} {file file' : String} {pattern pattern' : ByteArray} {p q : Compiled}

theorem compile_agrees (compiled : compile settings file pattern = .ok p)
    (compiled' : compile settings' file' pattern' = .ok q)
    (same : ∀ w : List CodePoint, (∀ x ∈ w, x.isScalar = true) → p.dfa.accepts w = q.dfa.accepts w) :
    p.dfa.Agrees q.dfa :=
  (compile_finished compiled).canonical.agrees (compile_finished compiled').canonical (Dfa.language_congr same)

theorem accepts_eq_of_language_eq (compiled : compile settings file pattern = .ok p)
    (compiled' : compile settings' file' pattern' = .ok q) (same : p.expr.language = q.expr.language) (w : List CodePoint) :
    p.dfa.accepts w = q.dfa.accepts w := by
  rw [Bool.eq_iff_iff,compile_accepts compiled,compile_accepts compiled',same]

end Drawing

-- Patterns that match the same texts have the same states and arrows, with labels of the same characters that differ
-- at most in whether a range up to the surrogates is shown to include them. Where both alphabets are cut after the
-- surrogates, or neither is, the drawings are the same text.
theorem toDot_determined (settings settings' : Settings) (file file' : String) (pattern pattern' : ByteArray)
    (p q : Compiled)
    (compiled : compile settings file pattern = .ok p) (compiled' : compile settings' file' pattern' = .ok q)
    (same : ∀ w : List CodePoint, (∀ x ∈ w, x.isScalar = true) → p.dfa.accepts w = q.dfa.accepts w) :
    p.dfa.size = q.dfa.size ∧ p.dfa.start = q.dfa.start ∧
      (∀ (s : Nat) (state state' : DfaState), p.dfa.states[s]? = some state → q.dfa.states[s]? = some state' →
        state.accept = state'.accept ∧ state.targets = state'.targets ∧
        ∀ t, (∀ x : CodePoint, x.isScalar = true →
            (state.labelTo p.dfa.segments t).contains x = (state'.labelTo q.dfa.segments t).contains x) ∧
          (state.labelTo p.dfa.segments t).toList.map Interval.settle =
            (state'.labelTo q.dfa.segments t).toList.map Interval.settle) ∧
      ((CodePoint.surrogateLast ∈ p.dfa.ends ↔ CodePoint.surrogateLast ∈ q.dfa.ends) → p.dfa.toDot = q.dfa.toDot) := by
  have agrees := compile_agrees compiled compiled' same
  have finished := compile_finished compiled
  have alsoFinished := compile_finished compiled'
  refine ⟨agrees.size,agrees.start,fun s state state' atS atS' => ⟨?_,?_,fun t => ⟨fun x scalar => ?_,?_⟩⟩,?_⟩
  · exact agrees.accept_eq atS atS'
  · exact Dfa.targets_eq agrees finished alsoFinished atS atS'
  · exact Dfa.labelTo_contains_eq agrees finished alsoFinished atS atS' scalar
  · exact Dfa.labelTo_settle_eq agrees finished alsoFinished atS atS' t
  · exact agrees.toDot_eq finished alsoFinished

theorem across_language :
    Core.oneOf (fun x => (CharClass.ofRanges [⟨0xD7FF,0xE000⟩]).contains x = true) = {[0xD7FF]} + {[0xE000]} := by
  have denotes : (CharClass.ofRanges [⟨0xD7FF,0xE000⟩]).Denotes fun x => x = 0xD7FF ∨ x = 0xE000 := by
    refine (CharClass.Denotes.range (by decide) (by decide) (by decide)).congr fun (x : Int) scalar => ?_
    have outside := CodePoint.isScalar_iff.mp scalar
    change 0xD7FF ≤ x ∧ x ≤ 0xE000 ↔ x = 0xD7FF ∨ x = 0xE000
    omega
  ext w
  rw [Core.mem_oneOf,Language.mem_add]
  simp only [denotes.contains_iff]
  constructor
  · rintro ⟨x,⟨_,rfl | rfl⟩,rfl⟩
    · exact .inl rfl
    · exact .inr rfl
  · rintro (rfl | rfl)
    · exact ⟨0xD7FF,⟨by decide,.inl rfl⟩,rfl⟩
    · exact ⟨0xE000,⟨by decide,.inr rfl⟩,rfl⟩

theorem toDot_determined_across : ∃ p q, compile {} "" "(\\uD7FF|\\uE000)*".toUTF8 = .ok p ∧
    compile {} "" "[\\uD7FF-\\uE000]*".toUTF8 = .ok q ∧ (∀ w, p.dfa.accepts w = q.dfa.accepts w) ∧
    p.dfa.toDot = q.dfa.toDot := by
  have first : expression? {} "(\\uD7FF|\\uE000)*".toUTF8 =
      some (.repetition 0 none true (.group (.alternation [.literal [0xD7FF],.literal [0xE000]]))) := by cbv
  have second : expression? {} "[\\uD7FF-\\uE000]*".toUTF8 =
      some (.repetition 0 none true (.charClass (.ofRanges [⟨0xD7FF,0xE000⟩]))) := by cbv
  obtain ⟨p,compiled,expr⟩ := exists_compiled 8 first (by decide) (by decide)
  obtain ⟨q,compiled',expr'⟩ := exists_compiled 5 second (by decide) (by decide)
  have languages : p.expr.language = q.expr.language := by
    simp only [expr,expr',Expr.language,Expr.unionLanguage,across_language,add_zero]
  have segments : p.dfa.segments = #[⟨0xD7FF,0xD7FF⟩,⟨0xE000,0xE000⟩] := compile_segments compiled (by rw [expr]; cbv)
  have segments' : q.dfa.segments = #[⟨0xD7FF,0xE000⟩] := compile_segments compiled' (by rw [expr']; cbv)
  have alike : CodePoint.surrogateLast ∈ p.dfa.ends ↔ CodePoint.surrogateLast ∈ q.dfa.ends := by
    simp only [Dfa.ends,segments,segments']
    decide
  have accepts := accepts_eq_of_language_eq compiled compiled' languages
  exact ⟨p,q,compiled,compiled',accepts,
    (toDot_determined {} {} _ _ _ _ p q compiled compiled' fun w _ => accepts w).2.2.2 alike⟩

-- Whether the last character may also be the first one makes no difference to the texts.
theorem kstar_mul_optional (a d : Language CodePoint) : a∗ * (1 + (d + a)) = a∗ * (1 + d) := by
  have absorbed : a∗ * a ≤ a∗ * (1 + d) :=
    calc a∗ * a ≤ a∗ := kstar_mul_le_kstar
      _ = a∗ * 1 := (mul_one _).symm
      _ ≤ a∗ * (1 + d) := mul_le_mul_right le_self_add _
  rw [← add_assoc,mul_add a∗ (1 + d) a]
  exact add_eq_left_iff_le.mpr absorbed

section Trailing

-- Any number of the scalar after the surrogates, and perhaps the one before them, over a segment that ends at `hi`.
def trailing (hi : CodePoint) : Dfa where
  segments := #[⟨0xD7FF,hi⟩,⟨0xE000,0xE000⟩]
  start := 0
  states := #[⟨true,#[some 1,some 0]⟩,⟨true,#[none,none]⟩]

variable {hi x : CodePoint}

theorem trailing_toDot : (trailing hi).toDot = Dot.graph "q" 0
    ([Dot.node "q" 0 true,Dot.arrow "q" 0 0 (CharClass.ofRanges [⟨0xE000,0xE000⟩]).render] ++
      Dot.arrow "q" 0 1 (CharClass.ofRanges [⟨0xD7FF,hi⟩]).render :: [Dot.node "q" 1 true]) := by
  have targets : (⟨true,#[some 1,some 0]⟩ : DfaState).targets = [0,1] := by cbv
  have stopped : (⟨true,#[none,none]⟩ : DfaState).targets = [] := by cbv
  have back : (⟨true,#[some 1,some 0]⟩ : DfaState).labelTo (trailing hi).segments 0 = .ofRanges [⟨0xE000,0xE000⟩] := by
    cbv
  have onward : (⟨true,#[some 1,some 0]⟩ : DfaState).labelTo (trailing hi).segments 1 = .ofRanges [⟨0xD7FF,hi⟩] := by
    cbv
  rw [Dfa.toDot_eq_graph]
  refine congrArg (Dot.graph "q" 0) ?_
  change DfaState.lines ⟨true,#[some 1,some 0]⟩ (trailing hi).segments 0 ++
    (DfaState.lines ⟨true,#[none,none]⟩ (trailing hi).segments 1 ++ []) = _
  simp only [DfaState.lines,targets,stopped,List.map_cons,List.map_nil,back,onward,List.cons_append,List.nil_append]

theorem trailing_stopped : (trailing hi).step? 1 x = none := by
  refine Option.eq_none_iff_forall_ne_some.mpr fun t stepped => ?_
  obtain ⟨c,_,leads⟩ := Dfa.step?_eq_some_iff.mp stepped
  match c with
  | 0 => cases leads
  | 1 => cases leads
  | _ + 2 => cases leads

theorem trailing_languageFrom_one : (trailing hi).languageFrom 1 = 1 := by
  ext w
  rw [Language.mem_one]
  cases w with
  | nil => exact ⟨fun _ => rfl,fun _ => ⟨by simp,rfl⟩⟩
  | cons x w =>
    refine iff_of_false (fun held => ?_) (by simp)
    obtain ⟨_,t,stepped,_⟩ := Dfa.mem_languageFrom_cons.mp held
    rw [trailing_stopped] at stepped
    cases stepped

variable (lower : 0xD7FF ≤ hi) (upper : hi ≤ CodePoint.surrogateLast)
include lower upper

theorem trailing_wellFormed : (trailing hi).WellFormed := by
  refine .of_states ?_ ?_ ?_ ?_ ?_
  · intro segment member
    simp only [trailing,List.mem_cons,List.not_mem_nil,or_false] at member
    rcases member with rfl | rfl
    · exact ⟨show CodePoint.isScalar 0xD7FF = true by decide,lower⟩
    · decide
  · exact List.pairwise_pair.mpr (Int.lt_of_le_of_lt upper (by decide))
  · simp [trailing,Dfa.size]
  · simp [trailing]
  · simp [trailing,Dfa.size]

theorem trailing_step? (scalar : x.isScalar = true) :
    (trailing hi).step? 0 x = if x = 0xE000 then some 0 else if x = 0xD7FF then some 1 else none := by
  have segmented := (trailing_wellFormed lower upper).segmented
  split
  · rename_i after
    rw [after]
    exact (Dfa.target?_eq_step? (c := 1) segmented rfl).symm
  · split
    · rename_i before
      rw [before]
      exact (Dfa.target?_eq_step? (c := 0) segmented rfl).symm
    · rename_i notAfter notBefore
      refine Dfa.step?_eq_none segmented fun segment member => ?_
      have outside := CodePoint.isScalar_iff.mp scalar
      simp only [trailing,List.mem_toArray,List.mem_cons,List.not_mem_nil,or_false] at member
      change Int at x hi
      change hi ≤ 0xDFFF at upper
      change ¬ x = 0xE000 at notAfter
      change ¬ x = 0xD7FF at notBefore
      rcases member with rfl | rfl
      · change ¬ (0xD7FF ≤ x ∧ x ≤ hi)
        omega
      · change ¬ (0xE000 ≤ x ∧ x ≤ 0xE000)
        omega

-- The equation of the start has one solution.
theorem trailing_language : (trailing hi).language = {[0xE000]}∗ * (1 + {[0xD7FF]}) := by
  have notEmpty : ([] : List CodePoint) ∉ ({[0xE000]} : Language CodePoint) := (List.cons_ne_nil _ _).symm
  refine (Language.self_eq_mul_add_iff notEmpty).mp ?_
  ext w
  cases w with
  | nil => exact iff_of_true ⟨by simp,rfl⟩ (.inr (.inl rfl))
  | cons x w =>
    rw [Dfa.language,Dfa.mem_languageFrom_cons,Language.mem_add,Language.mem_mul,Language.mem_add,Language.mem_one]
    constructor
    · rintro ⟨scalar,t,stepped,follows⟩
      change (trailing hi).step? 0 x = some t at stepped
      rw [trailing_step? lower upper scalar] at stepped
      split at stepped
      · rename_i after
        cases stepped
        exact .inl ⟨[0xE000],rfl,w,follows,by rw [after]; rfl⟩
      · split at stepped
        · rename_i before
          cases stepped
          rw [trailing_languageFrom_one,Language.mem_one] at follows
          exact .inr (.inr (by rw [before,follows]; rfl))
        · cases stepped
    · rintro (⟨_,rfl,v,follows,same⟩ | empty | last)
      · cases same
        exact ⟨by decide,0,trailing_step? lower upper (by decide),follows⟩
      · cases empty
      · cases last
        refine ⟨by decide,1,trailing_step? lower upper (by decide),?_⟩
        rw [trailing_languageFrom_one,Language.mem_one]

theorem trailing_canonical : (trailing hi).Canonical := by
  have wellFormed := trailing_wellFormed lower upper
  have accepting : ∀ s < 2, [] ∈ (trailing hi).languageFrom s := by
    intro s bound
    interval_cases s <;> exact ⟨by simp,rfl⟩
  have onward : (trailing hi).step? 0 0xD7FF = some 1 := trailing_step? lower upper (by decide)
  have apart : (trailing hi).languageFrom 0 ≠ (trailing hi).languageFrom 1 := by
    intro same
    have held : [0xD7FF] ∈ (trailing hi).languageFrom 0 :=
      Dfa.mem_languageFrom_cons.mpr ⟨by decide,1,onward,accepting 1 (by decide)⟩
    rw [same,trailing_languageFrom_one,Language.mem_one] at held
    cases held
  refine ⟨wellFormed,⟨?_,?_,?_⟩,⟨rfl,?_⟩,?_⟩
  · intro s (bound : s < 2)
    interval_cases s
    · exact ⟨[],by simp,rfl⟩
    · have leads : (trailing hi).Leads ([] ++ [0xD7FF]) 1 := Dfa.leads_snoc.mpr ⟨0,Dfa.leads_nil,by decide,onward⟩
      exact ⟨[0xD7FF],leads⟩
  · intro s (sBound : s < 2) t (tBound : t < 2) same
    interval_cases s <;> interval_cases t
    · rfl
    · exact absurd same apart
    · exact absurd same.symm apart
    · rfl
  · exact fun s bound _ => ⟨[],accepting s bound⟩
  · intro j (bound : j < 2) positive
    interval_cases j
    exact ⟨0,0,by decide,rfl,by omega⟩
  · exact fun stepped => ⟨[],accepting _ (wellFormed.step?_lt stepped)⟩

theorem compile_trailing {settings : Settings} {file : String} {pattern : ByteArray} {p : Compiled}
    (compiled : compile settings file pattern = .ok p) (matched : p.expr.language = {[0xE000]}∗ * (1 + {[0xD7FF]}))
    (segments : p.dfa.segments = (trailing hi).segments) : p.dfa = trailing hi := by
  have finished := compile_finished compiled
  have same : p.dfa.language = (trailing hi).language := by
    ext w
    rw [Dfa.mem_language,compile_accepts compiled,matched,← trailing_language lower upper]
    exact and_iff_right_of_imp And.left
  exact (finished.canonical.agrees (trailing_canonical lower upper) same).eq finished.segmented segments finished.full
    (by simp [Dfa.Full,trailing])

end Trailing

-- A class that starts right after the surrogates changes how the range before them is shown, not what is matched.
theorem toDot_shows_surrogates : ∃ p q, compile {} "" "\\uE000*\\uD7FF?".toUTF8 = .ok p ∧
    compile {} "" "\\uE000*[\\uD7FF-\\uE000]?".toUTF8 = .ok q ∧ (∀ w, p.dfa.accepts w = q.dfa.accepts w) ∧
    p.dfa.toDot ≠ q.dfa.toDot := by
  have first : expression? {} "\\uE000*\\uD7FF?".toUTF8 =
      some (.concat [.repetition 0 none true (.literal [0xE000]),.repetition 0 (some 1) true (.literal [0xD7FF])]) := by
    cbv
  have second : expression? {} "\\uE000*[\\uD7FF-\\uE000]?".toUTF8 =
      some (.concat [.repetition 0 none true (.literal [0xE000]),
        .repetition 0 (some 1) true (.charClass (.ofRanges [⟨0xD7FF,0xE000⟩]))]) := by
    cbv
  obtain ⟨p,compiled,expr⟩ := exists_compiled 9 first (by decide) (by decide)
  obtain ⟨q,compiled',expr'⟩ := exists_compiled 9 second (by decide) (by decide)
  have matched : p.expr.language = {[0xE000]}∗ * (1 + {[0xD7FF]}) := by
    simp [expr,Expr.language,Expr.productLanguage,Core.repeated_of_unbounded,Core.repeated_of_bounded]
  have matched' : q.expr.language = {[0xE000]}∗ * (1 + {[0xD7FF]}) := by
    rw [← kstar_mul_optional]
    simp [expr',Expr.language,Expr.productLanguage,Core.repeated_of_unbounded,Core.repeated_of_bounded,across_language]
  have segments : p.dfa.segments = (trailing 0xD7FF).segments := compile_segments compiled (by rw [expr]; cbv)
  have segments' : q.dfa.segments = (trailing 0xDFFF).segments := compile_segments compiled' (by rw [expr']; cbv)
  refine ⟨p,q,compiled,compiled',accepts_eq_of_language_eq compiled compiled' (matched.trans matched'.symm),?_⟩
  have shown : (CharClass.ofRanges [⟨0xD7FF,0xD7FF⟩]).render = "[\\x\x7bD7FF\x7d]" := by cbv
  have shown' : (CharClass.ofRanges [⟨0xD7FF,0xDFFF⟩]).render = "[\\x\x7bD7FF\x7d-\\x\x7bDFFF\x7d]" := by cbv
  rw [compile_trailing (by decide) (by decide) compiled matched segments,
    compile_trailing (by decide) (by decide) compiled' matched' segments',trailing_toDot,trailing_toDot,Ne,
    Dot.graph_line_inj,Dot.arrow_label_inj,shown,shown']
  decide

end LexPattern
