import Mathlib
import LexPattern.Proofs.Automaton.Labels
import LexPattern.Proofs.Core.Readable

namespace LexPattern.Automaton

open Text (Delimited append_stop_inj)

-- What a line of a drawing says.
inductive Line where
  | state (s : Nat) (accept : Bool)
  | arrow (source target : Nat) (label : CharClass)
deriving DecidableEq, Repr

namespace Line

def text : Line → String
  | state s accept => Dot.node "q" s accept
  | arrow source target label => Dot.arrow "q" source target label.render

def draw (start : Nat) (lines : List Line) : String := Dot.graph "q" start (lines.map text)

def labelBetween (s t : Nat) : Line → Option CharClass
  | state _ _ => none
  | arrow source target label => if source = s ∧ target = t then some label else none

def labelsBetween (lines : List Line) (s t : Nat) : List CharClass := lines.filterMap (labelBetween s t)

end Line

section Reading

variable {rest rest' : List Char} {m n : Nat}

theorem number_readable {stop : Char} (other : stop.isDigit = false ∧ stop ≠ '-')
    (same : (toString m).toList ++ stop :: rest = (toString n).toList ++ stop :: rest') : m = n ∧ rest = rest' := by
  obtain ⟨numbers,rests⟩ := Core.Expr.toString_readable (m := (m : Int)) (n := (n : Int)) other same
  exact ⟨Int.ofNat.inj numbers,rests⟩

def labelChar (c : Char) : List Char := if c = '\\' ∨ c = '"' then ['\\',c] else [c]

theorem toList_quoteLabel (label : String) :
    (Dot.quoteLabel label).toList ++ rest = '"' :: (label.toList.flatMap labelChar ++ '"' :: rest) := by
  simp only [Dot.quoteLabel,String.toList_append,String.toList_ofList,List.append_assoc]
  rfl

theorem labelChar_delimited : Delimited labelChar fun _ => True := by
  intro c d rest rest' _ _ same
  unfold labelChar at same
  split at same
  · split at same
    · cases same
      exact ⟨rfl,rfl⟩
    · rename_i plain
      cases same
      exact absurd (.inl rfl) plain
  · rename_i plain
    split at same
    · cases same
      exact absurd (.inl rfl) plain
    · cases same
      exact ⟨rfl,rfl⟩

theorem head?_labelChar_ne (c : Char) (rest : List Char) : (labelChar c ++ rest).head? ≠ some '"' := by
  unfold labelChar
  split
  · simp
  · rename_i plain
    intro same
    exact plain (.inr (Option.some.inj same))

theorem quoteLabel_delimited : Delimited (fun label => (Dot.quoteLabel label).toList) fun _ => True := by
  intro label label' rest rest' _ _ same
  dsimp only at same
  rw [toList_quoteLabel,toList_quoteLabel] at same
  obtain ⟨chars,rests⟩ := labelChar_delimited.flatMap head?_labelChar_ne (fun _ _ => trivial) (fun _ => trivial)
    (List.cons.inj same).2
  exact ⟨String.toList_injective chars,rests⟩

namespace Line

def source : Line → Nat
  | state s _ => s
  | arrow source _ _ => source

def ending : Line → List Char
  | state _ accept => "[shape=".toList ++ ((if accept then "doublecircle" else "circle").toList ++ "];\n".toList)
  | arrow _ target label => "-> q".toList ++ ((toString target).toList ++ ' ' ::
      ("[label=".toList ++ ((Dot.quoteLabel label.render).toList ++ "];\n".toList)))

theorem toList_text (line : Line) : line.text.toList = "    q".toList ++ ((toString line.source).toList ++ ' ' :: line.ending) := by
  cases line with
  | state s accept =>
    change (Dot.node "q" s accept).toList = _
    unfold Dot.node
    dsimp only
    simp only [String.toList_append,List.append_assoc]
    rfl
  | arrow s t label =>
    change (Dot.arrow "q" s t label.render).toList = _
    unfold Dot.arrow
    simp only [String.toList_append,List.append_assoc]
    rfl

theorem state_readable {s : Nat} {accept accept' : Bool}
    (same : (state s accept).ending ++ rest = (state s accept').ending ++ rest') : accept = accept' ∧ rest = rest' := by
  unfold ending at same
  simp only [List.append_assoc,List.append_cancel_left_eq] at same
  cases accept
  all_goals
    cases accept'
    all_goals
      cases same
  · exact ⟨rfl,rfl⟩
  · exact ⟨rfl,rfl⟩

theorem arrow_readable {s t t' : Nat} {label label' : CharClass}
    (same : (arrow s t label).ending ++ rest = (arrow s t' label').ending ++ rest') :
    t = t' ∧ label = label' ∧ rest = rest' := by
  unfold ending at same
  simp only [List.append_assoc,List.cons_append,List.append_cancel_left_eq] at same
  obtain ⟨rfl,labels⟩ := number_readable (by decide) same
  obtain ⟨texts,rests⟩ := quoteLabel_delimited trivial trivial (List.append_cancel_left labels)
  obtain ⟨rfl,_⟩ : label = label' ∧ [] = [] := CharClass.render_readable (by rw [texts])
  exact ⟨rfl,rfl,List.append_cancel_left rests⟩

theorem text_delimited : Delimited (fun line : Line => line.text.toList) fun _ => True := by
  intro line line' rest rest' _ _ same
  dsimp only at same
  rw [toList_text,toList_text] at same
  simp only [List.append_assoc,List.append_cancel_left_eq] at same
  obtain ⟨source,endings⟩ := number_readable (by decide) same
  cases line with
  | state s accept =>
    cases line' with
    | state s' accept' =>
      cases source
      obtain ⟨rfl,rests⟩ := state_readable endings
      exact ⟨rfl,rests⟩
    | arrow s' t' label' => cases (congrArg List.head? endings : some '[' = some '-')
  | arrow s t label =>
    cases line' with
    | state s' accept' => cases (congrArg List.head? endings : some '-' = some '[')
    | arrow s' t' label' =>
      cases source
      obtain ⟨rfl,rfl,rests⟩ := arrow_readable endings
      exact ⟨rfl,rests⟩

theorem text_ne_start (line : Line) (rest rest' : List Char) : line.text.toList ++ rest ≠ "    _".toList ++ rest' := by
  rw [toList_text]
  intro same
  cases same

theorem toList_draw (start : Nat) (lines : List Line) : (draw start lines).toList =
    "digraph G \x7b\n    rankdir=LR;\n".toList ++ (lines.flatMap (fun line => line.text.toList) ++ ("    _".toList ++
      ("start [shape=point]; _start -> q".toList ++ ((toString start).toList ++ ';' :: "\n\x7d\n".toList)))) := by
  unfold draw Dot.graph
  simp only [String.toList_append,List.append_assoc,String.toList_join,List.flatMap_map]
  rfl

-- A drawing says one thing only.
theorem draw_inj {start start' : Nat} {lines lines' : List Line} (same : draw start lines = draw start' lines') :
    start = start' ∧ lines = lines' := by
  have texts := congrArg String.toList same
  rw [toList_draw,toList_draw,List.append_cancel_left_eq] at texts
  obtain ⟨rfl,rests⟩ := text_delimited.flatMap_until text_ne_start (fun _ _ => trivial) (fun _ => trivial) texts
  obtain ⟨rfl,_⟩ := number_readable (by decide) (List.append_cancel_left rests)
  exact ⟨rfl,rfl⟩

end Line

end Reading
end LexPattern.Automaton

namespace LexPattern.Automaton

section Arrows

variable {α β : Type} {i s t : Nat}

theorem flatMap_zipIdx {make : α × Nat → List β} (first s : Nat) (others : ∀ a i, i ≠ first + s → make (a,i) = [])
    (as : List α) : (as.zipIdx first).flatMap make = (as[s]?.map fun a => make (a,first + s)).getD [] := by
  induction as generalizing first s with
  | nil => rfl
  | cons a as ih =>
    rw [List.zipIdx_cons,List.flatMap_cons]
    cases s with
    | zero =>
      have later : (as.zipIdx (first + 1)).flatMap make = [] := by
        refine List.flatMap_eq_nil_iff.mpr fun ⟨b,i⟩ member => others b i ?_
        have bound := (List.mem_zipIdx member).1
        omega
      rw [later,List.append_nil]
      rfl
    | succ s =>
      have same : first + (s + 1) = first + 1 + s := by omega
      rw [same] at others ⊢
      rw [others a first (by omega),List.nil_append,ih (first + 1) s others]
      rfl

theorem filterMap_arrows (label : Nat → CharClass) {targets : List Nat} (distinct : targets.Nodup) :
    (targets.map fun target => Line.arrow i target (label target)).filterMap (Line.labelBetween s t) =
      if i = s ∧ t ∈ targets then [label t] else [] := by
  induction targets with
  | nil => simp
  | cons target targets ih =>
    obtain ⟨fresh,distinct⟩ := List.nodup_cons.mp distinct
    rw [List.map_cons,List.filterMap_cons,ih distinct]
    by_cases here : i = s
    · by_cases same : target = t
      · subst same
        simp [Line.labelBetween,here,fresh]
      · have other : ¬ t = target := fun equal => same equal.symm
        simp [Line.labelBetween,here,same,other]
    · simp [Line.labelBetween,here]

end Arrows

def DfaState.drawn (state : DfaState) (segments : Array Segment) (i : Nat) : List Line :=
  .state i state.accept :: state.targets.map fun target => .arrow i target (state.labelTo segments target)

theorem DfaState.filterMap_drawn (state : DfaState) (segments : Array Segment) (i s t : Nat) :
    (state.drawn segments i).filterMap (Line.labelBetween s t) =
      if i = s ∧ t ∈ state.targets then [state.labelTo segments t] else [] := by
  have distinct : state.targets.Nodup := (sorted_distinct_pairwise _).imp fun less => Nat.ne_of_lt less
  exact filterMap_arrows (state.labelTo segments) distinct

namespace Dfa

def drawn (d : Dfa) : List Line := d.states.toList.zipIdx.flatMap fun (state,i) => state.drawn d.segments i

variable {d : Dfa} {s t c : Nat} {state : DfaState}

theorem toDot_eq_draw : d.toDot = Line.draw d.start d.drawn := by
  unfold toDot Line.draw drawn
  dsimp only
  rw [List.map_flatMap]
  simp only [DfaState.drawn,List.map_cons,List.map_map,Line.text]
  rfl

theorem labelsBetween_drawn (s t : Nat) : Line.labelsBetween d.drawn s t =
    (d.states[s]?.map fun state => if t ∈ state.targets then [state.labelTo d.segments t] else []).getD [] := by
  unfold Line.labelsBetween drawn
  rw [List.filterMap_flatMap]
  simp only [DfaState.filterMap_drawn]
  rw [flatMap_zipIdx 0 s (fun state i other => if_neg fun both => other (by omega)),Nat.zero_add,Array.getElem?_toList]
  simp only [true_and]

theorem labelsBetween_of_leads (leads : d.target? s c = some t) :
    ∃ state, d.states[s]? = some state ∧ Line.labelsBetween d.drawn s t = [state.labelTo d.segments t] := by
  have atS := Array.getElem?_eq_getElem (source_lt leads)
  refine ⟨_,atS,?_⟩
  rw [labelsBetween_drawn,atS,Option.map_some,Option.getD_some,if_pos ((mem_targets_iff atS).mpr ⟨c,leads⟩)]

theorem labelsBetween_of_apart (apart : ¬ ∃ c, d.target? s c = some t) : Line.labelsBetween d.drawn s t = [] := by
  rw [labelsBetween_drawn]
  cases atS : d.states[s]? with
  | none => rfl
  | some state => exact if_neg fun target => apart ((mem_targets_iff atS).mp target)

theorem label_contains (wellFormed : d.WellFormed) {label : CharClass} (drawn : label ∈ Line.labelsBetween d.drawn s t)
    (x : CodePoint) : label.contains x = true ↔ d.step? s x = some t := by
  by_cases leads : ∃ c, d.target? s c = some t
  · obtain ⟨c,leads⟩ := leads
    obtain ⟨state,atS,labels⟩ := labelsBetween_of_leads leads
    rw [labels] at drawn
    cases List.mem_singleton.mp drawn
    by_cases scalar : x.isScalar = true
    · exact labelTo_contains wellFormed.segmented atS scalar
    · -- What is no scalar is in no class, and no state reads it.
      simp [CharClass.contains,step?,segmentIndex?,scalar]
  · rw [labelsBetween_of_apart leads] at drawn
    cases drawn

-- The text of a drawing can be read in one way. Between two states it has one arrow if some segment leads from the one to
-- the other and none otherwise. The label of an arrow holds the characters that lead there and no others, so that no two
-- arrows from one state have a character in common.
theorem toDot_describes (d : Dfa) (wellFormed : d.WellFormed) : ∃ lines, d.toDot = Line.draw d.start lines ∧
    (∀ start others, d.toDot = Line.draw start others → start = d.start ∧ others = lines) ∧
    (∀ s t, (∃ c, d.target? s c = some t) → ∃ label, Line.labelsBetween lines s t = [label]) ∧
    (∀ s t, (¬ ∃ c, d.target? s c = some t) → Line.labelsBetween lines s t = []) ∧
    (∀ s t label, label ∈ Line.labelsBetween lines s t →
      ∀ x : CodePoint, label.contains x = true ↔ d.step? s x = some t) ∧
    ∀ s t t' label label', t ≠ t' → label ∈ Line.labelsBetween lines s t → label' ∈ Line.labelsBetween lines s t' →
      ∀ x : CodePoint, ¬ (label.contains x = true ∧ label'.contains x = true) := by
  have contains : ∀ s t label, label ∈ Line.labelsBetween d.drawn s t →
      ∀ x : CodePoint, label.contains x = true ↔ d.step? s x = some t := fun s t label drawn =>
    label_contains wellFormed drawn
  refine ⟨d.drawn,toDot_eq_draw,?_,?_,fun s t => labelsBetween_of_apart,contains,?_⟩
  · intro start others same
    rw [toDot_eq_draw] at same
    obtain ⟨start,lines⟩ := Line.draw_inj same
    exact ⟨start.symm,lines.symm⟩
  · rintro s t ⟨c,leads⟩
    obtain ⟨state,_,labels⟩ := labelsBetween_of_leads leads
    exact ⟨_,labels⟩
  · rintro s t t' label label' different drawn drawn' x ⟨inside,inside'⟩
    have leads := (contains s t label drawn x).mp inside
    have leads' := (contains s t' label' drawn' x).mp inside'
    exact different (Option.some.inj (leads.symm.trans leads'))

-- Segments for one target on both sides of one for the other, and around the surrogates.
def interleaved : Dfa where
  segments := #[⟨0x61,0x61⟩,⟨0x62,0x62⟩,⟨0x63,0xD900⟩,⟨0xE000,0x10FFFF⟩]
  start := 0
  states := #[⟨false,#[some 1,some 0,some 1,some 1]⟩,⟨true,#[none,some 0,none,none]⟩]

theorem toDot_describes_interleaved : interleaved.WellFormed ∧ ∃ lines, interleaved.toDot = Line.draw 0 lines ∧
    (∃ label, Line.labelsBetween lines 0 1 = [label] ∧ label.contains 0x61 = true ∧ ¬ label.contains 0x62 = true ∧
      label.contains 0xE000 = true) ∧ Line.labelsBetween lines 1 1 = [] := by
  have wellFormed : interleaved.WellFormed := .of_states (by decide) (by decide) (by decide) (by decide) (by decide)
  obtain ⟨lines,text,_,one,none,contains,_⟩ := toDot_describes interleaved wellFormed
  obtain ⟨label,drawn⟩ := one 0 1 ⟨0,rfl⟩
  have holds := contains 0 1 label (by rw [drawn]; exact List.mem_singleton_self label)
  have apart : ¬ ∃ c, interleaved.target? 1 c = some 1 := by
    rintro ⟨c,leads⟩
    match c with
    | 0 | 1 | 2 | 3 => cases leads
    | _ + 4 => cases leads
  have before : interleaved.step? 0 0x61 = some 1 := by cbv
  have middle : interleaved.step? 0 0x62 = some 0 := by cbv
  have behind : interleaved.step? 0 0xE000 = some 1 := by cbv
  exact ⟨wellFormed,lines,text,⟨label,drawn,(holds _).mpr before,by simp [holds,middle],(holds _).mpr behind⟩,
    none 1 1 apart⟩

end Dfa

end LexPattern.Automaton
