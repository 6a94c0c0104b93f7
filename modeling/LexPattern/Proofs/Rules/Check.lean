import Mathlib
import LexPattern.Rules.Check
import LexPattern.Proofs.Compiler.Memory
import LexPattern.Proofs.Compiler.Overlap
import LexPattern.Proofs.Text.Quoted
import LexPattern.Proofs.Text.Utf8

namespace LexPattern

section Common

variable {settings settings' : Settings} {r r' : Request} {p q : Compiled} {input : ByteArray} {w : List CodePoint}

theorem Compiled.accepts_iff : p.accepts input = true ↔ inputCodes input ∈ p.dfa.language := by
  rw [Automaton.Dfa.mem_language,and_iff_right (inputCodes_scalar input)]
  rfl

theorem accepts_of_overlap? (compiled : uncached settings r = .ok p) (compiled' : uncached settings' r' = .ok q)
    (found : p.overlap? q = some w) :
    p.accepts (CodePoint.text w).toUTF8 = true ∧ q.accepts (CodePoint.text w).toUTF8 = true := by
  have first := overlap?_first compiled compiled'
  rw [found] at first
  obtain ⟨inP,inQ⟩ := first.1
  rw [Compiled.accepts_iff,Compiled.accepts_iff,inputCodes_text inP.1]
  exact ⟨inP,inQ⟩

theorem isSome_overlap?_iff (compiled : uncached settings r = .ok p) (compiled' : uncached settings' r' = .ok q) :
    (p.overlap? q).isSome = true ↔ ∃ input, p.accepts input = true ∧ q.accepts input = true := by
  constructor
  · intro found
    obtain ⟨w,found⟩ := Option.isSome_iff_exists.mp found
    exact ⟨_,accepts_of_overlap? compiled compiled' found⟩
  · intro ⟨input,byP,byQ⟩
    have first := overlap?_first compiled compiled'
    cases found : p.overlap? q with
    | some w => rfl
    | none =>
      rw [found] at first
      exact absurd ⟨Compiled.accepts_iff.mp byP,Compiled.accepts_iff.mp byQ⟩ (first (inputCodes input))

end Common

namespace Rules

section Pairs

variable {α β : Type} {xs : List Nat} {a b : Nat}

-- The pairs of what a list keeps are what its pairs keep.
theorem pairs_filterMap (f : α → Option β) (xs : List α) : pairs (xs.filterMap f) =
    (pairs xs).filterMap fun ab => (f ab.1).bind fun a => (f ab.2).map fun b => (a,b) := by
  induction xs with
  | nil => rfl
  | cons x xs ih =>
    cases kept : f x with
    | none => simp [pairs,kept,ih,List.filterMap_map]
    | some y => simp [pairs,kept,ih,List.filterMap_map,List.map_filterMap]

theorem mem_pairs (sorted : xs.Pairwise (· < ·)) : (a,b) ∈ pairs xs ↔ a ∈ xs ∧ b ∈ xs ∧ a < b := by
  induction xs with
  | nil => simp [pairs]
  | cons x xs ih =>
    obtain ⟨below,sorted⟩ := List.pairwise_cons.mp sorted
    simp only [pairs,List.mem_append,List.mem_map,Prod.mk.injEq,ih sorted,List.mem_cons]
    constructor
    · rintro (⟨_,member,rfl,rfl⟩ | ⟨inA,inB,less⟩)
      · exact ⟨.inl rfl,.inr member,below _ member⟩
      · exact ⟨.inr inA,.inr inB,less⟩
    · rintro ⟨rfl | inA,rfl | inB,less⟩
      · exact absurd less (Nat.lt_irrefl _)
      · exact .inl ⟨b,inB,rfl,rfl⟩
      · exact absurd (below a inA) (Nat.lt_asymm less)
      · exact .inr ⟨inA,inB,less⟩

theorem pairs_sorted (sorted : xs.Pairwise (· < ·)) : (pairs xs).Pairwise (Prod.Lex (· < ·) (· < ·)) := by
  induction xs with
  | nil => exact .nil
  | cons x xs ih =>
    obtain ⟨below,sorted⟩ := List.pairwise_cons.mp sorted
    refine List.pairwise_append.mpr ⟨?_,ih sorted,?_⟩
    · rw [List.pairwise_map]
      exact sorted.imp fun less => .right x less
    · intro one inOne other inOther
      obtain ⟨y,_,rfl⟩ := List.mem_map.mp inOne
      obtain ⟨inRest,_⟩ := (mem_pairs sorted).mp (show (other.1,other.2) ∈ pairs xs from inOther)
      exact .left y other.2 (below other.1 inRest)

-- What a list keeps stands for the items that it keeps.
theorem forall₂_filterMap (f : α → Option β) (xs : List α) :
    List.Forall₂ (fun x y => f x = some y) (xs.filter fun x => (f x).isSome) (xs.filterMap f) := by
  induction xs with
  | nil => exact .nil
  | cons x xs ih =>
    cases kept : f x with
    | none => simpa [kept] using ih
    | some y => simpa [kept] using ih

end Pairs

section Lines

theorem notMem_of_mem_splitOn {α : Type} [BEq α] [LawfulBEq α] {x : α} {xs part : List α} (member : part ∈ xs.splitOn x) :
    x ∉ part := by
  induction xs generalizing part with
  | nil =>
    rw [List.splitOn_nil,List.mem_singleton] at member
    rw [member]
    exact List.not_mem_nil
  | cons y ys ih =>
    rw [List.splitOn_cons_eq_if_modifyHead] at member
    split at member
    · rcases List.mem_cons.mp member with rfl | later
      · exact List.not_mem_nil
      · exact ih later
    · rename_i other
      cases parts : ys.splitOn x with
      | nil => exact absurd parts (List.splitOn_ne_nil x ys)
      | cons first rest =>
        rw [parts,List.modifyHead_cons] at member
        rw [parts] at ih
        rcases List.mem_cons.mp member with rfl | later
        · intro inFirst
          rcases List.mem_cons.mp inFirst with rfl | inside
          · exact other (beq_self_eq_true x)
          · exact ih List.mem_cons_self inside
        · exact ih (List.mem_cons_of_mem first later)

-- Lines can be read back exactly when none of them holds the end of a line.
theorem splitOn_lines {lines : List String} :
    (String.join (lines.map (· ++ "\n"))).toList.splitOn '\n' = lines.map String.toList ++ [[]] ↔
      ∀ line ∈ lines, '\n' ∉ line.toList := by
  constructor
  · intro split line member
    have isPart : line.toList ∈ (String.join (lines.map (· ++ "\n"))).toList.splitOn '\n' := by
      rw [split]
      exact List.mem_append_left _ (List.mem_map_of_mem member)
    exact notMem_of_mem_splitOn isPart
  · intro absent
    induction lines with
    | nil => rfl
    | cons line lines ih =>
      obtain ⟨first,others⟩ := List.forall_mem_cons.mp absent
      have shape : (String.join ((line :: lines).map (· ++ "\n"))).toList =
          line.toList ++ '\n' :: (String.join (lines.map (· ++ "\n"))).toList := by
        simp [String.toList_join]
      rw [shape,List.splitOn_append_cons_self_of_not_mem first,ih others]
      rfl

end Lines

section Findings

variable {c : Compiler} {settings : Settings} {rules : List Rule} {strict : Bool} {i j : Nat}

def result (settings : Settings) (rule : Rule) : CompileResult := uncached settings ⟨rule.name,rule.pattern⟩

def failure? (settings : Settings) (rule : Rule) : Option Finding :=
  match result settings rule with
  | .ok _ => none
  | .error error => some (.failure error)

def compiledAt? (settings : Settings) (rules : List Rule) (i : Nat) : Option (String × Compiled) :=
  rules[i]?.bind fun rule => (result settings rule).toOption.map fun p => (rule.name,p)

-- Both rules compile, and some input is matched by both.
def Overlapping (settings : Settings) (rules : List Rule) (i j : Nat) : Prop :=
  ∃ name p name' q, compiledAt? settings rules i = some (name,p) ∧ compiledAt? settings rules j = some (name',q) ∧
    ∃ input, p.accepts input = true ∧ q.accepts input = true

-- A place in a rule, behind the name of the rule if it has one.
def located (name : String) (pos : Text.Position) : String :=
  (if name = "" then "" else name ++ ":") ++ toString pos.line ++ ":" ++ toString pos.column

-- The text about a rule that does not compile holds its error: where in the rule it is, if it is at a place, and what is
-- wrong there.
inductive Fails (settings : Settings) (rule : Rule) : String → Prop where
  | malformed {fault : Surface.Fault} (failed : result settings rule = .error (.malformed rule.name fault)) :
    Fails settings rule (located rule.name fault.pos ++ ": " ++ fault.cause.message)
  | rejected {r : Core.Rejection} (failed : result settings rule = .error (.rejected rule.name r)) :
    Fails settings rule
      (located rule.name r.span.start ++ ": " ++ r.reason.severity.label ++ ": " ++ r.reason.message)
  | tooLarge {error : Automaton.TooLarge} (failed : result settings rule = .error (.tooLarge error)) :
    Fails settings rule
      ("automaton: state limit exceeded: " ++ error.stage.label ++ " has more than " ++ toString error.limit ++ " states")

-- A warning names two rules and a text that both match, and no other text is written like it.
def Warns (settings : Settings) (rules : List Rule) (places : Nat × Nat) (warning : String) : Prop :=
  ∃ name p name' q text, compiledAt? settings rules places.1 = some (name,p) ∧
    compiledAt? settings rules places.2 = some (name',q) ∧
    p.accepts (String.toUTF8 text) = true ∧ q.accepts (String.toUTF8 text) = true ∧
    warning = "warning: " ++ name ++ " and " ++ name' ++ " both match " ++ Text.quote text ∧
    ∀ other, Text.quote other = Text.quote text → other = text

-- What a report says about rules: failures in their order, then warnings for the overlapping pairs, also in order, each
-- with the end of a line behind it. The rules pass if there is nothing to say, or only warnings that do not matter.
structure Told (settings : Settings) (strict : Bool) (rules : List Rule) (report : Report) (failures warnings : List String)
    (places : List (Nat × Nat)) : Prop where
  failed : List.Forall₂ (Fails settings) (rules.filter fun rule => !(result settings rule).isOk) failures
  ordered : places.Pairwise (Prod.Lex (· < ·) (· < ·))
  complete : ∀ i j, (i,j) ∈ places ↔ i < j ∧ Overlapping settings rules i j
  warned : List.Forall₂ (Warns settings rules) places warnings
  output : report.output = String.join ((failures ++ warnings).map (· ++ "\n"))
  lines : report.output.toList.splitOn '\n' = (failures ++ warnings).map String.toList ++ [[]] ↔
    ∀ line ∈ failures ++ warnings, '\n' ∉ line.toList
  passed : report.objection = none ↔ (∀ rule ∈ rules, ∃ p, result settings rule = .ok p) ∧
    (strict = true → ∀ i j, i < j → ¬ Overlapping settings rules i j)
  message : report.objection.map Objection.message =
    if failures ≠ [] then
      some (toString failures.length ++ " of " ++ toString rules.length ++ " patterns failed to compile")
    else if strict = true ∧ warnings ≠ [] then some (toString warnings.length ++ " overlapping pattern pairs")
    else none

-- Every rule is tried as if the compiler remembered nothing.
theorem attempts_eq (faithful : c.Faithful) : (attempts c rules).1 = rules.map fun rule => (rule,result c.settings rule) := by
  induction rules generalizing c with
  | nil => rfl
  | cons rule rules ih =>
    have others := ih (Compiler.compile_faithful faithful ⟨rule.name,rule.pattern⟩)
    rw [Compiler.compile_settings] at others
    have first := Compiler.compile_answer faithful ⟨rule.name,rule.pattern⟩
    rw [List.map_cons,← others,result,← first]
    rfl

theorem filterMap_failure? : (rules.map fun rule => (rule,result settings rule)).filterMap Attempt.failure? =
    rules.filterMap (failure? settings) := by
  rw [List.filterMap_map]
  rfl

theorem isSome_failure? (rule : Rule) : (failure? settings rule).isSome = !(result settings rule).isOk := by
  unfold failure?
  cases result settings rule with
  | ok p => rfl
  | error error => rfl

theorem render_eq_located {name : String} {pos : Text.Position} : pos.render name = located name pos := by
  unfold Text.Position.render located
  by_cases nameless : name = ""
  · simp [nameless]
  · simp [nameless,String.append_assoc]

theorem failure?_fails {rule : Rule} {finding : Finding} (found : failure? settings rule = some finding) :
    Fails settings rule finding.line := by
  unfold failure? at found
  cases ended : result settings rule with
  | ok p =>
    rw [ended] at found
    cases found
  | error error =>
    rw [ended] at found
    cases found
    have origin := ended
    unfold result uncached compile at ended
    split at ended
    · cases ended
      have failed := Fails.malformed origin
      rwa [← render_eq_located] at failed
    · split at ended
      · cases ended
        have failed := Fails.rejected origin
        rwa [← render_eq_located] at failed
      · split at ended
        · cases ended
          exact .tooLarge origin
        · cases ended

theorem compiled?_eq (rule : Rule) : Attempt.compiled? (rule,result settings rule) =
    (result settings rule).toOption.map fun p => (rule.name,p) := by
  unfold Attempt.compiled?
  cases result settings rule with
  | error error => rfl
  | ok p => rfl

theorem filterMap_compiled? : (rules.map fun rule => (rule,result settings rule)).filterMap Attempt.compiled? =
    (List.range rules.length).filterMap (compiledAt? settings rules) := by
  have places : (List.range rules.length).map (rules[·]?) = rules.map some := by
    apply List.ext_getElem
    · simp
    · simp
  calc (rules.map fun rule => (rule,result settings rule)).filterMap Attempt.compiled?
      = (rules.map some).filterMap fun found => found.bind fun rule =>
          (result settings rule).toOption.map fun p => (rule.name,p) := by
        rw [List.filterMap_map,List.filterMap_map]
        exact List.filterMap_congr fun rule _ => compiled?_eq rule
    _ = (List.range rules.length).filterMap (compiledAt? settings rules) := by
        rw [← places,List.filterMap_map]
        rfl

def overlapAt? (settings : Settings) (rules : List Rule) (places : Nat × Nat) : Option Finding :=
  (compiledAt? settings rules places.1).bind fun one =>
    (compiledAt? settings rules places.2).bind fun other => overlap? (one,other)

theorem warnings_eq : (pairs ((rules.map fun rule => (rule,result settings rule)).filterMap
    Attempt.compiled?)).filterMap overlap? = (pairs (List.range rules.length)).filterMap (overlapAt? settings rules) := by
  rw [filterMap_compiled?,pairs_filterMap,List.filterMap_filterMap]
  refine List.filterMap_congr fun places _ => ?_
  simp only [overlapAt?,Option.bind_assoc,Option.bind_map]
  rfl

theorem compiledAt?_eq_some {name : String} {p : Compiled} (found : compiledAt? settings rules i = some (name,p)) :
    i < rules.length ∧ ∃ r, uncached settings r = .ok p := by
  obtain ⟨rule,place,compiled⟩ := Option.bind_eq_some_iff.mp found
  obtain ⟨q,isOk,same⟩ := Option.map_eq_some_iff.mp compiled
  cases same
  obtain ⟨inside,_⟩ := List.getElem?_eq_some_iff.mp place
  refine ⟨inside,⟨rule.name,rule.pattern⟩,?_⟩
  cases ended : result settings rule with
  | error error =>
    rw [ended] at isOk
    cases isOk
  | ok q =>
    rw [ended] at isOk
    cases isOk
    exact ended

theorem overlapAt?_warns {finding : Finding} {places : Nat × Nat} (found : overlapAt? settings rules places = some finding) :
    Warns settings rules places finding.line := by
  obtain ⟨⟨name,p⟩,one,found⟩ := Option.bind_eq_some_iff.mp found
  obtain ⟨⟨name',q⟩,other,found⟩ := Option.bind_eq_some_iff.mp found
  obtain ⟨w,common,same⟩ := Option.map_eq_some_iff.mp found
  obtain ⟨_,r,compiled⟩ := compiledAt?_eq_some one
  obtain ⟨_,r',compiled'⟩ := compiledAt?_eq_some other
  obtain ⟨byP,byQ⟩ := accepts_of_overlap? compiled compiled' common
  cases same
  exact ⟨name,p,name',q,CodePoint.text w,one,other,byP,byQ,rfl,fun _ same => Text.quote_injective same⟩

theorem isSome_overlapAt?_iff : (overlapAt? settings rules (i,j)).isSome = true ↔ Overlapping settings rules i j := by
  constructor
  · intro found
    obtain ⟨finding,found⟩ := Option.isSome_iff_exists.mp found
    obtain ⟨name,p,name',q,text,one,other,byP,byQ,_⟩ := overlapAt?_warns found
    exact ⟨name,p,name',q,one,other,_,byP,byQ⟩
  · intro ⟨name,p,name',q,one,other,common⟩
    obtain ⟨_,r,compiled⟩ := compiledAt?_eq_some one
    obtain ⟨_,r',compiled'⟩ := compiledAt?_eq_some other
    have found := (isSome_overlap?_iff compiled compiled').mpr common
    simpa [overlapAt?,one,other,overlap?] using found

theorem mem_places : (i,j) ∈ (pairs (List.range rules.length)).filter (fun places => (overlapAt? settings rules places).isSome) ↔
    i < j ∧ Overlapping settings rules i j := by
  rw [List.mem_filter,mem_pairs List.pairwise_lt_range,isSome_overlapAt?_iff,List.mem_range,List.mem_range]
  constructor
  · intro ⟨⟨_,_,less⟩,overlapping⟩
    exact ⟨less,overlapping⟩
  · intro ⟨less,overlapping⟩
    have ⟨_,_,_,_,one,other,_⟩ := overlapping
    exact ⟨⟨(compiledAt?_eq_some one).1,(compiledAt?_eq_some other).1,less⟩,overlapping⟩

theorem failures_eq_nil_iff : rules.filterMap (failure? settings) = [] ↔ ∀ rule ∈ rules, ∃ p, result settings rule = .ok p := by
  rw [List.filterMap_eq_nil_iff]
  refine forall₂_congr fun rule _ => ?_
  unfold failure?
  cases result settings rule with
  | error error => simp
  | ok p => simp

theorem warnings_eq_nil_iff : (pairs (List.range rules.length)).filterMap (overlapAt? settings rules) = [] ↔
    ∀ i j, i < j → ¬ Overlapping settings rules i j := by
  rw [List.filterMap_eq_nil_iff]
  constructor
  · intro none i j less overlapping
    obtain ⟨member,found⟩ := List.mem_filter.mp (mem_places.mpr ⟨less,overlapping⟩)
    simp [none _ member] at found
  · intro disjoint places member
    by_contra found
    obtain ⟨less,overlapping⟩ := mem_places.mp (List.mem_filter.mpr ⟨member,Option.isSome_iff_ne_none.mpr found⟩)
    exact disjoint _ _ less overlapping

theorem objection?_length (strict : Bool) (total : Nat) (failures warnings : List Finding) :
    objection? strict total failures.length warnings.length =
      if failures ≠ [] then some (.failures failures.length total)
      else if strict = true ∧ warnings ≠ [] then some (.overlaps warnings.length)
      else none := by
  simp only [objection?,List.length_pos_iff]

theorem check_findings (faithful : c.Faithful) : (check c strict rules).findings =
    rules.filterMap (failure? c.settings) ++
      (pairs (List.range rules.length)).filterMap (overlapAt? c.settings rules) := by
  have findings : (check c strict rules).findings = (attempts c rules).1.filterMap Attempt.failure? ++
    (pairs ((attempts c rules).1.filterMap Attempt.compiled?)).filterMap overlap? := rfl
  rw [findings,attempts_eq faithful,filterMap_failure?,warnings_eq]

theorem check_objection (faithful : c.Faithful) : (check c strict rules).objection =
    objection? strict rules.length (rules.filterMap (failure? c.settings)).length
      ((pairs (List.range rules.length)).filterMap (overlapAt? c.settings rules)).length := by
  have objection : (check c strict rules).objection = objection? strict rules.length
    ((attempts c rules).1.filterMap Attempt.failure?).length
    ((pairs ((attempts c rules).1.filterMap Attempt.compiled?)).filterMap overlap?).length := rfl
  rw [objection,attempts_eq faithful,filterMap_failure?,warnings_eq]

theorem check_output (faithful : c.Faithful) : (check c strict rules).output =
    String.join (((rules.filterMap (failure? c.settings)).map Finding.line ++
      ((pairs (List.range rules.length)).filterMap (overlapAt? c.settings rules)).map Finding.line).map (· ++ "\n")) := by
  rw [Report.output,check_findings faithful,← List.map_append,List.map_map]
  rfl

theorem check_told (faithful : c.Faithful) : Told c.settings strict rules (check c strict rules)
    ((rules.filterMap (failure? c.settings)).map Finding.line)
    (((pairs (List.range rules.length)).filterMap (overlapAt? c.settings rules)).map Finding.line)
    ((pairs (List.range rules.length)).filter fun places => (overlapAt? c.settings rules places).isSome) where
  failed := by
    have failing : (rules.filter fun rule => !(result c.settings rule).isOk) =
        rules.filter fun rule => (failure? c.settings rule).isSome :=
      List.filter_congr fun rule _ => (isSome_failure? rule).symm
    rw [failing,List.forall₂_map_right_iff]
    exact (forall₂_filterMap (failure? c.settings) rules).imp fun _ _ found => failure?_fails found
  ordered := (pairs_sorted List.pairwise_lt_range).filter _
  complete i j := mem_places
  warned := by
    rw [List.forall₂_map_right_iff]
    exact (forall₂_filterMap (overlapAt? c.settings rules) _).imp fun _ _ found => overlapAt?_warns found
  output := check_output faithful
  lines := by rw [check_output faithful,splitOn_lines]
  passed := by
    rw [check_objection faithful,objection?_length,← failures_eq_nil_iff,← warnings_eq_nil_iff]
    split
    · rename_i failing
      exact ⟨nofun,fun passed => absurd passed.1 failing⟩
    · rename_i compiling
      split
      · rename_i overlapping
        exact ⟨nofun,fun passed => absurd (passed.2 overlapping.1) overlapping.2⟩
      · rename_i disjoint
        exact ⟨fun _ => ⟨not_not.mp compiling,fun isStrict => not_not.mp fun some => disjoint ⟨isStrict,some⟩⟩,fun _ => rfl⟩
  message := by
    rw [check_objection faithful,objection?_length]
    simp only [ne_eq,List.map_eq_nil_iff,List.length_map]
    split
    · rfl
    · split
      · rfl
      · rfl

-- A check tells exactly what is to be told, whatever the compiler was asked before.
theorem check_tells (settings : Settings) (size : Int) (earlier : List Request) (strict : Bool) (rules : List Rule) :
    ∃ failures warnings places,
      Told settings strict rules (check ((Compiler.new settings size).after earlier) strict rules) failures warnings places := by
  have faithful : ((Compiler.new settings size).after earlier).Faithful :=
    Compiler.after_faithful (Compiler.new_faithful settings size)
  have same : ((Compiler.new settings size).after earlier).settings = settings := Compiler.after_settings
  have told : Told _ strict rules (check ((Compiler.new settings size).after earlier) strict rules) _ _ _ :=
    check_told faithful
  rw [same] at told
  exact ⟨_,_,_,told⟩

-- The name of a rule is written as it is, so the one error of a rule can take two lines.
theorem check_writes_two_lines :
    (check (.new {} 0) false [⟨"a\nb",")".toUTF8⟩]).output = "a\nb:1:1: unmatched )\n" ∧
      (check (.new {} 0) false [⟨"a\nb",")".toUTF8⟩]).output.toList.splitOn '\n' =
        ["a".toList,"b:1:1: unmatched )".toList,[]] := by
  have malformed : Surface.parse 0 ")".toUTF8 = .error ⟨.start,.unmatchedClose⟩ := by cbv
  have failed : failure? {} ⟨"a\nb",")".toUTF8⟩ = some (.failure (.malformed "a\nb" ⟨.start,.unmatchedClose⟩)) := by
    simp only [failure?,result,uncached,compile,malformed]
  have written : (check (.new {} 0) false [⟨"a\nb",")".toUTF8⟩]).output = "a\nb:1:1: unmatched )\n" := by
    rw [check_output (Compiler.new_faithful {} 0)]
    change String.join (((List.filterMap (failure? {}) [⟨"a\nb",")".toUTF8⟩]).map Finding.line ++ []).map (· ++ "\n")) = _
    rw [List.filterMap_cons_some failed]
    rfl
  refine ⟨written,?_⟩
  rw [written]
  rfl

end Findings

end Rules

end LexPattern
