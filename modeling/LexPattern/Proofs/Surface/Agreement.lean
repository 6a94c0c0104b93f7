import Mathlib
import LexPattern.Proofs.Surface.Tracking

namespace LexPattern.Surface.Descent

open Text (Position Span)
open Token (Kind Scanned depthAfter modeAt moded)
open Source

variable {result : Except Fault Node} {src : Source} {c : Cursor} {brackets : Nat} {t opening : Token}
  {ts : List Token} {d : Draft} {frames : List Frame} {n : Node}

def Begins (may : Kind → Prop) (ts : List Token) : Prop := ∀ t ∈ ts.head?, may t.kind

theorem begins_nil {may : Kind → Prop} : Begins may [] := fun _ none => nomatch none

theorem begins_cons {may : Kind → Prop} : Begins may (t :: ts) ↔ may t.kind := by
  simp [Begins]

-- The descent reads an expression as the builder does.
def ExpressionRead (result : Except Fault Node) (src : Source) (ts : List Token) : Prop :=
  ∀ {c : Cursor} {frames : List Frame},
    Reads result src c 0 ts (.new (firstPos src.eof ts)) frames .expression →
    Leads result (expression src) c fun n c' => ∃ us d, us.length ≤ ts.length ∧ Begins (· = .groupClose) us ∧
      d.finish c'.stop = n ∧ Reads result src c' 0 us d frames .expression

theorem Reads.moves {d' : Draft} {frames' : List Frame} {focus : Focus}
    (reads : Reads result src c 0 (t :: ts) d frames .expression) (kept : depthAfter 0 t.kind = 0)
    (stepped : Builder.stepExpression src.limit ⟨c.stop,d,frames,.expression⟩ t (firstPos src.eof ts) =
      .ok ⟨c.stop,d',frames',focus⟩)
    (depth : c.depth = frames'.length + focus.depth) : Reads result src (c.past t) 0 ts d' frames' focus := by
  have step : Builder.step src.limit ⟨c.stop,d,frames,.expression⟩ t ts src.eof = .ok ⟨t.stop,d',frames',focus⟩ := by
    rw [Builder.step_expression,stepped]
    rfl
  have further := reads.step step depth
  rwa [kept] at further

theorem Reads.rejects {f : Fault} (reads : Reads result src c 0 (t :: ts) d frames .expression)
    (stepped : Builder.stepExpression src.limit ⟨c.stop,d,frames,.expression⟩ t (firstPos src.eof ts) = .error f) :
    result = .error f := by
  refine reads.fails ?_
  rw [Builder.step_expression,stepped]
  rfl

section Parentheses

variable {enclosure : Enclosure}

theorem Reads.ends {inner : Draft} (reads : Reads result src c 0 (t :: ts) inner (⟨opening,enclosure,d⟩ :: frames) .expression)
    (kind : t.kind = .groupClose) : Reads result src {c.past t with depth := (c.past t).depth - 1} 0 ts
      (d.push (enclosure.close ⟨opening.pos,t.stop⟩ (inner.finish c.stop))) frames .expression := by
  have here := reads.here.past
  rw [kind] at here
  refine ⟨here.at_depth _,?_,?_⟩
  · rw [reads.run,Builder.run,Builder.step_expression]
    simp only [Builder.stepExpression,kind]
    rfl
  · have depth : c.depth = frames.length + 1 := reads.depth
    simp [Cursor.past,depth,Focus.depth]

theorem enclosed_leads (inner : ExpressionRead result src ts)
    (reads : Reads result src c 0 ts (.new (firstPos src.eof ts)) (⟨opening,enclosure,d⟩ :: frames) .expression) :
    Leads result (enclosed src opening) c fun found c' => ∃ us, us.length < ts.length ∧ found.1.start = opening.pos ∧
      Reads result src c' 0 us (d.push (enclosure.close found.1 found.2)) frames .expression := by
  rw [enclosed]
  refine .bind (inner reads) ?_
  rintro child c₁ ⟨us,draft,shorter,ends,rfl,further⟩
  cases us with
  | nil =>
    have ran : expectClose src opening c₁ = some (.error (.fault ⟨opening.pos,.missingParenthesis opening.lexeme⟩)) := by
      rw [expectClose,bind_ok (peek_nil further.here)]
      rfl
    exact .stop (bind_error ran) further.run fun _ => Cause.noConfusion
  | cons close us =>
    have kind : close.kind = .groupClose := begins_cons.mp ends
    have ran : expectClose src opening c₁ = some (.ok ((),c₁.past close)) := by
      rw [expectClose,bind_ok (peek_cons further.here)]
      simp only [kindOf,Option.map,inside_token,kind]
      rw [bind_ok (next_cons further.here)]
      rfl
    exact .run ran (.run rfl (.run rfl (.pure ⟨us,shorter,rfl,further.ends kind⟩)))

-- A group, whatever kind the builder makes of it.
theorem group_leads {kind kind' : GroupKind} (inner : ExpressionRead result src ts) (read : checkedGroupKind t = .ok kind)
    (full : src.limit < c.depth + 1 → result = .error ⟨t.pos,.tooDeep src.limit⟩)
    (room : c.depth + 1 ≤ src.limit → Reads result src {c with depth := c.depth + 1} 0 ts (.new (firstPos src.eof ts))
      (⟨t,.group kind',d⟩ :: frames) .expression) :
    Leads result (group src t) c fun n c' => ∃ us span child, n = .group span kind child ∧ us.length < ts.length ∧
      span.start = t.pos ∧ Reads result src c' 0 us (d.push (.group span kind' child)) frames .expression := by
  rw [group]
  refine .enter full fun enough => ?_
  have ran : checked (checkedGroupKind t) {c with depth := c.depth + 1} = some (.ok (kind,{c with depth := c.depth + 1})) := by
    rw [read]
    rfl
  refine .run ran (.bind (enclosed_leads inner (room enough)) ?_)
  rintro ⟨span,child⟩ c' ⟨us,shorter,start,further⟩
  exact .pure ⟨us,span,child,rfl,shorter,start,further⟩

theorem depth_of_groupClose (lexed : Token.Lexed (modeAt brackets) t) (kind : t.kind = .groupClose) : brackets = 0 := by
  have never : Kind.groupClose ∉ Token.Mode.brackets.rules.map Token.Rule.kind := by decide
  by_contra positive
  have mode : modeAt brackets = .brackets := Token.modeAt_eq_brackets.mpr (Nat.pos_of_ne_zero positive)
  have member := lexed.kind
  rw [mode,kind] at member
  exact never member

-- The tokens of a condition may be in brackets, but the parenthesis that ends it is read outside them.
theorem condition_leads {text : List Char} (reads : Reads result src c brackets ts d frames (.condition opening text)) :
    Leads result (condition src opening text) c fun text' c' => ∃ us, us.length < ts.length ∧
      Reads result src c' 0 us (.new (firstPos src.eof us)) (⟨opening,.conditional (String.ofList text'),d⟩ :: frames)
        .expression := by
  induction ts generalizing c brackets text with
  | nil =>
    rw [condition]
    exact .run (advance_nil reads.here) (.stop rfl reads.run fun _ => Cause.noConfusion)
  | cons t ts ih =>
    rw [condition]
    refine .run (advance_cons reads.here) ?_
    dsimp only
    split
    · rename_i kind
      rw [inside_token] at kind
      obtain rfl : brackets = 0 := depth_of_groupClose reads.here.lexed kind
      have stepped : Builder.step src.limit ⟨c.stop,d,frames,.condition opening text⟩ t ts src.eof =
          .ok ⟨t.stop,.new (firstPos src.eof ts),⟨opening,.conditional (String.ofList text),d⟩ :: frames,.expression⟩ := by
        rw [Builder.step_condition,Builder.stepCondition,if_pos kind]
        rfl
      have further := reads.step stepped reads.depth
      rw [kind] at further
      exact .run agree_inside (.pure ⟨ts,Nat.lt_succ_self _,further⟩)
    · rename_i kind
      rw [inside_token] at kind
      have stepped : Builder.step src.limit ⟨c.stop,d,frames,.condition opening text⟩ t ts src.eof =
          .ok ⟨t.stop,d,frames,.condition opening (text ++ t.lexeme)⟩ := by
        rw [Builder.step_condition,Builder.stepCondition,if_neg kind]
      refine .run (passOver_eq reads.here.past _) (.imp (ih (reads.step stepped reads.depth)) ?_)
      rintro text' c' ⟨us,shorter,further⟩
      exact ⟨us,shorter.trans (Nat.lt_succ_self _),further⟩

theorem conditional_leads (inner : ∀ us : List Token, us.length < ts.length → ExpressionRead result src us)
    (full : src.limit < c.depth + 1 → result = .error ⟨t.pos,.tooDeep src.limit⟩)
    (room : c.depth + 1 ≤ src.limit → Reads result src {c with depth := c.depth + 1} 0 ts d frames (.condition t [])) :
    Leads result (conditional src t) c fun n c' => ∃ us, us.length < ts.length ∧ n.span.start = t.pos ∧
      Reads result src c' 0 us (d.push n) frames .expression := by
  rw [conditional]
  refine .enter full fun enough => .bind (condition_leads (room enough)) ?_
  rintro text c₁ ⟨us,shorter,further⟩
  refine .bind (enclosed_leads (inner us shorter) further) ?_
  rintro ⟨span,child⟩ c' ⟨vs,smaller,start,last⟩
  exact .pure ⟨vs,smaller.trans shorter,start,last⟩

end Parentheses

section Units

theorem single_atom (atomic : t.kind ∈ atomKinds) : single t = (do return .atom (← atom t)) ∧
    Builder.item t = match readAtom t with
      | .ok a => .ok (.atom a)
      | .error cause => .error ⟨t.pos,cause⟩ := by
  obtain ⟨kind,x,pos⟩ := t
  simp only [atomKinds,List.mem_cons,List.not_mem_nil,or_false] at atomic
  obtain rfl | rfl | rfl | rfl | rfl | rfl | rfl | rfl | rfl | rfl | rfl | rfl | rfl := atomic
  all_goals exact ⟨rfl,rfl⟩

theorem single_cases (lexed : Token.Lexed .root t)
    (other : t.kind ∉ [Kind.groupOpen,.optionsOpen,.condOpen,.absentOpen,.classOpen,.groupClose,.alt,.quant,.count]) :
    (∃ n, Builder.item t = .ok n ∧ n.span.start = t.pos ∧ single t (c.past t) = some (.ok (n,c.past t))) ∨
      ∃ cause, Builder.item t = .error ⟨t.pos,cause⟩ ∧ (∀ lexeme, cause ≠ .unexpected lexeme) ∧
        single t (c.past t) = some (.error (.fault ⟨t.pos,cause⟩)) := by
  by_cases atomic : t.kind ∈ atomKinds
  · obtain ⟨same,item⟩ := single_atom atomic
    rw [same,item]
    have atRoot : Token.Lexed (modeAt 0) t := lexed
    obtain ⟨a,read,ran⟩ | ⟨cause,failed,known,ran⟩ := atom_cases (c := c) atRoot atomic
    · obtain ⟨kind,_,rfl⟩ := readAtom_eq_ok_iff.mp read
      rw [read,bind_ok ran]
      exact .inl ⟨_,rfl,rfl,rfl⟩
    · rw [failed,bind_error ran]
      exact .inr ⟨cause,rfl,known,rfl⟩
  · have split : ∀ kind ∈ Token.Mode.root.rules.map Token.Rule.kind,
        kind ∉ [Kind.groupOpen,.optionsOpen,.condOpen,.absentOpen,.classOpen,.groupClose,.alt,.quant,.count] →
        kind ∉ atomKinds →
        kind = .interpolation ∨ kind = .recurse ∨ kind ∈ [Kind.quote,.comment,.dot,.caret,.dollar,.callout,.verb] := by decide
    have plain := split _ lexed.kind other atomic
    have fits := lexed.fits
    obtain ⟨kind,x,pos⟩ := t
    refine .inl ?_
    obtain rfl | rfl | unsliced := plain
    · obtain ⟨y,rfl⟩ := Token.fits_interpolation fits
      have text : innerOf 2 2 (['<','{'] ++ (y ++ ['}','>'])) = .ok (inner 2 2 (['<','{'] ++ (y ++ ['}','>']))) :=
        innerOf_marks ['<','{'] y ['}','>'] rfl rfl
      refine ⟨_,rfl,rfl,?_⟩
      simp only [single,text]
      rfl
    · obtain ⟨y,rfl⟩ := Token.fits_recurse fits
      have name : innerOf 2 1 (['(','?'] ++ (y ++ [')'])) = .ok (inner 2 1 (['(','?'] ++ (y ++ [')']))) :=
        innerOf_marks ['(','?'] y [')'] rfl rfl
      refine ⟨_,rfl,rfl,?_⟩
      simp only [single,name]
      rfl
    · simp only [List.mem_cons,List.not_mem_nil,or_false] at unsliced
      obtain rfl | rfl | rfl | rfl | rfl | rfl | rfl := unsliced
      all_goals exact ⟨_,rfl,rfl,rfl⟩

-- A token of an expression that goes one level in, where there is room for it.
theorem Reads.deepens (reads : Reads result src c 0 (t :: ts) d frames .expression) (d' : Draft) (frames' : List Frame)
    (focus : Focus)
    (stepped : Builder.stepExpression src.limit ⟨c.stop,d,frames,.expression⟩ t (firstPos src.eof ts) =
      (Builder.enter src.limit ⟨c.stop,d,frames,.expression⟩ t).map fun _ => ⟨c.stop,d',frames',focus⟩)
    (deeper : frames'.length + focus.depth = frames.length + 1) :
    (src.limit < (c.past t).depth + 1 → result = .error ⟨t.pos,.tooDeep src.limit⟩) ∧
      ((c.past t).depth + 1 ≤ src.limit → Reads result src {c.past t with depth := (c.past t).depth + 1}
        (depthAfter 0 t.kind) ts d' frames' focus) := by
  refine reads.enters ?_ deeper
  rw [Builder.step_expression,stepped]
  cases Builder.enter src.limit ⟨c.stop,d,frames,.expression⟩ t
  all_goals rfl

theorem Reads.opens (reads : Reads result src c 0 (t :: ts) d frames .expression) (enclosure : Enclosure)
    (kept : depthAfter 0 t.kind = 0)
    (stepped : Builder.stepExpression src.limit ⟨c.stop,d,frames,.expression⟩ t (firstPos src.eof ts) =
      (Builder.enter src.limit ⟨c.stop,d,frames,.expression⟩ t).map fun _ =>
        Builder.openFrame ⟨c.stop,d,frames,.expression⟩ t enclosure (firstPos src.eof ts)) :
    (src.limit < (c.past t).depth + 1 → result = .error ⟨t.pos,.tooDeep src.limit⟩) ∧
      ((c.past t).depth + 1 ≤ src.limit → Reads result src {c.past t with depth := (c.past t).depth + 1} 0 ts
        (.new (firstPos src.eof ts)) (⟨t,enclosure,d⟩ :: frames) .expression) := by
  have entered := reads.deepens _ (⟨t,enclosure,d⟩ :: frames) .expression stepped rfl
  rwa [kept] at entered

theorem options_leads (nested : ExpressionRead result src ts) (reads : Reads result src c 0 (t :: ts) d frames .expression)
    (kind : t.kind = .optionsOpen) (fits : Kind.optionsOpen.shape.Fits t.lexeme) :
    Leads result (options src t) (c.past t) fun n c' => ∃ us, us.length ≤ ts.length ∧ n.span.start = t.pos ∧
      Reads result src c' 0 us (d.push n) frames .expression := by
  obtain ⟨mark,last,y,_,same⟩ := Token.fits_optionsOpen fits
  have flags : checked (innerOf 2 1 t.lexeme) (c.past t) = some (.ok (inner 2 1 t.lexeme,c.past t)) := by
    have short : narrow [mark] = true := by
      simp only [List.mem_cons,List.not_mem_nil,or_false] at last
      obtain rfl | rfl := last
      all_goals decide
    have cut : innerOf 2 1 (['(','?'] ++ (y ++ [mark])) = .ok (inner 2 1 (['(','?'] ++ (y ++ [mark]))) :=
      innerOf_marks ['(','?'] y [mark] rfl short
    rw [same,cut]
    rfl
  rw [options]
  refine .run flags ?_
  split
  · rename_i closed
    refine .run (atomAt_past _) (.pure ⟨ts,le_rfl,rfl,reads.moves (by rw [kind]; rfl) ?_ reads.depth⟩)
    simp only [Builder.stepExpression,kind,if_pos closed]
    rfl
  · rename_i openEnded
    have opens := reads.opens (.group (.options (String.ofList (inner 2 1 t.lexeme)))) (by rw [kind]; rfl) (by
      simp only [Builder.stepExpression,kind,if_neg openEnded]
      rfl)
    refine .bind (group_leads nested (checkedGroupKind_options kind fits) opens.1 opens.2) ?_
    rintro _ c' ⟨us,span,child,rfl,shorter,start,further⟩
    exact .pure ⟨us,shorter.le,start,further⟩

theorem unit_leads (inner : ∀ us : List Token, us.length ≤ ts.length → ExpressionRead result src us)
    (reads : Reads result src c 0 (t :: ts) d frames .expression) (other : t.kind ∉ [Kind.groupClose,.alt,.quant,.count]) :
    Leads result (unit src) c fun n c' => ∃ us, us.length ≤ ts.length ∧ n.span.start = t.pos ∧
      Reads result src c' 0 us (d.push n) frames .expression := by
  have lexed := reads.here.lexed
  have fits := lexed.fits
  rw [unit]
  refine .run (next_cons reads.here) ?_
  dsimp only
  split
  · rename_i kind
    rw [inside_token] at kind
    have opens := reads.opens (.group (readGroupKind t.lexeme)) (by rw [kind]; rfl) (by
      simp only [Builder.stepExpression,kind]
      rfl)
    rw [kind] at fits
    refine .imp (group_leads (inner ts le_rfl) (checkedGroupKind_eq kind fits) opens.1 opens.2) ?_
    rintro _ c' ⟨us,span,child,rfl,shorter,start,further⟩
    exact ⟨us,shorter.le,start,further⟩
  · rename_i kind
    rw [inside_token] at kind
    rw [kind] at fits
    exact options_leads (inner ts le_rfl) reads kind fits
  · rename_i kind
    rw [inside_token] at kind
    have enters := reads.deepens d frames (.condition t []) (by
      simp only [Builder.stepExpression,kind]
      rfl) rfl
    rw [kind] at enters
    refine .imp (conditional_leads (fun us smaller => inner us smaller.le) enters.1 enters.2) ?_
    rintro n c' ⟨us,shorter,start,further⟩
    exact ⟨us,shorter.le,start,further⟩
  · rename_i kind
    rw [inside_token] at kind
    have opens := reads.opens .absent (by rw [kind]; rfl) (by
      simp only [Builder.stepExpression,kind]
      rfl)
    refine .enter opens.1 fun enough => .bind (enclosed_leads (inner ts le_rfl) (opens.2 enough)) ?_
    rintro ⟨span,child⟩ c' ⟨us,shorter,start,further⟩
    exact .pure ⟨us,shorter.le,start,further⟩
  · rename_i kind
    rw [inside_token] at kind
    have enters := reads.deepens d frames (.brackets (.new t) []) (by
      simp only [Builder.stepExpression,kind]
      rfl) rfl
    rw [kind] at enters
    refine .imp (customClass_leads ts enters.1 enters.2) ?_
    rintro _ c' ⟨us,span,ms,rfl,start,shorter,further⟩
    exact ⟨us,shorter.le,start,further⟩
  · rename_i notGroup notOptions notCond notAbsent notClass
    have others : t.kind ∉ [Kind.groupOpen,.optionsOpen,.condOpen,.absentOpen,.classOpen,.groupClose,.alt,.quant,.count] := by
      simp_all
    have kept : depthAfter 0 t.kind = 0 := by
      unfold depthAfter
      split
      · simp_all
      · rfl
      · rfl
    obtain ⟨n,read,start,ran⟩ | ⟨cause,failed,known,ran⟩ := single_cases (c := c) lexed others
    · exact .done ran ⟨ts,le_rfl,start,reads.moves kept (Builder.stepExpression_item read) reads.depth⟩
    · refine .stop ran (reads.rejects ?_) known
      unfold Builder.stepExpression
      split
      case h_10 =>
        rw [failed]
        rfl
      all_goals simp_all

end Units

section Expressions

variable {ns : List Node} {start : Position}

theorem checked_amount (lexed : Token.Lexed .root t) (kind : t.kind = .quant ∨ t.kind = .count) :
    checked (checkedAmount t.lexeme) c = some (.ok (readAmount t.lexeme,c)) := by
  have fits := lexed.fits
  have amount : checkedAmount t.lexeme = .ok (readAmount t.lexeme) := by
    obtain quant | count := kind
    · rw [quant] at fits
      exact checkedAmount_quant fits
    · rw [count] at fits
      exact checkedAmount_count fits
  rw [amount]
  rfl

theorem quantifiers_leads (reads : Reads result src c 0 ts (d.push n) frames .expression) (first : n.span.start = start) :
    Leads result (quantifiers src start n) c fun n' c' => ∃ us, us.length ≤ ts.length ∧
      Begins (fun kind => kind ≠ .quant ∧ kind ≠ .count) us ∧ n'.span.start = start ∧
      Reads result src c' 0 us (d.push n') frames .expression := by
  induction ts generalizing c n with
  | nil =>
    rw [quantifiers]
    exact .run (peek_nil reads.here) (.pure ⟨[],le_rfl,begins_nil,first,reads⟩)
  | cons t ts ih =>
    rw [quantifiers]
    refine .run (peek_cons reads.here) ?_
    dsimp only
    split
    · rename_i kind
      rw [inside_token] at kind
      have kept : depthAfter 0 t.kind = 0 := by
        obtain quant | count := kind
        · rw [quant]
          rfl
        · rw [count]
          rfl
      have further : Reads result src (c.past t) 0 ts (d.push (.quantification ⟨start,t.stop⟩ (readAmount t.lexeme).1
          (readGreed (readAmount t.lexeme).2) n)) frames .expression := by
        refine reads.moves kept ?_ reads.depth
        subst first
        obtain quant | count := kind
        · simp only [Builder.stepExpression,quant]
          rfl
        · simp only [Builder.stepExpression,count]
          rfl
      refine .run (next_cons reads.here) (.run (checked_amount reads.here.lexed kind) (.run rfl (.imp (ih further rfl) ?_)))
      rintro n' c' ⟨us,shorter,ends,start,last⟩
      exact ⟨us,shorter.trans (Nat.le_succ _),ends,start,last⟩
    · rename_i kind
      rw [inside_token] at kind
      exact .pure ⟨t :: ts,le_rfl,begins_cons.mpr (not_or.mp kind),first,reads⟩

theorem quantified_leads (inner : ∀ us : List Token, us.length ≤ ts.length → ExpressionRead result src us)
    (reads : Reads result src c 0 (t :: ts) d frames .expression) (other : t.kind ≠ .groupClose ∧ t.kind ≠ .alt)
    (alone : d.items ≠ [] → t.kind ≠ .quant ∧ t.kind ≠ .count) :
    Leads result (quantified src) c fun n c' => ∃ us, us.length ≤ ts.length ∧
      Begins (fun kind => kind ≠ .quant ∧ kind ≠ .count) us ∧ Reads result src c' 0 us (d.push n) frames .expression := by
  rw [quantified]
  refine .run (peek_cons reads.here) ?_
  dsimp only
  split
  · rename_i kind
    rw [inside_token] at kind
    have nothing : d.items = [] := by
      by_contra some
      obtain ⟨notQuant,notCount⟩ := alone some
      exact kind.elim notQuant notCount
    refine .stop rfl (reads.rejects ?_) fun _ => Cause.noConfusion
    obtain quant | count := kind
    · simp only [Builder.stepExpression,quant,Builder.quantify,nothing]
      rfl
    · simp only [Builder.stepExpression,count,Builder.quantify,nothing]
      rfl
  · rename_i kind
    rw [inside_token] at kind
    refine .bind (unit_leads inner reads (by simp_all)) ?_
    rintro n c' ⟨us,shorter,start,further⟩
    refine .imp (quantifiers_leads further start) ?_
    rintro n' c'' ⟨vs,smaller,ends,_,last⟩
    exact ⟨vs,smaller.trans shorter,ends,last⟩

theorem branch_of_items {expected : Node → Cursor → Prop} (same : d.items.reverse = ns) (begun : d.branchStart = start)
    (reached : expected (d.branch c.stop) c) : Leads result (sequenceOf start ns) c expected := by
  subst same begun
  unfold Draft.branch at reached
  unfold sequenceOf
  split at reached
  · rename_i none
    rw [none]
    exact .pure reached
  · rename_i one
    rw [one]
    exact .pure reached
  · rename_i notNone notOne
    split
    · rename_i none
      exact (notNone (List.reverse_eq_iff.mp none)).elim
    · rename_i one
      exact (notOne _ (List.reverse_eq_iff.mp one)).elim
    · exact .run rfl (.pure reached)

theorem items_leads (inner : ∀ us : List Token, us.length < ts.length → ExpressionRead result src us)
    (reads : Reads result src c 0 ts d frames .expression) (same : d.items.reverse = ns) (begun : d.branchStart = start)
    (alone : d.items ≠ [] → Begins (fun kind => kind ≠ .quant ∧ kind ≠ .count) ts) :
    Leads result (items src start ns) c fun n c' => ∃ us items, us.length ≤ ts.length ∧
      Begins (fun kind => kind = .alt ∨ kind = .groupClose) us ∧ {d with items := items}.branch c'.stop = n ∧
      Reads result src c' 0 us {d with items := items} frames .expression := by
  induction size : ts.length using Nat.strong_induction_on generalizing ts c d ns with
  | h n ih =>
    subst size
    rw [items]
    cases ts with
    | nil =>
      refine .run (peek_nil reads.here) ?_
      exact branch_of_items same begun ⟨[],d.items,le_rfl,begins_nil,rfl,reads⟩
    | cons t ts =>
      refine .run (peek_cons reads.here) ?_
      dsimp only [kindOf,Option.map,inside_token]
      split
      · rename_i none
        cases none
      · rename_i bar
        exact branch_of_items same begun
          ⟨t :: ts,d.items,le_rfl,begins_cons.mpr (.inl (Option.some.inj bar)),rfl,reads⟩
      · rename_i close
        exact branch_of_items same begun
          ⟨t :: ts,d.items,le_rfl,begins_cons.mpr (.inr (Option.some.inj close)),rfl,reads⟩
      · rename_i notBar notClose kind
        cases kind
        refine .bind (quantified_leads (fun us smaller => inner us (Nat.lt_succ_of_le smaller)) reads ⟨notClose,notBar⟩
          fun some => begins_cons.mp (alone some)) ?_
        rintro item c' ⟨us,shorter,ends,further⟩
        have less : us.length < (t :: ts).length := Nat.lt_succ_of_le shorter
        have more : (d.push item).items.reverse = ns ++ [item] := by
          rw [← same]
          exact List.reverse_cons
        refine .imp (ih _ less (fun vs smaller => inner vs (smaller.trans less)) further more begun (fun _ => ends) rfl) ?_
        rintro n c'' ⟨vs,items,smaller,last,found,final⟩
        exact ⟨vs,items,smaller.trans less.le,last,found,final⟩

theorem Reads.splits (reads : Reads result src c 0 (t :: ts) d frames .expression) (kind : t.kind = .alt) :
    Reads result src (c.past t) 0 ts (d.split c.stop (firstPos src.eof ts)) frames .expression := by
  refine reads.moves (by rw [kind]; rfl) ?_ reads.depth
  simp only [Builder.stepExpression,kind]

theorem posOf_head? : posOf src (ts.head?.map (inside 0)) = firstPos src.eof ts := by
  cases ts with
  | nil => rfl
  | cons t ts => rfl

theorem branch_leads (inner : ∀ us : List Token, us.length < ts.length → ExpressionRead result src us)
    (reads : Reads result src c 0 ts d frames .expression) (none : d.items = []) (begun : d.branchStart = firstPos src.eof ts) :
    Leads result (branch src) c fun n c' => ∃ us items, us.length ≤ ts.length ∧
      Begins (fun kind => kind = .alt ∨ kind = .groupClose) us ∧ {d with items := items}.branch c'.stop = n ∧
      Reads result src c' 0 us {d with items := items} frames .expression := by
  rw [branch]
  refine .run (peek_eq reads.here) (items_leads inner reads ?_ ?_ fun some => absurd none some)
  · rw [none]
    rfl
  · rw [begun,posOf_head?]

theorem finish_of_several {stop : Position} (several : d.branches ≠ []) :
    d.finish stop = .alternation ⟨d.start,stop⟩ (d.branch stop :: d.branches).reverse := by
  unfold Draft.finish
  split
  · rename_i none
    exact absurd none several
  · rfl

theorem branches_leads (inner : ∀ us : List Token, us.length < ts.length → ExpressionRead result src us)
    (reads : Reads result src c 0 ts d frames .expression) (begun : d.start = start)
    (same : (d.branch c.stop :: d.branches).reverse = ns)
    (ends : Begins (fun kind => kind = .alt ∨ kind = .groupClose) ts)
    (several : d.branches = [] → ∃ bar us, ts = bar :: us ∧ bar.kind = .alt) :
    Leads result (branches src start ns) c fun n c' => ∃ us d', us.length ≤ ts.length ∧ Begins (· = .groupClose) us ∧
      d'.finish c'.stop = n ∧ Reads result src c' 0 us d' frames .expression := by
  induction size : ts.length using Nat.strong_induction_on generalizing ts c d ns with
  | h n ih =>
    subst size same begun
    rw [branches]
    cases ts with
    | nil =>
      have some : d.branches ≠ [] := fun none => by
        obtain ⟨_,_,same,_⟩ := several none
        cases same
      exact .run (peek_nil reads.here) (.run rfl (.pure ⟨[],d,le_rfl,begins_nil,finish_of_several some,reads⟩))
    | cons t ts =>
      refine .run (peek_cons reads.here) ?_
      dsimp only [kindOf,Option.map,inside_token]
      split
      · rename_i bar
        have kind : t.kind = .alt := Option.some.inj bar
        have next := reads.splits kind
        refine .run (next_cons reads.here) (.bind (branch_leads (fun us smaller => inner us (smaller.trans (Nat.lt_succ_self _)))
          next rfl rfl) ?_)
        rintro n c' ⟨us,items,shorter,ends,found,further⟩
        have less : us.length < (t :: ts).length := Nat.lt_succ_of_le shorter
        refine .imp (ih _ less (fun vs smaller => inner vs (smaller.trans less)) further rfl ?_ ends
          (absurd · (List.cons_ne_nil _ _)) rfl) ?_
        · rw [found]
          exact List.reverse_cons
        · rintro n' c'' ⟨vs,d',smaller,last,found,final⟩
          exact ⟨vs,d',smaller.trans less.le,last,found,final⟩
      · rename_i notBar
        have some : d.branches ≠ [] := fun none => by
          obtain ⟨_,_,same,kind⟩ := several none
          cases same
          exact notBar (congrArg some kind)
        have close : t.kind = .groupClose := (begins_cons.mp ends).resolve_left fun kind => notBar (congrArg Option.some kind)
        exact .run rfl (.pure ⟨t :: ts,d,le_rfl,begins_cons.mpr close,finish_of_several some,reads⟩)

theorem expression_leads (ts : List Token) : ExpressionRead result src ts := by
  induction size : ts.length using Nat.strong_induction_on generalizing ts with
  | h n ih =>
    subst size
    intro c frames reads
    have inner : ∀ us : List Token, us.length < ts.length → ExpressionRead result src us := fun us smaller => ih _ smaller us rfl
    rw [expression]
    refine .run (peek_eq reads.here) (.bind (branch_leads inner reads rfl rfl) ?_)
    rintro first c' ⟨us,items,shorter,ends,found,further⟩
    cases us with
    | nil => exact .run (peek_nil further.here) (.pure ⟨[],⟨_,[],_,items⟩,shorter,begins_nil,found,further⟩)
    | cons t us =>
      refine .run (peek_cons further.here) ?_
      dsimp only [kindOf,Option.map,inside_token]
      split
      · rename_i bar
        refine .imp (branches_leads (fun vs smaller => inner vs (smaller.trans_le shorter)) further posOf_head?.symm ?_ ends
          fun _ => ⟨t,us,rfl,Option.some.inj bar⟩) ?_
        · rw [found]
          rfl
        · rintro n c'' ⟨vs,d,smaller,last,finished,final⟩
          exact ⟨vs,d,smaller.trans shorter,last,finished,final⟩
      · rename_i notBar
        have close : t.kind = .groupClose := (begins_cons.mp ends).resolve_left fun kind => notBar (congrArg some kind)
        exact .pure ⟨t :: us,⟨_,[],_,items⟩,shorter,begins_cons.mpr close,found,further⟩

end Expressions

theorem whole_leads (reads : Reads result src c 0 ts (.new (firstPos src.eof ts)) [] .expression) :
    Leads result (whole src) c fun n _ => result = .ok n := by
  rw [whole]
  refine .bind (expression_leads ts reads) ?_
  rintro n c' ⟨us,d,_,ends,rfl,further⟩
  cases us with
  | nil => exact .run (peek_nil further.here) (.pure further.run)
  | cons t us =>
    have kind : (inside 0 t).token.kind = .groupClose := begins_cons.mp ends
    refine .run (peek_cons further.here) ?_
    dsimp only
    rw [if_pos kind]
    rw [inside_token] at kind
    refine .stop rfl (further.rejects ?_) fun _ => Cause.noConfusion
    simp only [Builder.stepExpression,kind]
    rfl

theorem fromStart_leads (limit : Nat) (cs : List Char) :
    Leads (ofChars limit cs) (fromStart ⟨moded 0 (Token.lex cs),Position.start.advance cs,limit,false⟩)
      ⟨0,Position.start.advance cs,0⟩ fun n _ => ofChars limit cs = .ok n := by
  have here (stop : Position) : At ⟨moded 0 (Token.lex cs),Position.start.advance cs,limit,false⟩ ⟨0,stop,0⟩ 0 (Token.lex cs) :=
    ⟨⟨[],rfl,rfl⟩,Token.lex_cut cs,rfl⟩
  have run : ofChars limit cs = Builder.run limit ⟨firstPos (Position.start.advance cs) (Token.lex cs),
      .new (firstPos (Position.start.advance cs) (Token.lex cs)),[],.expression⟩ (Position.start.advance cs) (Token.lex cs) := by
    unfold ofChars ofTokens
    cases Token.lex cs
    all_goals rfl
  refine .run (peek_eq (here _)) (whole_leads ⟨here _,?_,rfl⟩)
  rw [posOf_head?,run]

theorem ofScan_eq (limit : Nat) (cs : List Char) :
    ofScan false limit (Token.scan cs) = some ((ofChars limit cs).mapError .fault) ∧
      ∀ f lexeme, ofChars limit cs = .error f → f.cause ≠ .unexpected lexeme := by
  have leads := fromStart_leads limit cs
  unfold Leads at leads
  rw [Token.scan_eq,ofScan]
  split at leads
  · rename_i ran
    rw [ran,leads]
    exact ⟨rfl,nofun⟩
  · rename_i ran
    rw [ran,leads.1]
    exact ⟨rfl,by rintro _ lexeme ⟨rfl⟩; exact leads.2 lexeme⟩
  · exact leads.elim
  · exact leads.elim

-- The descent ends for every byte string and every limit. It comes to the tree or the fault of the pattern, and never to
-- a defect; a fault is never an unexpected token. Only what is taken for the text of a condition may have been read in
-- brackets that the parser is not in.
theorem parse_agrees (limit : Int) (pattern : ByteArray) :
    parse false limit pattern = some ((Surface.parse limit pattern).mapError .fault) ∧
      ∀ f lexeme, Surface.parse limit pattern = .error f → f.cause ≠ .unexpected lexeme := by
  unfold parse Surface.parse
  cases Text.wellFormed (Text.pieces pattern) with
  | error stray => exact ⟨rfl,by rintro _ lexeme ⟨rfl⟩; exact Cause.noConfusion⟩
  | ok cs => exact ofScan_eq (inForce defaultDepth limit) cs

theorem ofScan_error {tokens : List Scanned} {eof : Position} {limit : Nat} {strict : Bool} {trouble : Trouble}
    (ran : fromStart ⟨tokens,eof,limit,strict⟩ ⟨0,eof,0⟩ = some (.error trouble)) :
    ofScan strict limit (.ok (tokens,eof)) = some (.error trouble) := by
  rw [ofScan,ran]

-- The text of a condition does not agree: the dot is read as a member of a class while no class is open for the parser.
theorem condition_disagrees : ∃ m : Scanned, m.token = ⟨.char,['.'],⟨4,1,5⟩⟩ ∧ m.mode = .brackets ∧
    parse true 0 "(?([.])b)".toUTF8 = some (.error (.defect (.context m 0))) ∧
    ∃ n, Surface.parse 0 "(?([.])b)".toUTF8 = .ok n := by
  let opening : Scanned := ⟨.root,[],⟨.condOpen,['(','?','('],⟨0,1,1⟩⟩⟩
  let bracket : Scanned := ⟨.root,[],⟨.classOpen,['['],⟨3,1,4⟩⟩⟩
  let dot : Scanned := ⟨.brackets,[.root],⟨.char,['.'],⟨4,1,5⟩⟩⟩
  let trouble : Trouble := .defect (.context dot 0)
  obtain ⟨behind,eof,scanned⟩ : ∃ behind eof,
    Token.scan "(?([.])b)".toList = .ok (opening :: bracket :: dot :: behind,eof) := ⟨_,_,by cbv⟩
  have read : Text.wellFormed (Text.pieces "(?([.])b)".toUTF8) = .ok "(?([.])b)".toList := by cbv
  refine ⟨dot,rfl,rfl,?_,_,by cbv⟩
  let src : Source := ⟨opening :: bracket :: dot :: behind,eof,1000,true⟩
  let start : Cursor := ⟨0,opening.token.pos,0⟩
  have second (text : List Char) : condition src opening.token text ⟨2,bracket.token.stop,1⟩ = some (.error trouble) := by
    rw [condition,bind_ok (a := some dot) rfl]
    exact bind_error rfl
  have first : condition src opening.token [] ⟨1,opening.token.stop,1⟩ = some (.error trouble) := by
    rw [condition,bind_ok (a := some bracket) rfl]
    exact (bind_ok rfl).trans (second _)
  have conditional : conditional src opening.token ⟨1,opening.token.stop,0⟩ = some (.error trouble) := by
    rw [conditional,bind_ok rfl]
    exact bind_error first
  have unit : unit src start = some (.error trouble) := by
    rw [unit,bind_ok (a := some opening) rfl]
    exact conditional
  have quantified : quantified src start = some (.error trouble) := by
    rw [quantified,bind_ok (a := some opening) rfl]
    exact bind_error unit
  have items : items src start.stop [] start = some (.error trouble) := by
    rw [items,bind_ok (a := some opening) rfl]
    exact bind_error quantified
  have branch : branch src start = some (.error trouble) := by
    rw [branch,bind_ok (a := some opening) rfl]
    exact items
  have expression : expression src start = some (.error trouble) := by
    rw [expression,bind_ok (a := some opening) rfl]
    exact bind_error branch
  have ran : fromStart src ⟨0,eof,0⟩ = some (.error trouble) := by
    rw [fromStart,bind_ok (a := some opening) rfl]
    exact bind_error expression
  unfold parse
  rw [read]
  dsimp only
  rw [scanned]
  exact ofScan_error ran

end LexPattern.Surface.Descent
