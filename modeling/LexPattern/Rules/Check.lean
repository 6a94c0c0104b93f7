import LexPattern.Compiler.Basic
import LexPattern.Rules.Basic

namespace LexPattern

inductive Finding where
  | failure (error : CompileError)
  | overlap (first second : String) (witness : List CodePoint)
deriving DecidableEq, Repr

def Finding.line : Finding → String
  | failure error => error.message
  | overlap first second witness =>
    "warning: " ++ first ++ " and " ++ second ++ " both match " ++ Text.quote (CodePoint.text witness)

inductive Event where
  | compiled (rule : String) (states : Nat)
  | rejected (rule : String)
  | compared (pairs : Nat)
  | checked (rules remembered : Nat)
  | loaded (rules : Nat) (file : String)
  | built (states : Nat)
deriving DecidableEq, Repr

def Event.line (elapsed : String) : Event → String
  | compiled rule states => rule ++ ": compiled in " ++ elapsed ++ ", " ++ toString states ++ " DFA states"
  | rejected rule => rule ++ ": rejected after " ++ elapsed
  | compared pairs => "compared " ++ toString pairs ++ " pairs in " ++ elapsed
  | checked rules remembered =>
    "checked " ++ toString rules ++ " patterns in " ++ elapsed ++ ", " ++ toString remembered ++ " cached results"
  | loaded rules file => "loaded " ++ toString rules ++ " patterns from " ++ file
  | built states => "NFA has " ++ toString states ++ " states"

inductive Objection where
  | failures (failed total : Nat)
  | overlaps (count : Nat)
deriving DecidableEq, Repr

def Objection.message : Objection → String
  | failures failed total => toString failed ++ " of " ++ toString total ++ " patterns failed to compile"
  | overlaps count => toString count ++ " overlapping pattern pairs"

namespace Rules

abbrev Attempt := Rule × CompileResult

def Attempt.compiled? (a : Attempt) : Option (String × Compiled) :=
  match a.2 with
  | .ok compiled => some (a.1.name,compiled)
  | .error _ => none

def Attempt.failure? (a : Attempt) : Option Finding :=
  match a.2 with
  | .ok _ => none
  | .error error => some (.failure error)

def compileEvent (name : String) : CompileResult → Event
  | .ok compiled => .compiled name compiled.dfa.size
  | .error _ => .rejected name

def attempts : Compiler → List Rule → List Attempt × Compiler
  | c,[] => ([],c)
  | c,rule :: rules =>
    let (result,c) := c.compile ⟨rule.name,rule.pattern⟩
    let (rest,c) := attempts c rules
    ((rule,result) :: rest,c)

def pairs : List α → List (α × α)
  | [] => []
  | x :: xs => xs.map (fun y => (x,y)) ++ pairs xs

def overlap? (pair : (String × Compiled) × (String × Compiled)) : Option Finding :=
  (pair.1.2.overlap? pair.2.2).map (.overlap pair.1.1 pair.2.1)

structure Report where
  findings : List Finding
  events : List Event
  objection : Option Objection
  compiler : Compiler

def Report.output (r : Report) : String := String.join (r.findings.map fun f => f.line ++ "\n")

-- What stands against the rules. Failures come first, and overlaps count only in a strict check.
def objection? (strict : Bool) (total failed overlaps : Nat) : Option Objection :=
  if 0 < failed then some (.failures failed total)
  else if strict ∧ 0 < overlaps then some (.overlaps overlaps)
  else none

def check (c : Compiler) (strict : Bool) (rules : List Rule) : Report :=
  let (tried,c) := attempts c rules
  let failures := tried.filterMap Attempt.failure?
  let candidates := pairs (tried.filterMap Attempt.compiled?)
  let overlaps := candidates.filterMap overlap?
  { findings := failures ++ overlaps
    events := tried.map (fun a => compileEvent a.1.name a.2)
      ++ [.compared candidates.length,.checked rules.length c.remembered]
    objection := objection? strict rules.length failures.length overlaps.length
    compiler := c }

end Rules

end LexPattern
