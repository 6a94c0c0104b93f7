import LexPattern.Automaton.Dot
import LexPattern.CommandLine.Arguments
import LexPattern.CommandLine.Folder
import LexPattern.Rules.Check

namespace LexPattern.CommandLine

open Automaton (Dfa Nfa)

inductive Message where
  | progress (event : Event)
  | written (path : String)
  | failure (text : String)
deriving DecidableEq, Repr

namespace Message

def text (elapsed : String) : Message → String
  | progress event => event.line elapsed
  | written path => "DOT written to " ++ path
  | failure text => text

def line (elapsed : String) (m : Message) : String :=
  let text := "lexhir: " ++ m.text elapsed
  if text.toList.getLast? = some '\n' then text else text ++ "\n"

end Message

structure Result where
  output : String := ""
  messages : List Message := []
deriving DecidableEq, Repr

namespace Result

def fail (r : Result) (text : String) : Result := {r with messages := r.messages ++ [.failure text]}

def failed (r : Result) : Bool := r.messages.any fun m => match m with
  | .failure _ => true
  | _ => false

def errors (elapsed : String) (r : Result) : String := String.join (r.messages.map (·.line elapsed))

end Result

inductive Ending where
  | usage (error : UsageError)
  | help
  | done (result : Result)
deriving DecidableEq, Repr

-- The exit status: zero for success, one for failure, eighty for a command that was not understood.
def Ending.status : Ending → Nat
  | usage _ => 80
  | help => 0
  | done result => if result.failed then 1 else 0

inductive Action where
  | finish (ending : Ending)
  | read (path : String) (next : Except FileError ByteArray → Action)
  | write (path : String) (content : ByteArray) (next : Except FileError Unit → Action)

namespace Action

def done (r : Result) : Action := .finish (.done r)

def runIn : Action → Folder → Ending × Folder
  | finish ending,f => (ending,f)
  | read path next,f => (next (f.read path)).runIn f
  | write path content next,f =>
    match f.write path content with
    | .ok f => (next (.ok ())).runIn f
    | .error e => (next (.error e)).runIn f

end Action

namespace Invocation

def progress (i : Invocation) (events : List Event) : List Message :=
  if i.verbose then events.map .progress else []

def patternName : String := "pattern"

def withPattern (i : Invocation) (pattern : String) (next : Compiled → Result → Action) : Action :=
  let result := (i.compiler.compile ⟨patternName,pattern.toUTF8⟩).1
  let told : Result := {messages := i.progress [Rules.compileEvent patternName result]}
  match result with
  | .ok compiled => next compiled told
  | .error error => .done (told.fail error.message)

def showExpr (i : Invocation) (pattern : String) : Action :=
  i.withPattern pattern fun compiled told => .done {told with output := compiled.expr.render ++ "\n"}

def openFailure (path : String) (e : FileError) : String := "open " ++ path ++ ": " ++ e.message

def deliver (told : Result) (text : String) : Option String → Action
  | none => .done {told with output := text}
  | some path => .write path text.toUTF8 fun written =>
    match written with
    | .ok () => .done {told with messages := told.messages ++ [.written path]}
    | .error e => .done (told.fail (openFailure path e))

def draw (i : Invocation) (pattern : String) (graph : Graph) (output : Option String) : Action :=
  i.withPattern pattern fun compiled told =>
    if graph = .minimal then deliver told compiled.dfa.toDot output
    else match Nfa.ofExpr i.states compiled.expr with
      | .error e => .done (told.fail e.message)
      | .ok nfa =>
        let told := {told with messages := told.messages ++ i.progress [.built nfa.size]}
        if graph = .nfa then deliver told nfa.toDot output
        else match Dfa.ofNfa i.states nfa with
          | .error e => .done (told.fail e.message)
          | .ok dfa => deliver told dfa.toDot output

def matchLine (compiled : Compiled) (input : String) : String :=
  Text.quote input ++ "\t" ++ (if compiled.accepts input.toUTF8 then "true" else "false") ++ "\n"

def matchInputs (i : Invocation) (pattern : String) (inputs : List String) : Action :=
  i.withPattern pattern fun compiled told =>
    let told := {told with output := String.join (inputs.map (matchLine compiled))}
    let missed := inputs.countP fun input => !compiled.accepts input.toUTF8
    if missed = 0 then .done told
    else .done (told.fail (toString missed ++ " of " ++ toString inputs.length ++ " inputs did not match"))

def checkRules (i : Invocation) (strict : Bool) (path : String) (rules : List Rule) : Result :=
  let report := Rules.check i.compiler strict rules
  let result : Result := {
    output := report.output
    messages := i.progress (.loaded rules.length path :: report.events) }
  match report.objection with
  | none => result
  | some objection => result.fail objection.message

-- Go on with the content of a rules file. A path that leads to no file is a matter of usage, but a dash passes
-- for one.
def withRulesFile (home file : String) (next : String → Except FileError ByteArray → Action) : Action :=
  let path := if file = "-" then file else Path.find home file
  .read path fun content =>
    match content with
    | .ok _ | .error (.other _) => next path content
    | .error e => if file = "-" then next path (.error e) else .finish (.usage (.badFile file))

def checkFile (i : Invocation) (home file : String) (strict : Bool) : Action :=
  withRulesFile home file fun path content =>
    match content with
    | .error e => .done (Result.fail {} (openFailure path e))
    | .ok document =>
      match Rules.load document with
      | .ok rules => .done (i.checkRules strict path rules)
      | .error e => .done (Result.fail {} (path ++ ": " ++ e.message))

def action (i : Invocation) (home : String) : Action :=
  match i.command with
  | .help none => .finish .help
  | .help (some file) => withRulesFile home file fun _ _ => .finish .help
  | .hir pattern => i.showExpr pattern
  | .dot pattern graph output => i.draw pattern graph output
  | .match pattern inputs => i.matchInputs pattern inputs
  | .check file strict => i.checkFile home file strict

end Invocation

def homeName : String := "HOME"

def run (environment : String → Option String) (args : List String) : Action :=
  match Invocation.parse environment args with
  | .ok invocation => invocation.action ((environment homeName).getD "/")
  | .error e => .finish (.usage e)

end LexPattern.CommandLine
