import LexPattern.Automaton.Minimal
import LexPattern.Automaton.Product
import LexPattern.Automaton.Shortest
import LexPattern.Automaton.Subset
import LexPattern.Core.Lowering
import LexPattern.Name.Index
import LexPattern.Surface.Parser

namespace LexPattern

open Automaton (Dfa Nfa TooLarge)

namespace Automaton

def Dfa.ofExpr (limit : Int) (e : Core.Expr) : Except TooLarge Dfa := do
  let n ← Nfa.ofExpr limit e
  let d ← Dfa.ofNfa limit n
  return d.minimize

end Automaton

structure Settings where
  depth : Int := 0
  states : Int := 0
  names : String → Option String := Name.lookup?

structure Compiled where
  file : String
  source : ByteArray
  tree : Surface.Node
  expr : Core.Expr
  dfa : Dfa

inductive CompileError where
  | malformed (file : String) (fault : Surface.Fault)
  | rejected (file : String) (rejection : Core.Rejection)
  | tooLarge (error : TooLarge)
deriving DecidableEq, Repr

def CompileError.message : CompileError → String
  | malformed file fault => fault.message file
  | rejected file rejection => rejection.message file
  | tooLarge error => error.message

abbrev CompileResult := Except CompileError Compiled

-- The pattern as the text of a file, which need not exist; its errors are places of that file.
def compile (s : Settings) (file : String) (pattern : ByteArray) : CompileResult :=
  match Surface.parse s.depth pattern with
  | .error fault => .error (.malformed file fault)
  | .ok tree =>
    match Core.lower s.depth s.names tree with
    | .error rejection => .error (.rejected file rejection)
    | .ok expr =>
      match Dfa.ofExpr s.states expr with
      | .error error => .error (.tooLarge error)
      | .ok dfa => .ok ⟨file,pattern,tree,expr,dfa⟩

def inputCodes (input : ByteArray) : List CodePoint :=
  (Text.pieces input).map fun p => .ofChar p.toChar

namespace Compiled

def accepts (p : Compiled) (input : ByteArray) : Bool := p.dfa.accepts (inputCodes input)

def overlap? (p q : Compiled) : Option (List CodePoint) := (p.dfa.inter q.dfa).shortest?

end Compiled

inductive Outcome where
  | ok
  | malformed
  | unsupported
  | unavailable
  | invalid
  | tooLarge
deriving DecidableEq, Repr

namespace Outcome

def all : List Outcome := [ok,malformed,unsupported,unavailable,invalid,tooLarge]

def label : Outcome → String
  | ok => "ok"
  | malformed => "syntax"
  | unsupported => "unsupported"
  | unavailable => "unavailable"
  | invalid => "invalid"
  | tooLarge => "too_large"

def ofSeverity : Core.Severity → Outcome
  | .unsupported => unsupported
  | .unavailable => unavailable
  | .invalid => invalid

def ofResult : CompileResult → Outcome
  | .ok _ => ok
  | .error (.malformed _ _) => malformed
  | .error (.rejected _ r) => ofSeverity r.reason.severity
  | .error (.tooLarge _) => tooLarge

end Outcome

end LexPattern
