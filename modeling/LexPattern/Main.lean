import LexPattern.CommandLine.Run

namespace LexPattern.CommandLine

def usageText : String :=
  "Usage: lexhir <command> [flags]\n\n"
  ++ "Lexer patterns as core expressions and automata.\n\n"
  ++ "Commands:\n"
  ++ "  hir <pattern>                 Print the HIR of a pattern\n"
  ++ "  dot <pattern>                 Export the automaton of a pattern as Graphviz DOT\n"
  ++ "  match <pattern> [<input> ...] Match inputs against a pattern\n"
  ++ "  check <file>                  Compile every pattern of a rules file and report overlaps\n\n"
  ++ "Flags:\n"
  ++ "  -h, --help            Show this text\n"
  ++ "  --max-depth=1000      Maximum nesting depth of a pattern (LEXHIR_MAX_DEPTH)\n"
  ++ "  --max-states=10000    Maximum automaton size per pattern (LEXHIR_MAX_STATES)\n"
  ++ "  --cache-size=256      Number of compiled patterns to keep (LEXHIR_CACHE_SIZE)\n"
  ++ "  -v, --verbose         Log compile times, automaton sizes and cache use\n"
  ++ "  --nfa                 dot: export the Thompson NFA\n"
  ++ "  --raw                 dot: export the DFA before minimisation\n"
  ++ "  -o, --output=-        dot: output file, - for stdout\n"
  ++ "  --strict              check: treat overlapping patterns as failures\n"

-- A path of the wrong kind has the code 21 when it is a folder, and a name that is too long the code 36.
def fileError : IO.Error → FileError
  | .noFileOrDirectory .. => .notFound
  | .inappropriateType _ code _ => if code = 21 then .isFolder else .notFolder
  | .invalidArgument _ code text => if code = 36 then .tooLong else .other text
  | .permissionDenied .. => .other "permission denied"
  | e => .other (toString e)

def attempt (act : IO α) : IO (Except FileError α) := do
  try return .ok (← act) catch e => return .error (fileError e)

def perform : Action → IO Ending
  | .finish ending => return ending
  | .read path next => do perform (next (← attempt (IO.FS.readBinFile path)))
  | .write path content next => do perform (next (← attempt (IO.FS.writeBinFile path content)))

end LexPattern.CommandLine

open LexPattern.CommandLine

def main (args : List String) : IO UInt32 := do
  let start ← IO.monoMsNow
  let known ← (homeName :: Flag.all.filterMap Flag.envName?).mapM fun name => do return (name,← IO.getEnv name)
  let ending ← perform (run (fun name => (known.lookup name).join) args)
  let stop ← IO.monoMsNow
  match ending with
  | .help => IO.print usageText
  | .usage e =>
    IO.print usageText
    IO.eprintln ("lexhir: error: " ++ e.message)
  | .done result =>
    IO.print result.output
    IO.eprint (result.errors (toString (stop - start) ++ "ms"))
  return ending.status.toUInt32
