import LexPattern.Automaton.Limit
import LexPattern.Compiler.Basic
import LexPattern.Text.Integer
import LexPattern.Text.Quoted

namespace LexPattern.CommandLine

inductive Verb where
  | hir
  | dot
  | match
  | check
deriving DecidableEq, Repr

namespace Verb

def name : Verb → String
  | hir => "hir"
  | dot => "dot"
  | .match => "match"
  | check => "check"

def all : List Verb := [hir,dot,.match,check]

def named? (s : String) : Option Verb := all.find? (·.name = s)

end Verb

inductive Flag where
  | help
  | maxDepth
  | maxStates
  | cacheSize
  | verbose
  | nfa
  | raw
  | output
  | strict
deriving DecidableEq, Repr

namespace Flag

def all : List Flag := [help,maxDepth,maxStates,cacheSize,verbose,nfa,raw,output,strict]

def long : Flag → String
  | help => "help"
  | maxDepth => "max-depth"
  | maxStates => "max-states"
  | cacheSize => "cache-size"
  | verbose => "verbose"
  | nfa => "nfa"
  | raw => "raw"
  | output => "output"
  | strict => "strict"

def short? : Flag → Option Char
  | help => some 'h'
  | verbose => some 'v'
  | output => some 'o'
  | _ => none

def envName? : Flag → Option String
  | maxDepth => some "LEXHIR_MAX_DEPTH"
  | maxStates => some "LEXHIR_MAX_STATES"
  | cacheSize => some "LEXHIR_CACHE_SIZE"
  | _ => none

def owner? : Flag → Option Verb
  | nfa | raw | output => some .dot
  | strict => some .check
  | _ => none

def takesValue : Flag → Bool
  | maxDepth | maxStates | cacheSize | output => true
  | _ => false

def available (verb : Option Verb) (f : Flag) : Bool := f.owner?.all fun v => verb == some v

def withLong? (verb : Option Verb) (name : String) : Option Flag :=
  all.find? fun f => f.available verb && f.long == name

def withShort? (verb : Option Verb) (c : Char) : Option Flag :=
  all.find? fun f => f.available verb && f.short? == some c

end Flag

inductive UsageError where
  | noCommand
  | unknownCommand (name : String)
  | unknownFlag (name : String)
  | missingValue (flag : Flag)
  | badValue (flag : Flag) (value : String)
  | missingArgument (name : String)
  | extraArgument (value : String)
  | conflict (first second : Flag)
  | badFile (path : String)
deriving DecidableEq, Repr

def UsageError.message : UsageError → String
  | noCommand => "a command is expected"
  | unknownCommand name => "unknown command " ++ Text.quote name
  | unknownFlag name => "unknown flag " ++ name
  | missingValue flag => "--" ++ flag.long ++ ": a value is expected"
  | badValue flag value => "--" ++ flag.long ++ ": bad value " ++ Text.quote value
  | missingArgument name => "expected <" ++ name ++ ">"
  | extraArgument value => "unexpected argument " ++ Text.quote value
  | conflict first second => "--" ++ first.long ++ " and --" ++ second.long ++ " exclude each other"
  | badFile path => "no rules file " ++ Text.quote path

inductive Item where
  | word (s : String)
  | flag (f : Flag) (value : Option String)
  -- The mark after which every argument is a word.
  | mark
deriving DecidableEq, Repr

namespace Item

def isWord (arg : String) : Bool := arg == "-" || arg.toList.head? != some '-'

def takeValue (f : Flag) : List String → Except UsageError (String × List String)
  | value :: rest => if isWord value then .ok (value,rest) else .error (.missingValue f)
  | [] => .error (.missingValue f)

-- A bundle of one-letter flags. The first one that takes a value has the rest of the bundle, or the next
-- argument.
def bundle (verb : Option Verb) (rest : List String) : List Char → Except UsageError (List Item × List String)
  | [] => .ok ([],rest)
  | c :: cs =>
    match Flag.withShort? verb c with
    | none => .error (.unknownFlag (String.ofList ['-',c]))
    | some f =>
      if !f.takesValue then (bundle verb rest cs).map fun (items,rest) => (.flag f none :: items,rest)
      else if cs.isEmpty then (takeValue f rest).map fun (value,rest) => ([.flag f (some value)],rest)
      else .ok ([.flag f (some (String.ofList cs))],rest)

-- A flag by its name, with a value after an equals sign or in the next argument. A flag that takes no value
-- may still be given one to switch it on or off.
def longFlag (verb : Option Verb) (rest : List String) (body : List Char) :
    Except UsageError (List Item × List String) :=
  let name := String.ofList (body.takeWhile (· != '='))
  match Flag.withLong? verb name,body.dropWhile (· != '=') with
  | none,_ => .error (.unknownFlag ("--" ++ name))
  | some f,_ :: value => .ok ([.flag f (some (String.ofList value))],rest)
  | some f,[] =>
    if f.takesValue then (takeValue f rest).map fun (value,rest) => ([.flag f (some value)],rest)
    else .ok ([.flag f none],rest)

def addWord (verb : Option Verb) (s : String) : Except UsageError Verb :=
  match verb,Verb.named? s with
  | some v,_ => .ok v
  | none,some v => .ok v
  | none,none => .error (.unknownCommand s)

-- Take the arguments apart. `fuel` is at least their number.
def scan : Nat → Option Verb → List String → Except UsageError (List Item)
  | 0,_,_ => .ok []
  | _,_,[] => .ok []
  | fuel + 1,verb,arg :: rest =>
    if isWord arg then do
      let v ← addWord verb arg
      return .word arg :: (← scan fuel (some v) rest)
    else match arg.toList with
      | ['-','-'] => .ok (.mark :: rest.map .word)
      | '-' :: '-' :: body => do
        let (items,rest) ← longFlag verb rest body
        return items ++ (← scan fuel verb rest)
      | _ :: body => do
        let (items,rest) ← bundle verb rest body
        return items ++ (← scan fuel verb rest)
      | [] => .ok []

def word? : Item → Option String
  | word s => some s
  | _ => none

end Item

inductive Graph where
  | minimal
  | raw
  | nfa
deriving DecidableEq, Repr

inductive Command where
  -- A rules file that is named has to be there all the same.
  | help (file : Option String)
  | hir (pattern : String)
  | dot (pattern : String) (graph : Graph) (output : Option String)
  | match (pattern : String) (inputs : List String)
  | check (file : String) (strict : Bool)
deriving DecidableEq, Repr

structure Invocation where
  depth : Int
  states : Int
  cacheSize : Int
  verbose : Bool
  command : Command
deriving DecidableEq, Repr

namespace Invocation

def last? (items : List Item) (f : Flag) : Option (Option String) :=
  (items.filterMap fun item => match item with
    | .flag g value => if g = f then some value else none
    | _ => none).getLast?

def trueWords : List String := ["true","1","yes"]

def falseWords : List String := ["false","0","no"]

def switchValue (f : Flag) : Option String → Except UsageError Bool
  | none => .ok true
  | some value =>
    let word := String.ofList (value.toList.map Char.toLower)
    if trueWords.contains word then .ok true
    else if falseWords.contains word then .ok false
    else .error (.badValue f value)

-- The value of every switch and number is looked at, also where a later one overrides it.
def checkItem : Item → Except UsageError Unit
  | .flag f value =>
    if !f.takesValue then (switchValue f value).map fun _ => ()
    else match f.envName?,value with
      | some _,some v => if (Text.readInteger? v.toList).isSome then .ok () else .error (.badValue f v)
      | _,_ => .ok ()
  | _ => .ok ()

def switched (items : List Item) (f : Flag) : Bool :=
  (last? items f).any fun value => (switchValue f value).toOption.getD false

def limitValue (f : Flag) (value : String) : Except UsageError Int :=
  match Text.readInteger? value.toList with
  | some n => .ok n
  | none => .error (.badValue f value)

-- A limit from its flag or else its variable, which has to be a number even where the flag overrides it.
def limit (items : List Item) (environment : String → Option String) (f : Flag) (default : Int) :
    Except UsageError Int := do
  let fallback ← match f.envName?.bind environment with
    | some value => limitValue f value
    | none => .ok default
  match last? items f with
  | some (some value) => limitValue f value
  | _ => return fallback

def oneWord (name : String) : List Item → Except UsageError String
  | items =>
    match items.filterMap Item.word? with
    | [] => .error (.missingArgument name)
    | [s] => .ok s
    | _ :: s :: _ => .error (.extraArgument s)

def oneRun (items : List Item) : Except UsageError (List String) :=
  let start := items.dropWhile (·.word?.isNone)
  let run := start.takeWhile (·.word?.isSome)
  match (start.drop run.length).filterMap Item.word? with
  | [] => .ok (run.filterMap Item.word?)
  | s :: _ => .error (.extraArgument s)

def splitWord : List Item → Option (List Item × String × List Item)
  | [] => none
  | .word s :: items => some ([],s,items)
  | item :: items => (splitWord items).map fun (before,s,after) => (item :: before,s,after)

def graph (items : List Item) : Except UsageError Graph :=
  if (last? items .nfa).isSome ∧ (last? items .raw).isSome then .error (.conflict .nfa .raw)
  else .ok (if switched items .nfa then .nfa else if switched items .raw then .raw else .minimal)

def output (items : List Item) : Option String :=
  match last? items .output with
  | some (some path) => if path = "-" then none else some path
  | _ => none

def commandOf (items : List Item) : Verb → List Item → Except UsageError Command
  | .hir,args => do return .hir (← oneWord "pattern" args)
  | .dot,args => do return .dot (← oneWord "pattern" args) (← graph items) (output items)
  | .match,args => do
    match splitWord args with
    | none => .error (.missingArgument "pattern")
    | some (_,pattern,rest) => return .match pattern (← oneRun rest)
  | .check,args => do return .check (← oneWord "file" args) (switched items .strict)

-- Help is given for a command that lacks arguments, but not for one that has too many.
def helpFor (verb : Verb) (args : List Item) : Except UsageError Command := do
  let words := args.filterMap Item.word?
  match verb,words with
  | .match,_ :: _ => do
    let _ ← commandOf [] verb args
    return .help none
  | .match,[] => return .help none
  | _,_ :: s :: _ => .error (.extraArgument s)
  | .check,[file] => return .help (some file)
  | _,_ => return .help none

def ofItems (items : List Item) : Except UsageError Command := do
  items.forM checkItem
  let helped := (last? items .help).isSome
  match splitWord items with
  | none => if helped then return .help none else .error .noCommand
  | some (_,name,args) =>
    match Verb.named? name with
    | none => .error (.unknownCommand name)
    | some verb => if helped then helpFor verb args else commandOf items verb args

-- Where help is asked for, limits do not matter.
def parse (environment : String → Option String) (args : List String) : Except UsageError Invocation := do
  let items ← Item.scan args.length none args
  let command ← ofItems items
  match command with
  | .help _ =>
    return {
      depth := Surface.defaultDepth
      states := Automaton.defaultLimit
      cacheSize := Compiler.defaultCacheSize
      verbose := false
      command }
  | _ =>
    return {
      depth := ← limit items environment .maxDepth Surface.defaultDepth
      states := ← limit items environment .maxStates Automaton.defaultLimit
      cacheSize := ← limit items environment .cacheSize Compiler.defaultCacheSize
      verbose := switched items .verbose
      command }

def settings (i : Invocation) : Settings := {depth := i.depth,states := i.states}

def compiler (i : Invocation) : Compiler := .new i.settings i.cacheSize

end Invocation

end LexPattern.CommandLine
