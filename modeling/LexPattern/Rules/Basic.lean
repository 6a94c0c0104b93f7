import LexPattern.Document.Reader
import LexPattern.Text.Quoted

namespace LexPattern

structure Rule where
  name : String
  pattern : ByteArray

def Rule.blank : Rule := ⟨"",.empty⟩

inductive LayoutError where
  | notAMap
  | notAList
  | notText
  | unknownField (name : String)
deriving DecidableEq, Repr

def LayoutError.message : LayoutError → String
  | notAMap => "a map is wanted"
  | notAList => "a list is wanted"
  | notText => "a text is wanted"
  | unknownField name => "unknown field " ++ Text.quote name

inductive RulesError where
  | unreadable (error : Document.ReadError)
  | layout (error : LayoutError)
  | noPatterns
  | unnamed (number : Nat)
  | duplicate (name : String)
deriving DecidableEq, Repr

def RulesError.message : RulesError → String
  | unreadable error => error.message
  | layout error => error.message
  | noPatterns => "no patterns"
  | unnamed number => "pattern #" ++ toString number ++ " has no name"
  | duplicate name => "duplicate pattern name " ++ Text.quote name

namespace Rules

open Document (Scalar Value)

-- Field names are compared without regard to case; a long s counts as an s.
def foldLetter (c : Char) : Char := if c = Char.ofNat 0x17F then 's' else c.toLower

def isField (field key : String) : Bool := key.toList.map foldLetter == field.toList

def fieldName (key : Scalar) : String := key.text?.getD "null"

-- Fields are taken in the order of their names, so of two spellings of one field the later one wins.
def inOrder (entries : List (Scalar × Value)) : List (String × Value) :=
  (entries.map fun (key,value) => (fieldName key,value)).mergeSort fun a b => !decide (b.1 < a.1)

def textIn : Value → Except LayoutError (Option String)
  | .scalar s => .ok s.text?
  | _ => .error .notText

def readField (rule : Rule) (field : String × Value) : Except LayoutError Rule :=
  if isField "name" field.1 then
    (textIn field.2).map fun s => {rule with name := s.getD rule.name}
  else if isField "pattern" field.1 then
    (textIn field.2).map fun s => {rule with pattern := (s.map String.toUTF8).getD rule.pattern}
  else .error (.unknownField field.1)

def readRule (old : Rule) : Value → Except LayoutError Rule
  | .scalar .null => .ok old
  | .map entries => (inOrder entries).foldlM readField old
  | _ => .error .notAMap

-- The rules of the last list, and what earlier and longer lists held at the places after them.
structure Listing where
  rules : List Rule
  beyond : List Rule

namespace Listing

def empty : Listing := ⟨[],[]⟩

def places (l : Listing) : List Rule := l.rules ++ l.beyond

end Listing

def readItems : List Rule → List Value → Except LayoutError (List Rule)
  | _,[] => .ok []
  | old,item :: items => do
    let rule ← readRule (old.headD .blank) item
    let rules ← readItems old.tail items
    return rule :: rules

-- A list without items, or none at all, clears every place.
def readList (old : Listing) (field : String × Value) : Except LayoutError Listing :=
  if isField "patterns" field.1 then
    match field.2 with
    | .scalar .null | .list [] => .ok .empty
    | .list items => (readItems old.places items).map fun rules => ⟨rules,old.places.drop items.length⟩
    | _ => .error .notAList
  else .error (.unknownField field.1)

def ofValue : Value → Except LayoutError (List Rule)
  | .scalar .null => .ok []
  | .map entries => ((inOrder entries).foldlM readList .empty).map Listing.rules
  | _ => .error .notAMap

def firstFault? (number : Nat) (seen : List String) : List Rule → Option RulesError
  | [] => none
  | rule :: rules =>
    if rule.name = "" then some (.unnamed number)
    else if rule.name ∈ seen then some (.duplicate rule.name)
    else firstFault? (number + 1) (rule.name :: seen) rules

def validate (rules : List Rule) : Except RulesError (List Rule) :=
  if rules.isEmpty then .error .noPatterns
  else match firstFault? 1 [] rules with
    | some error => .error error
    | none => .ok rules

def load (document : ByteArray) : Except RulesError (List Rule) :=
  match Document.read document with
  | .error error => .error (.unreadable error)
  | .ok value =>
    match ofValue value with
    | .error error => .error (.layout error)
    | .ok rules => validate rules

end Rules

end LexPattern
