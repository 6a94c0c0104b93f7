import LexPattern.Document.Cursor
import LexPattern.Text.Utf8

namespace LexPattern.Document

def isNameChar (c : Char) : Bool := c.isAlphanum || c == '_' || c == '-'

def scanName (c : Cursor) : Except ReadError (String × Cursor) :=
  let name := c.rest.takeWhile isNameChar
  let stop := c.skip name.length
  let follows : Bool := match stop.rest with
    | [] => true
    | x :: _ => isSpacing x || ['?',':',',',']','}','%','@',Char.ofNat 0x60].contains x
  if name.isEmpty || !follows then .error .badName else .ok (String.ofList name,stop)

-- A tag whose handle is empty has its whole name in the ending.
structure Tag where
  handle : String
  ending : String
deriving DecidableEq, Repr

namespace Tag

def isNamePart (c : Char) : Bool :=
  isNameChar c
    || [';','/','?',':','@','&','=','+','$',',','.','!','~','*','\'','(',')','[',']'].contains c

def octet? : List Char → Option (Nat × List Char)
  | '%' :: a :: b :: rest =>
    match Text.readNumeral 16 0xFF [a,b] with
    | .ok n => some (n,rest)
    | .error _ => none
  | _ => none

def laterOctets? : Nat → List Char → Option (List Char × List Char)
  | 0,rest => some ([],rest)
  | n + 1,cs => do
    let (octet,rest) ← octet? cs
    if octet / 0x40 = 2 then
      let (octets,rest) ← laterOctets? n rest
      return (Char.ofNat octet :: octets,rest)
    else none

def octets? (cs : List Char) : Option (List Char × List Char) := do
  let (octet,rest) ← octet? cs
  let count ← Text.sequenceSize? octet
  let (octets,rest) ← laterOctets? (count - 1) rest
  return (Char.ofNat octet :: octets,rest)

def namePartFrom : Nat → List Char → List Char → Except ReadError (List Char × List Char)
  | 0,_,_ => .error .tooDeep
  | fuel + 1,text,cs =>
    match cs with
    | [] => .ok (text,[])
    | c :: rest =>
      if c = '%' then
        match octets? cs with
        | some (octets,rest) => namePartFrom fuel (text ++ octets) rest
        | none => .error .badTag
      else if isNamePart c then namePartFrom fuel (text ++ [c]) rest
      else .ok (text,cs)

def namePart (c : Cursor) : Except ReadError (List Char × Cursor) := do
  let (text,rest) ← namePartFrom (c.rest.length + 1) [] c.rest
  return (text,c.skip (c.rest.length - rest.length))

def handleText (cs : List Char) : List Char :=
  let name := (cs.drop 1).takeWhile isNameChar
  cs.take 1 ++ name ++ ((cs.drop (1 + name.length)).takeWhile (· == '!')).take 1

def scan (c : Cursor) : Except ReadError (Tag × Cursor) := do
  let (tag,stop) ←
    if c.rest[1]? = some '<' then do
      let (name,stop) ← namePart (c.skip 2)
      if name.isEmpty || stop.rest.head? != some '>' then .error .badTag
      else pure (Tag.mk "" (String.ofList name),stop.skip 1)
    else do
      let handle := handleText c.rest
      let (name,stop) ← namePart (c.skip handle.length)
      if 1 < handle.length && handle.getLast? == some '!' then
        if name.isEmpty then .error .badTag
        else pure (Tag.mk (String.ofList handle) (String.ofList name),stop)
      else
        match handle.drop 1 ++ name with
        | [] => pure (Tag.mk "" "!",stop)
        | whole => pure (Tag.mk "!" (String.ofList whole),stop)
  if spacingNext stop.rest then return (tag,stop) else .error .badTag

def standardHandles : List (String × String) := [("!","!"),("!!","tag:yaml.org,2002:")]

def name? (handles : List (String × String)) (tag : Tag) : Option String :=
  if tag.handle = "" then some tag.ending
  else (handles.find? (·.1 = tag.handle)).map fun h => h.2 ++ tag.ending

end Tag

inductive Directive where
  | version (major minor : Nat)
  | handle (name meaning : String)
deriving DecidableEq, Repr

namespace Directive

def number? (c : Cursor) : Option (Nat × Cursor) :=
  let digits := c.rest.takeWhile Char.isDigit
  if 2 < digits.length then none
  else match Text.readNumeral 10 99 digits with
    | .ok n => some (n,c.skip digits.length)
    | .error _ => none

def version? (c : Cursor) : Option (Directive × Cursor) := do
  let (major,c) ← number? (c.skipWhile isBlank)
  if c.rest.head? = some '.' then
    let (minor,c) ← number? (c.skip 1)
    return (.version major minor,c)
  else none

def handle? (c : Cursor) : Option (Directive × Cursor) := do
  let c := c.skipWhile isBlank
  let handle := Tag.handleText c.rest
  let named := handle == ['!'] || (1 < handle.length && handle.head? == some '!' && handle.getLast? == some '!')
  let c := c.skip handle.length
  if named && (c.rest.head?.map isBlank).getD false then
    match Tag.namePart (c.skipWhile isBlank) with
    | .ok (meaning,c) =>
      if meaning.isEmpty || !spacingNext c.rest then none
      else return (.handle (String.ofList handle) (String.ofList meaning),c)
    | .error _ => none
  else none

def scan (c : Cursor) : Except ReadError (Directive × Cursor) :=
  let name := c.rest.takeWhile isNameChar
  let after := c.skip name.length
  let found :=
    if !spacingNext after.rest then none
    else if name = "YAML".toList then version? after
    else if name = "TAG".toList then handle? after
    else none
  match found with
  | some (directive,c) =>
    match c.skipComment? with
    | some next => .ok (directive,next)
    | none => .error .badDirective
  | none => .error .badDirective

end Directive

end LexPattern.Document
