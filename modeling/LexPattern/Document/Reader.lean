import LexPattern.Document.Encoding
import LexPattern.Document.Layout
import LexPattern.Document.Node

namespace LexPattern.Document

-- The values of nodes with an anchor, newest first. A collection has none until it is finished.
abbrev Anchors := List (String × Option Value)

namespace Anchors

def start (anchors : Anchors) : Option String → Anchors
  | none => anchors
  | some name => (name,none) :: anchors

def finish (v : Value) (name : String) : Anchors → Anchors
  | [] => []
  | (other,old) :: anchors =>
    if other = name ∧ old.isNone then (name,some v) :: anchors else (other,old) :: finish v name anchors

def bind (anchors : Anchors) (v : Value) : Option String → Anchors
  | none => anchors
  | some name => anchors.finish v name

end Anchors

def Value.key : Value → Except ReadError Scalar
  | .scalar s => .ok s
  | _ => .error .collectionKey

def addEntry (entries : List (Scalar × Value)) (key : Scalar) (value : Value) :
    Except ReadError (List (Scalar × Value)) :=
  if entries.any (·.1 = key) then .error .duplicateKey else .ok (entries ++ [(key,value)])

def addEntries (entries more : List (Scalar × Value)) : Except ReadError (List (Scalar × Value)) :=
  more.foldlM (fun entries e => addEntry entries e.1 e.2) entries

def Value.entries? : Value → Option (List (Scalar × Value))
  | .map entries => some entries
  | _ => none

namespace Node

def isAlias : Node → Bool
  | aliasOf _ => true
  | _ => false

-- Two angle marks as a key put the entries of other maps in its place.
def isMerge (handles : List (String × String)) : Node → Bool
  | scalar d quoted text =>
    text == "<<" && match d.tag with
      | none => !quoted
      | some tag => (tag.name? handles).any fun name => name == "!" || name == "tag:yaml.org,2002:merge"
  | _ => false

def merged (written : Bool) : Value → Except ReadError (List (Scalar × Value))
  | .map entries => .ok entries
  | .list items =>
    match items.mapM Value.entries? with
    | some entries => if written then .ok entries.flatten else .error .badMerge
    | none => .error .badMerge
  | .scalar _ => .error .badMerge

def tagName (handles : List (String × String)) (d : Decoration) : Except ReadError (Option String) :=
  match d.tag with
  | none => .ok none
  | some tag =>
    match tag.name? handles with
    | some name => .ok (some name)
    | none => .error .unknownHandle

def scalarValue (handles : List (String × String)) (d : Decoration) (quoted : Bool) (text : String) :
    Except ReadError Scalar := do
  match ← tagName handles d with
  | none => return if quoted then .text text else .ofWord text
  | some tag =>
    match Scalar.ofTagged? tag text with
    | some s => return s
    | none => .error .wrongKind

mutual

-- What a node means. The tag of a collection means nothing, but its handle has to be known.
def value (handles : List (String × String)) : Node → Anchors → Except ReadError (Value × Anchors)
  | aliasOf name,anchors =>
    match anchors.find? (·.1 = name) with
    | some (_,some v) => .ok (v,anchors)
    | _ => .error .unknownAnchor
  | scalar d quoted text,anchors => do
    let s ← scalarValue handles d quoted text
    return (.scalar s,(anchors.start d.anchor).bind (.scalar s) d.anchor)
  | list d items,anchors => do
    let _ ← tagName handles d
    let (items,anchors) ← values handles items (anchors.start d.anchor)
    return (.list items,anchors.bind (.list items) d.anchor)
  | map d entries,anchors => do
    let _ ← tagName handles d
    let (entries,anchors) ← entriesFrom handles entries [] (anchors.start d.anchor)
    return (.map entries,anchors.bind (.map entries) d.anchor)

def values (handles : List (String × String)) : List Node → Anchors → Except ReadError (List Value × Anchors)
  | [],anchors => .ok ([],anchors)
  | item :: items,anchors => do
    let (v,anchors) ← value handles item anchors
    let (vs,anchors) ← values handles items anchors
    return (v :: vs,anchors)

def entriesFrom (handles : List (String × String)) : List (Node × Node) → List (Scalar × Value) → Anchors →
    Except ReadError (List (Scalar × Value) × Anchors)
  | [],found,anchors => .ok (found,anchors)
  | (key,node) :: rest,found,anchors => do
    let (k,anchors) ← value handles key anchors
    let (v,anchors) ← value handles node anchors
    let found ←
      if key.isMerge handles then do addEntries found (← merged (!node.isAlias) v)
      else addEntry found (← k.key) v
    entriesFrom handles rest found anchors

end

end Node

def read (bytes : ByteArray) : Except ReadError Value := do
  let outline ← Outline.ofLexemes (Lexeme.ofText (Encoding.textOf bytes))
  let (v,_) ← outline.root.value outline.handles []
  return v

end LexPattern.Document
