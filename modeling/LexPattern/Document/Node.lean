import LexPattern.Document.Lexeme

namespace LexPattern.Document

structure Decoration where
  anchor : Option String
  tag : Option Tag
deriving DecidableEq, Repr

namespace Decoration

def bare : Decoration := ⟨none,none⟩

def isBare (d : Decoration) : Bool := d.anchor.isNone && d.tag.isNone

def ofLexemes : List Lexeme → Decoration × List Lexeme
  | .anchor a :: .tag t :: rest => (⟨some a,some t⟩,rest)
  | .tag t :: .anchor a :: rest => (⟨some a,some t⟩,rest)
  | .anchor a :: rest => (⟨some a,none⟩,rest)
  | .tag t :: rest => (⟨none,some t⟩,rest)
  | rest => (bare,rest)

end Decoration

inductive Node where
  | aliasOf (name : String)
  | scalar (d : Decoration) (quoted : Bool) (text : String)
  | list (d : Decoration) (items : List Node)
  | map (d : Decoration) (entries : List (Node × Node))
deriving Inhabited

namespace Node

def missing : Node := .scalar .bare false ""

def obstacle : List Lexeme → ReadError
  | .fault e :: _ => e
  | _ => .misplaced

-- Where a node may stand: in brackets, in a block, or in a map, where the dashes of a list need no column of
-- their own.
inductive Site where
  | flow
  | block
  | entry
deriving DecidableEq, Repr

def endsEntry : List Lexeme → Bool
  | .key :: _ | .colon :: _ | .blockEnd :: _ => true
  | _ => false

def endsFlowList : List Lexeme → Bool
  | .comma :: _ | .flowListEnd :: _ => true
  | _ => false

def endsFlowMap : List Lexeme → Bool
  | .comma :: _ | .flowMapEnd :: _ => true
  | _ => false

mutual

def read : Nat → Site → List Lexeme → Except ReadError (Node × List Lexeme)
  | 0,_,_ => .error .tooDeep
  | _,_,.aliasOf name :: rest => .ok (.aliasOf name,rest)
  | fuel + 1,site,lexemes =>
    let (d,rest) := Decoration.ofLexemes lexemes
    match site,rest with
    | .entry,.dash :: _ => readDashes fuel d [] rest
    | _,.word s :: rest => .ok (.scalar d false s,rest)
    | _,.text s :: rest => .ok (.scalar d true s,rest)
    | _,.flowListStart :: rest => readFlowList fuel d [] rest
    | _,.flowMapStart :: rest => readFlowMap fuel d [] rest
    | .block,.blockListStart :: rest | .entry,.blockListStart :: rest => readBlockList fuel d [] rest
    | .block,.blockMapStart :: rest | .entry,.blockMapStart :: rest => readBlockMap fuel d [] rest
    | _,rest => if d.isBare then .error (obstacle rest) else .ok (.scalar d false "",rest)

-- The items of a list at the column of the key it belongs to, newest first; anything but a dash ends it.
def readDashes : Nat → Decoration → List Node → List Lexeme → Except ReadError (Node × List Lexeme)
  | 0,_,_,_ => .error .tooDeep
  | fuel + 1,d,items,.dash :: rest => do
    match rest with
    | .dash :: _ => readDashes fuel d (missing :: items) rest
    | _ =>
      if endsEntry rest then readDashes fuel d (missing :: items) rest
      else
        let (item,rest) ← read fuel .block rest
        readDashes fuel d (item :: items) rest
  | _,d,items,rest => .ok (.list d items.reverse,rest)

def readBlockList : Nat → Decoration → List Node → List Lexeme → Except ReadError (Node × List Lexeme)
  | 0,_,_,_ => .error .tooDeep
  | fuel + 1,d,items,.dash :: rest => do
    match rest with
    | .dash :: _ | .blockEnd :: _ => readBlockList fuel d (missing :: items) rest
    | _ =>
      let (item,rest) ← read fuel .block rest
      readBlockList fuel d (item :: items) rest
  | _,d,items,.blockEnd :: rest => .ok (.list d items.reverse,rest)
  | _,_,_,rest => .error (obstacle rest)

def readBlockMap : Nat → Decoration → List (Node × Node) → List Lexeme → Except ReadError (Node × List Lexeme)
  | 0,_,_,_ => .error .tooDeep
  | fuel + 1,d,entries,.key :: rest => do
    let (key,rest) ← if endsEntry rest then pure (missing,rest) else read fuel .entry rest
    match rest with
    | .colon :: rest =>
      let (value,rest) ← if endsEntry rest then pure (missing,rest) else read fuel .entry rest
      readBlockMap fuel d ((key,value) :: entries) rest
    | _ => readBlockMap fuel d ((key,missing) :: entries) rest
  | _,d,entries,.blockEnd :: rest => .ok (.map d entries.reverse,rest)
  | _,_,_,rest => .error (obstacle rest)

def readFlowList : Nat → Decoration → List Node → List Lexeme → Except ReadError (Node × List Lexeme)
  | 0,_,_,_ => .error .tooDeep
  | _,d,items,.flowListEnd :: rest => .ok (.list d items.reverse,rest)
  | fuel + 1,d,items,lexemes => do
    let (item,rest) ← match lexemes with
      | .key :: rest => readPair fuel rest
      | _ => read fuel .flow lexemes
    match rest with
    | .comma :: rest => readFlowList fuel d (item :: items) rest
    | .flowListEnd :: rest => .ok (.list d (item :: items).reverse,rest)
    | _ => .error (obstacle rest)

-- A pair in a bracketed list. The mark before which its key is missing is passed over.
def readPair : Nat → List Lexeme → Except ReadError (Node × List Lexeme)
  | 0,_ => .error .tooDeep
  | fuel + 1,lexemes => do
    let (key,rest) ← match lexemes with
      | .colon :: rest | .comma :: rest | .flowListEnd :: rest => pure (missing,rest)
      | _ => read fuel .flow lexemes
    match rest with
    | .colon :: rest => do
      let (value,rest) ← if endsFlowList rest then pure (missing,rest) else read fuel .flow rest
      return (.map .bare [(key,value)],rest)
    | _ => return (.map .bare [(key,missing)],rest)

def readFlowMap : Nat → Decoration → List (Node × Node) → List Lexeme → Except ReadError (Node × List Lexeme)
  | 0,_,_,_ => .error .tooDeep
  | _,d,entries,.flowMapEnd :: rest => .ok (.map d entries.reverse,rest)
  | fuel + 1,d,entries,lexemes => do
    let (entry,rest) ← readFlowEntry fuel lexemes
    match rest with
    | .comma :: rest => readFlowMap fuel d (entry :: entries) rest
    | .flowMapEnd :: rest => .ok (.map d (entry :: entries).reverse,rest)
    | _ => .error (obstacle rest)

def readFlowEntry : Nat → List Lexeme → Except ReadError ((Node × Node) × List Lexeme)
  | 0,_ => .error .tooDeep
  | fuel + 1,.key :: lexemes => do
    let (key,rest) ← match lexemes with
      | .colon :: _ => pure (missing,lexemes)
      | _ => if endsFlowMap lexemes then pure (missing,lexemes) else read fuel .flow lexemes
    match rest with
    | .colon :: rest => do
      let (value,rest) ← if endsFlowMap rest then pure (missing,rest) else read fuel .flow rest
      return ((key,value),rest)
    | _ => return ((key,missing),rest)
  | fuel + 1,lexemes => do
    let (key,rest) ← read fuel .flow lexemes
    return ((key,missing),rest)

end

end Node

structure Outline where
  handles : List (String × String)
  root : Node

namespace Outline

def handlesFrom (versioned : Bool) (handles : List (String × String)) :
    List Lexeme → Except ReadError (List (String × String) × List Lexeme)
  | .directive (.version major minor) :: rest =>
    if versioned || major != 1 || minor != 1 then .error .badDirective else handlesFrom true handles rest
  | .directive (.handle name meaning) :: rest =>
    if handles.any (·.1 = name) then .error .badDirective
    else handlesFrom versioned (handles ++ [(name,meaning)]) rest
  | rest => .ok (handles ++ Tag.standardHandles,rest)

def endsDocument : List Lexeme → Bool
  | .directive _ :: _ | .documentStart :: _ | .documentEnd :: _ | .streamEnd :: _ => true
  | _ => false

def close (handles : List (String × String)) (lexemes : List Lexeme) : Except ReadError Outline := do
  let (root,rest) ← Node.read (3 * lexemes.length + 3) .block lexemes
  match rest with
  | .fault e :: _ => .error e
  | _ => return ⟨handles,root⟩

-- Only the first document is read, and nothing after its node is looked at.
def ofLexemes (lexemes : List Lexeme) : Except ReadError Outline :=
  match lexemes with
  | .streamEnd :: _ => .ok ⟨[],.missing⟩
  | .directive _ :: _ | .documentStart :: _ => do
    let (handles,rest) ← handlesFrom false [] lexemes
    match rest with
    | .documentStart :: rest => if endsDocument rest then return ⟨handles,.missing⟩ else close handles rest
    | _ => .error (Node.obstacle rest)
  | _ => close Tag.standardHandles lexemes

end Outline

end LexPattern.Document
