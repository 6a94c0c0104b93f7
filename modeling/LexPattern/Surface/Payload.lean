import LexPattern.Surface.Fault
import LexPattern.Surface.Tree
import LexPattern.Text.Blank
import LexPattern.Token.Basic

namespace LexPattern.Surface

def trim (set : List Char) (cs : List Char) : List Char :=
  ((cs.dropWhile set.contains).reverse.dropWhile set.contains).reverse

def inner (front back : Nat) (cs : List Char) : List Char := (cs.drop front).take (cs.length - front - back)

def controlEscape? : Char → Option CodePoint
  | 'n' => some 0x0A
  | 't' => some 0x09
  | 'r' => some 0x0D
  | 'f' => some 0x0C
  | 'a' => some 0x07
  | 'e' => some 0x1B
  | '0' => some 0x00
  | _ => none

-- Letters that start an escape with a syntax of its own. As a plain escape, that syntax is missing.
def introducers : List Char := ['x','u','U','o','c','C','M','N','p','P','k','g']

def readScalar (base : Nat) (digits : List Char) : Except ScalarFault CodePoint :=
  match Text.readNumeral base Text.greatestWord digits with
  | .error e => .error (.badNumeral digits e)
  | .ok n => if CodePoint.greatest < n then .error (.beyondUnicode digits) else .ok n

def readScalars (lexeme : List Char) : Except ScalarFault (List CodePoint) :=
  let base := if lexeme[1]? = some 'o' then 8 else 16
  let body := lexeme.drop 2
  let body := if body.head? = some '{' then inner 1 1 body else body
  match Text.fields body with
  | [] => .error .noDigits
  | fields => fields.mapM (readScalar base)

def firstChar (cs : List Char) : CodePoint := .ofChar (cs.headD (Char.ofNat 0xFFFD))

def lastChar (cs : List Char) : CodePoint := .ofChar (cs.getLastD (Char.ofNat 0xFFFD))

def atomKind (t : Token) : Except Cause AtomKind :=
  let name (cs : List Char) := String.ofList cs
  match t.kind with
  | .char => if t.lexeme = ['\\'] then .error .trailingBackslash else .ok (.char (firstChar t.lexeme))
  | .escaped =>
    let c := (t.lexeme.drop 1).headD (Char.ofNat 0xFFFD)
    if introducers.contains c then .error (.malformedEscape t.lexeme)
    else .ok (.escaped ((controlEscape? c).getD (.ofChar c)))
  | .scalar =>
    match readScalars t.lexeme with
    | .error fault => .error (.invalidScalar t.lexeme fault)
    | .ok [c] => .ok (.scalar c)
    | .ok cs => .ok (.scalarSequence cs)
  | .namedChar => .ok (.namedCharacter (name (inner 3 1 t.lexeme)))
  | .property => .ok (.property (name (trim ['{','}'] (t.lexeme.drop 2))))
  | .posix => .ok (.property (name (inner 2 2 t.lexeme)))
  | .control => .ok (.keyboardControl (lastChar t.lexeme))
  | .metaKey => .ok (.keyboardMeta (lastChar t.lexeme))
  | .metaControl => .ok (.keyboardMetaControl (lastChar t.lexeme))
  | .backRef =>
    let body := (t.lexeme.drop 1).dropWhile ['k','g'].contains
    .ok (.backreference (name (trim ['<','>','\'','{','}'] body)))
  | .subpatternCall => .ok (.subpattern (name (trim ['<','>','\''] (t.lexeme.drop 2))))
  | .builtinClass => .ok .builtinClass
  | .assertion => .ok .assertion
  | _ => .error (.unexpected t.lexeme)

def atomOf (t : Token) (kind : AtomKind) : Atom := ⟨t.span,kind,t.text⟩

def readAtom (t : Token) : Except Cause Atom := (atomKind t).map (atomOf t)

def quotedText (lexeme : List Char) : String :=
  let body := if ['\\','Q'].isPrefixOf lexeme then lexeme.drop 2 else lexeme
  String.ofList (if ['\\','E'].isSuffixOf body then body.take (body.length - 2) else body)

def readCount (digits : List Char) : Count :=
  match Text.readNumeral 10 Text.greatestInteger digits with
  | .ok n => some n
  | .error _ => none

def readBounds (body : List Char) : Amount :=
  let lo := body.takeWhile (· != ',')
  match body.dropWhile (· != ',') with
  | [] => .exactly (readCount lo)
  | _ :: hi =>
    if lo.isEmpty then .atMost (readCount hi)
    else if hi.isEmpty then .atLeast (readCount lo)
    else .between (readCount lo) (readCount hi)

def readAmount : List Char → Amount × List Char
  | '*' :: rest => (.zeroOrMore,rest)
  | '+' :: rest => (.oneOrMore,rest)
  | '?' :: rest => (.zeroOrOne,rest)
  | lexeme =>
    let body := lexeme.drop 1
    (readBounds (body.takeWhile (· != '}')),(body.dropWhile (· != '}')).drop 1)

def readGreed : List Char → Greed
  | ['?'] => .reluctant
  | ['+'] => .possessive
  | _ => .eager

def readGroupKind (lexeme : List Char) : GroupKind :=
  match lexeme with
  | ['('] => .capture
  | ['(','?',':'] => .nonCapture
  | ['(','?','>'] => .atomic
  | ['(','?','='] => .lookahead
  | ['(','?','!'] => .negativeLookahead
  | ['(','?','<','='] => .lookbehind
  | ['(','?','<','!'] => .negativeLookbehind
  | _ => .named (String.ofList (inner 1 1 (lexeme.dropWhile ['(','?','P'].contains)))

def readSetOp : List Char → SetOp
  | ['&','&'] => .intersection
  | ['~','~'] => .symmetricDifference
  | _ => .subtraction

end LexPattern.Surface
