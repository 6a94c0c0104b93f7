import LexPattern.CharClass
import LexPattern.Text.Quoted

namespace LexPattern.Core

inductive Expr where
  | empty
  | literal (codes : List CodePoint)
  | charClass (c : CharClass)
  | group (child : Expr)
  | concat (children : List Expr)
  | alternation (children : List Expr)
  -- `most` is absent when there is no upper limit.
  | repetition (least : Int) (most : Option Int) (eager : Bool) (child : Expr)
deriving Inhabited, Repr

def unbounded : Int := -1

def upperBound (most : Int) : Option Int := if most = unbounded then none else some most

namespace Expr

def renderRepetition (least : Int) (most : Option Int) (eager : Bool) (child : String) : String :=
  "rep\x7b" ++ toString least ++ "," ++ ((most.map toString).getD "") ++ "\x7d"
    ++ (if eager then "" else "?") ++ "(" ++ child ++ ")"

mutual

def renderWith (printable : Char → Bool) : Expr → String
  | empty => "empty"
  | literal codes =>
    let pieces := Text.charPieces (codes.map CodePoint.toChar)
    "lit(" ++ String.ofList (Text.quoteWith printable '"' pieces) ++ ")"
  | charClass c => "class" ++ c.render
  | group child => "group(" ++ child.renderWith printable ++ ")"
  | concat children => "concat(" ++ ", ".intercalate (renderAll printable children) ++ ")"
  | alternation children => "alt(" ++ ", ".intercalate (renderAll printable children) ++ ")"
  | repetition least most eager child =>
    renderRepetition least most eager (child.renderWith printable)

def renderAll (printable : Char → Bool) : List Expr → List String
  | [] => []
  | e :: es => e.renderWith printable :: renderAll printable es

end

def render : Expr → String := renderWith Text.isGraphic

mutual

def equal : Expr → Expr → Bool
  | empty,empty => true
  | literal a,literal b => a == b
  | charClass c,charClass d => c == d
  | group a,group b => a.equal b
  | concat as,concat bs => equalAll as bs
  | alternation as,alternation bs => equalAll as bs
  | repetition l₁ m₁ e₁ a,repetition l₂ m₂ e₂ b => l₁ == l₂ && m₁ == m₂ && e₁ == e₂ && a.equal b
  | _,_ => false

def equalAll : List Expr → List Expr → Bool
  | [],[] => true
  | a :: as,b :: bs => a.equal b && equalAll as bs
  | _,_ => false

end

mutual

def walk (enter : Expr → Bool) : Expr → List Expr
  | group child => group child :: if enter (group child) then child.walk enter else []
  | concat children =>
    concat children :: if enter (concat children) then walkAll enter children else []
  | alternation children =>
    alternation children :: if enter (alternation children) then walkAll enter children else []
  | repetition least most eager child =>
    repetition least most eager child ::
      if enter (repetition least most eager child) then child.walk enter else []
  | e => [e]

def walkAll (enter : Expr → Bool) : List Expr → List Expr
  | [] => []
  | e :: es => e.walk enter ++ walkAll enter es

end

end Expr

end LexPattern.Core
