import LexPattern.Text.Position

namespace LexPattern

inductive Token.Kind where
  | quote
  | namedChar
  | property
  | scalar
  | metaControl
  | metaKey
  | control
  | backRef
  | subpatternCall
  | builtinClass
  | assertion
  | escaped
  | comment
  | callout
  | verb
  | recurse
  | condOpen
  | absentOpen
  | optionsOpen
  | groupOpen
  | groupClose
  | interpolation
  | alt
  | quant
  | count
  | dot
  | caret
  | dollar
  | classOpen
  | classClose
  | posix
  | setOp
  | dash
  | char
deriving DecidableEq, Repr

namespace Token.Kind

def label : Kind → String
  | quote => "Quote"
  | namedChar => "NamedChar"
  | property => "Property"
  | scalar => "Scalar"
  | metaControl => "MetaControl"
  | metaKey => "Meta"
  | control => "Control"
  | backRef => "BackRef"
  | subpatternCall => "SubpatternCall"
  | builtinClass => "BuiltinClass"
  | assertion => "Assertion"
  | escaped => "Escaped"
  | comment => "Comment"
  | callout => "Callout"
  | verb => "Verb"
  | recurse => "Recurse"
  | condOpen => "CondOpen"
  | absentOpen => "AbsentOpen"
  | optionsOpen => "OptionsOpen"
  | groupOpen => "GroupOpen"
  | groupClose => "GroupClose"
  | interpolation => "Interpolation"
  | alt => "Alt"
  | quant => "Quant"
  | count => "Count"
  | dot => "Dot"
  | caret => "Caret"
  | dollar => "Dollar"
  | classOpen => "ClassOpen"
  | classClose => "ClassClose"
  | posix => "Posix"
  | setOp => "SetOp"
  | dash => "Dash"
  | char => "Char"

end Token.Kind

structure Token where
  kind : Token.Kind
  lexeme : List Char
  pos : Text.Position
deriving DecidableEq, Repr

namespace Token

def stop (t : Token) : Text.Position := t.pos.advance t.lexeme

def span (t : Token) : Text.Span := ⟨t.pos,t.stop⟩

def text (t : Token) : String := String.ofList t.lexeme

end Token

end LexPattern
