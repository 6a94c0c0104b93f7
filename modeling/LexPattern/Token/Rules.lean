import LexPattern.Token.Basic
import LexPattern.Token.Shape

namespace LexPattern.Token

open Shape

structure Rule where
  kind : Kind
  shape : Shape

def isDigit (c : Char) : Bool := '0' ≤ c && c ≤ '9'

def isLetter (c : Char) : Bool := ('a' ≤ c && c ≤ 'z') || ('A' ≤ c && c ≤ 'Z')

def isHex (c : Char) : Bool := isDigit c || ('a' ≤ c && c ≤ 'f') || ('A' ≤ c && c ≤ 'F')

def isNameStart (c : Char) : Bool := isLetter c || c == '_'

def isNamePart (c : Char) : Bool := isNameStart c || isDigit c

namespace Rule

def anyChar : Shape := one fun _ => true

def digit : Shape := one isDigit

def letter : Shape := one isLetter

def hex : Shape := one isHex

def digits : Shape := run isDigit

def letters : Shape := run isLetter

def name : Shape := seq (one isNameStart) (run isNamePart)

def escape (c : Char) : Shape := word ['\\',c]

def delimited (opening : List Char) (close : Char) : Shape := seq (word opening) (closedBy close)

def escapeOf (cs : List Char) : Shape := seq (word ['\\']) (oneOf cs)

def quote : Rule :=
  ⟨.quote,seq (escape 'Q') (either (through ['\\','E']) (run fun _ => true))⟩

def namedChar : Rule := ⟨.namedChar,delimited ['\\','N','{'] '}'⟩

def property : Rule :=
  ⟨.property,seq (escapeOf ['p','P']) (either (delimited ['{'] '}') letter)⟩

def scalar : Rule :=
  ⟨.scalar,firstOf [
    seq (escapeOf ['x','u','o']) (delimited ['{'] '}'),
    inOrder [escape 'x',hex,optional hex],
    inOrder [escape 'u',hex,hex,hex,hex],
    inOrder [escape 'U',hex,hex,hex,hex,hex,hex,hex,hex]]⟩

def metaControl : Rule := ⟨.metaControl,seq (word ['\\','M','-','\\','C','-']) anyChar⟩

def metaKey : Rule := ⟨.metaKey,seq (word ['\\','M','-']) anyChar⟩

def control : Rule :=
  ⟨.control,either (seq (escape 'c') anyChar) (seq (word ['\\','C','-']) anyChar)⟩

def backRef : Rule :=
  ⟨.backRef,firstOf [
    inOrder [word ['\\'],one fun c => '1' ≤ c && c ≤ '9',digits],
    delimited ['\\','k','<'] '>',
    delimited ['\\','k','\''] '\'',
    delimited ['\\','k','{'] '}',
    delimited ['\\','g','{'] '}',
    inOrder [escape 'g',optional (word ['-']),digit,digits]]⟩

def subpatternCall : Rule :=
  ⟨.subpatternCall,either (delimited ['\\','g','<'] '>') (delimited ['\\','g','\''] '\'')⟩

def builtinClass : Rule :=
  ⟨.builtinClass,escapeOf ['d','D','w','W','s','S','h','H','v','V','R','X','N']⟩

def assertion : Rule :=
  ⟨.assertion,escapeOf ['b','B','A','z','Z','G','K','y','Y']⟩

def escaped : Rule := ⟨.escaped,seq (word ['\\']) anyChar⟩

def escapes : List Rule :=
  [quote,namedChar,property,scalar,metaControl,metaKey,control,backRef,subpatternCall,
    builtinClass,assertion,escaped]

def comment : Rule := ⟨.comment,delimited ['(','?','#'] ')'⟩

def callout : Rule := ⟨.callout,delimited ['(','?','C'] ')'⟩

def verb : Rule :=
  ⟨.verb,inOrder [word ['(','*'],run isNameStart,
    optional (seq (word [':']) (run (· != ')'))),word [')']]⟩

def recurse : Rule :=
  ⟨.recurse,inOrder [word ['(','?'],
    firstOf [word ['R'],inOrder [optional (oneOf ['+','-']),digit,digits],
      seq (word ['&']) name,seq (word ['P','>']) name],
    word [')']]⟩

def condOpen : Rule := ⟨.condOpen,word ['(','?','(']⟩

def absentOpen : Rule := ⟨.absentOpen,word ['(','?','~']⟩

def optionsOpen : Rule :=
  ⟨.optionsOpen,inOrder [word ['(','?'],
    firstOf [seq (word ['^']) letters,
      inOrder [letter,letters,optional (seq (word ['-']) letters)],
      inOrder [word ['-'],letter,letters]],
    oneOf [':',')']]⟩

def groupOpen : Rule :=
  ⟨.groupOpen,seq (word ['(']) (optional (seq (word ['?'])
    (firstOf [word [':'],word ['>'],word ['='],word ['!'],word ['<','='],word ['<','!'],
      inOrder [optional (word ['P']),word ['<'],name,word ['>']],
      inOrder [word ['\''],name,word ['\'']]])))⟩

def groupClose : Rule := ⟨.groupClose,word [')']⟩

def interpolation : Rule := ⟨.interpolation,seq (word ['<','{']) (through ['}','>'])⟩

def alt : Rule := ⟨.alt,word ['|']⟩

def modifier : Shape := optional (oneOf ['?','+'])

def quant : Rule := ⟨.quant,seq (oneOf ['*','+','?']) modifier⟩

def count : Rule :=
  ⟨.count,inOrder [word ['{'],
    either (inOrder [digit,digits,optional (seq (word [',']) digits)])
      (inOrder [word [','],digit,digits]),
    word ['}'],modifier]⟩

def dot : Rule := ⟨.dot,word ['.']⟩

def caret : Rule := ⟨.caret,word ['^']⟩

def dollar : Rule := ⟨.dollar,word ['$']⟩

def classOpen : Rule := ⟨.classOpen,seq (word ['[']) (optional (word ['^']))⟩

def classClose : Rule := ⟨.classClose,word [']']⟩

def posix : Rule :=
  ⟨.posix,inOrder [word ['[',':'],optional (word ['^']),letter,letters,word [':',']']]⟩

def setOp : Rule := ⟨.setOp,firstOf [word ['&','&'],word ['-','-'],word ['~','~']]⟩

def dash : Rule := ⟨.dash,word ['-']⟩

-- Rules outside brackets. A character that no rule claims stands for itself.
def outside : List Rule :=
  escapes ++ [comment,callout,verb,recurse,condOpen,absentOpen,optionsOpen,groupOpen,
    groupClose,interpolation,alt,quant,count,dot,caret,dollar,classOpen]

def inside : List Rule :=
  [posix,classOpen,classClose] ++ escapes ++ [setOp,dash]

end Rule

end LexPattern.Token
