import LexPattern.Text.Position
import LexPattern.Text.Quoted

namespace LexPattern.Surface

open Text (Position quoteChars)

inductive ScalarFault where
  | noDigits
  | badNumeral (digits : List Char) (error : Text.NumeralError)
  | beyondUnicode (digits : List Char)
deriving DecidableEq, Repr

def ScalarFault.message : ScalarFault → String
  | noDigits => "no digits"
  | badNumeral digits .badDigit =>
    "strconv.ParseUint: parsing " ++ quoteChars digits ++ ": invalid syntax"
  | badNumeral digits .tooLarge =>
    "strconv.ParseUint: parsing " ++ quoteChars digits ++ ": value out of range"
  | beyondUnicode digits => String.ofList digits ++ " is beyond the Unicode range"

inductive Cause where
  | invalidByte (b : UInt8)
  | unmatchedClose
  | unexpected (lexeme : List Char)
  | tooDeep (limit : Nat)
  | nothingToRepeat (lexeme : List Char)
  | missingParenthesis (opening : List Char)
  | missingBracket (opening : List Char)
  | unterminatedCondition
  | trailingBackslash
  | malformedEscape (lexeme : List Char)
  | invalidScalar (lexeme : List Char) (fault : ScalarFault)
  | invalidRangeEnd (lexeme : List Char)
deriving DecidableEq, Repr

def Cause.message : Cause → String
  | invalidByte b => "invalid UTF-8 byte 0x" ++ Text.hexLower 1 b.toNat
  | unmatchedClose => "unmatched )"
  | unexpected lexeme => "unexpected " ++ quoteChars lexeme
  | tooDeep limit => "pattern nests deeper than " ++ toString limit ++ " levels"
  | nothingToRepeat lexeme => "quantifier " ++ quoteChars lexeme ++ " has nothing to repeat"
  | missingParenthesis opening => "missing ) for " ++ quoteChars opening
  | missingBracket opening => "missing ] for " ++ quoteChars opening
  | unterminatedCondition => "unterminated condition"
  | trailingBackslash => "trailing backslash"
  | malformedEscape lexeme => "malformed " ++ String.ofList lexeme ++ " escape"
  | invalidScalar lexeme fault => "invalid scalar " ++ quoteChars lexeme ++ ": " ++ fault.message
  | invalidRangeEnd lexeme => "invalid range end " ++ quoteChars lexeme

structure Fault where
  pos : Position
  cause : Cause
deriving DecidableEq, Repr

def Fault.message (file : String) (f : Fault) : String :=
  f.pos.render file ++ ": " ++ f.cause.message

end LexPattern.Surface
