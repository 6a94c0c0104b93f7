import LexPattern.Document.Tag

namespace LexPattern.Document

inductive Lexeme where
  | blockListStart
  | blockMapStart
  | blockEnd
  | flowListStart
  | flowListEnd
  | flowMapStart
  | flowMapEnd
  | dash
  | comma
  | key
  | colon
  | aliasOf (name : String)
  | anchor (name : String)
  | tag (tag : Tag)
  -- Unquoted text, which may stand for something other than itself.
  | word (text : String)
  | text (text : String)
  | directive (d : Directive)
  | documentStart
  | documentEnd
  | streamEnd
  | fault (error : ReadError)
deriving DecidableEq, Repr

end LexPattern.Document
