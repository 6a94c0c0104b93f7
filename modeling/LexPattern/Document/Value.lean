import LexPattern.Document.Scalar

namespace LexPattern.Document

inductive Value where
  | scalar (s : Scalar)
  | list (items : List Value)
  | map (entries : List (Scalar × Value))
deriving Inhabited

def Value.null : Value := .scalar .null

inductive ReadError where
  | notText
  | unclosedQuote
  | badEscape
  | badHeader
  | badName
  | badTag
  | badDirective
  | tabIndentation
  | missingColon
  | misplaced
  | unknownAnchor
  | unknownHandle
  | wrongKind
  | badMerge
  | collectionKey
  | duplicateKey
  | tooDeep
deriving DecidableEq, Repr

def ReadError.message : ReadError → String
  | notText => "the document is not readable as text"
  | unclosedQuote => "a quoted scalar is not closed"
  | badEscape => "a quoted scalar holds an unknown escape"
  | badHeader => "a block scalar has a bad first line"
  | badName => "an anchor has a bad name"
  | badTag => "a tag is not well formed"
  | badDirective => "a directive is not well formed"
  | tabIndentation => "a tab is used for indentation"
  | missingColon => "a key has no colon"
  | misplaced => "a construct stands where it is not allowed"
  | unknownAnchor => "an alias names no finished node"
  | unknownHandle => "a tag has an unknown handle"
  | wrongKind => "a scalar is not of the kind its tag names"
  | badMerge => "only maps can be merged"
  | collectionKey => "a map key is a collection"
  | duplicateKey => "a map key is given twice"
  | tooDeep => "the document nests too deep"

end LexPattern.Document
