import LexPattern.Limit
import LexPattern.Surface.Builder
import LexPattern.Token.Lexer
import LexPattern.Text.Utf8

namespace LexPattern.Surface

open Text (Position)

def defaultDepth : Nat := 1000

def ofTokens (limit : Nat) (tokens : List Token) (eof : Position) : Except Fault Node :=
  let start := match tokens with
    | [] => eof
    | t :: _ => t.pos
  (Builder.new start).run limit eof tokens

def ofChars (limit : Nat) (cs : List Char) : Except Fault Node :=
  ofTokens limit (Token.lex cs) (Position.start.advance cs)

-- The tree of a byte string. Bytes that are not UTF-8 are reported before anything else.
def parse (limit : Int) (pattern : ByteArray) : Except Fault Node :=
  match Text.wellFormed (Text.pieces pattern) with
  | .error (before,b) => .error ⟨Position.start.advance before,.invalidByte b⟩
  | .ok cs => ofChars (inForce defaultDepth limit) cs

end LexPattern.Surface
