import Listing.Text.Basic

/-!
# Tokens

A token is a kind and the text that belongs to it. A remark is one keyword token: its value is the
word `rem` with the comment behind it.
-/

namespace Listing

/-- The kinds of token. -/
inductive TokenKind where
  | digit | colon | keyword | symbol | string | newline | name | endOfText
  deriving DecidableEq, Repr

namespace TokenKind

/-- The name of a kind in a listing of tagged tokens. -/
def label : TokenKind → Text
  | .digit => "digit".toList
  | .colon => "colon".toList
  | .keyword => "keyword".toList
  | .symbol => "symbol".toList
  | .string => "string".toList
  | .newline => "newline".toList
  | .name => "name".toList
  | .endOfText => "end".toList

/-- The name of a kind in a structured document. -/
def title : TokenKind → Text
  | .digit => "Digit".toList
  | .colon => "Colon".toList
  | .keyword => "Keyword".toList
  | .symbol => "Symbol".toList
  | .string => "String".toList
  | .newline => "NewLine".toList
  | .name => "Name".toList
  | .endOfText => "End".toList

end TokenKind

/-- A piece of a listing: what it is and how it reads. -/
structure Token where
  kind : TokenKind
  value : Text
  deriving DecidableEq, Repr

namespace Token

/-- The token of a line ending. -/
def newline : Token := ⟨.newline, ['\n']⟩

/-- The token that stands behind the last character. -/
def endOfText : Token := ⟨.endOfText, []⟩

/-- Whether a token is a comment. -/
def isRemark (t : Token) : Bool := t.kind == .keyword && "rem".toList.isPrefixOf t.value

/-- Whether a token is the keyword `w`, given in lower case. -/
def isKeyword (t : Token) (w : Text) : Bool := t.kind == .keyword && t.value == w

/-- Whether a token is the symbol `s`. -/
def isSymbol (t : Token) (s : Text) : Bool := t.kind == .symbol && t.value == s

/-- A token with its kind, such as `<keyword:print>`. The ends of lines and of the text show the
    kind alone. -/
def tagged (t : Token) : Text :=
  match t.kind with
  | .newline | .endOfText => '<' :: t.kind.label ++ ['>']
  | _ => '<' :: t.kind.label ++ ':' :: t.value ++ ['>']

end Token

end Listing
