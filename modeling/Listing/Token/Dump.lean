import Listing.Document.Json
import Listing.Program.Document
import Listing.Token.Basic

/-!
# Token dumps

Tokens can be written out before they are made into a program: with their kinds, one line of the
source to a line, or as a JSON document.
-/

namespace Listing

/-- The formats of a token dump. -/
inductive TokenFormat where
  | tagged | json
  deriving DecidableEq, Repr

namespace TokenFormat

/-- The name of the dump of tagged tokens. -/
def taggedName : Text := "tokens-simple".toList

/-- The name of the JSON dump. -/
def jsonName : Text := "tokens-json".toList

/-- The format with the given name. -/
def ofName? (name : Text) : Option TokenFormat :=
  if name = taggedName then some .tagged
  else if name = jsonName then some .json
  else none

/-- Tokens in the given format. -/
def write : TokenFormat → List Token → Text
  | .tagged, tokens =>
    tokens.flatMap fun t =>
      t.tagged ++ (if t.kind = .newline ∨ t.kind = .endOfText then ['\n'] else [])
  | .json, tokens => Json.array 0 (tokens.map (Token.toJson 1))

end TokenFormat

end Listing
