import Listing.Document.Json
import Listing.Document.Scalar
import Listing.Program.Basic

/-!
# Programs as documents

The tree of a program as a JSON document and as a YAML document. A program is an object with its
lines, a line one with its number and statements, a statement one with its content, and a token one
with its kind and value.
-/

namespace Listing

namespace Token

/-- A token as a JSON object at the given depth. -/
def toJson (depth : Nat) (t : Token) : Text :=
  Json.object depth [("kind", Json.string t.kind.title), ("value", Json.string t.value)]

/-- A token as an item of a YAML sequence. -/
def toYaml (t : Token) : Text :=
  "    - kind: ".toList ++ t.kind.title ++ "\n      value: ".toList ++ Yaml.scalar 8 t.value

end Token

namespace Yaml

/-- The items of a sequence behind the key that it belongs to. -/
def sequence (items : List Text) : Text :=
  match items with
  | [] => " []\n".toList
  | items => '\n' :: items.flatten

end Yaml

namespace Statement

/-- A statement as a JSON object at the given depth. -/
def toJson (depth : Nat) (s : Statement) : Text :=
  Json.object depth
    [("content", Json.array (depth + 1) (s.content.map (Token.toJson (depth + 2))))]

/-- A statement as an item of a YAML sequence. -/
def toYaml (s : Statement) : Text :=
  "  - content:".toList ++ Yaml.sequence (s.content.map Token.toYaml)

end Statement

namespace Line

/-- A line as a JSON object at the given depth. -/
def toJson (depth : Nat) (l : Line) : Text :=
  Json.object depth
    [("number", Text.ofNat l.number.toNat),
      ("statements", Json.array (depth + 1) (l.statements.map (Statement.toJson (depth + 2))))]

/-- A line as an item of a YAML sequence. -/
def toYaml (l : Line) : Text :=
  "- number: ".toList ++ Text.ofNat l.number.toNat ++ "\n  statements:".toList ++
    Yaml.sequence (l.statements.map Statement.toYaml)

end Line

namespace Program

/-- The tree of a program as a JSON document. -/
def toJson (p : Program) : Text :=
  Json.object 0 [("lines", Json.array 1 (p.lines.map (Line.toJson 2)))]

/-- The tree of a program as a YAML document. -/
def toYaml (p : Program) : Text :=
  "lines:".toList ++ Yaml.sequence (p.lines.map Line.toYaml)

end Program

end Listing
