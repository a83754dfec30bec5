import Listing.Text.Basic

/-!
# JSON

The layout of a JSON document: every member of an array or object on a line of its own, two spaces
deeper than the brackets around it. The members are given as texts that are laid out already.
-/

namespace Listing.Json

/-- A hexadecimal digit. -/
def hexDigit (n : Nat) : Char := Nat.digitChar n

/-- A character inside a string. -/
def escape (c : Char) : Text :=
  match c with
  | '"' => ['\\', '"']
  | '\\' => ['\\', '\\']
  | '\n' => ['\\', 'n']
  | '\r' => ['\\', 'r']
  | '\t' => ['\\', 't']
  | '\x08' => ['\\', 'b']
  | '\x0c' => ['\\', 'f']
  | c =>
    if c.toNat < 32 then ['\\', 'u', '0', '0', hexDigit (c.toNat / 16), hexDigit (c.toNat % 16)]
    else [c]

/-- A string in its quotes. -/
def string (t : Text) : Text := '"' :: t.flatMap escape ++ ['"']

/-- The space in front of a line at the given depth. -/
def indent (depth : Nat) : Text := Text.spaces (2 * depth)

/-- Members between brackets. -/
def enclose (opening closing : Char) (depth : Nat) : List Text → Text
  | [] => [opening, closing]
  | members =>
    opening :: '\n' ::
      [',', '\n'].intercalate (members.map (indent (depth + 1) ++ ·)) ++
        '\n' :: indent depth ++ [closing]

/-- An array whose brackets stand at the given depth. -/
def array (depth : Nat) (items : List Text) : Text := enclose '[' ']' depth items

/-- An object whose braces stand at the given depth. -/
def object (depth : Nat) (fields : List (String × Text)) : Text :=
  enclose '\x7b' '\x7d' depth (fields.map fun (key, value) => string key.toList ++ ':' :: ' ' :: value)

end Listing.Json
