import Listing.Program.Basic
import Listing.Token.Cursor

/-!
# Reading a program

The tokens in front of the first end token are cut into lines at the newlines, and each line into
statements at its colons. A line without tokens is dropped. A line starts with its number; one that
does not, or whose number is too large, keeps all its tokens under number 0.
-/

namespace Listing

/-- The number that a text spells: ASCII digits, behind a plus sign or not, up to 4294967295. -/
def lineNumber? (t : Text) : Option UInt32 :=
  let digits := match t with
    | '+' :: digits => digits
    | t => t
  let n := Nat.ofDigitChars 10 digits 0
  if digits ≠ [] ∧ digits.all Char.isDigit ∧ n < UInt32.size then some (UInt32.ofNat n) else none

/-- How a line opens. -/
inductive Opening where
  /-- With a number, behind which the given tokens stand. -/
  | numbered (number : UInt32) (rest : List Token)
  /-- With digits that are no line number. -/
  | outOfRange (digits : Text)
  /-- With a token that is no number. -/
  | unnumbered (first : Text)
  deriving DecidableEq, Repr

/-- How a line with the given first token opens. -/
def Opening.of (first : Token) (rest : List Token) : Opening :=
  if first.kind = .digit then
    match lineNumber? first.value with
    | some n => .numbered n rest
    | none => .outOfRange first.value
  else .unnumbered first.value

namespace Statement

/-- The statements between the colons of a line. There is always at least one. -/
def ofTokens (tokens : List Token) : List Statement :=
  (tokens.splitOnP (·.kind == .colon)).map Statement.mk

end Statement

namespace Line

/-- The line of the given tokens. -/
def ofTokens (first : Token) (rest : List Token) : Line :=
  match Opening.of first rest with
  | .numbered n rest => ⟨n, Statement.ofTokens rest⟩
  | _ => ⟨0, Statement.ofTokens (first :: rest)⟩

end Line

/-- The tokens of each line, lines without tokens left out. -/
def lineTokens (tokens : List Token) : List (Token × List Token) :=
  let body := tokens.takeWhile (·.kind != .endOfText)
  (body.splitOnP (·.kind == .newline)).filterMap fun
    | [] => none
    | first :: rest => some (first, rest)

namespace Program

/-- The program that the tokens make up. -/
def ofTokens (tokens : List Token) : Program :=
  ⟨(lineTokens tokens).map fun (first, rest) => Line.ofTokens first rest⟩

/-- The program of a source text. -/
def ofText (source : Text) : Program := ofTokens (tokenize source)

end Program

end Listing
