import Listing.Vocabulary.Lookup

/-!
# Operators

The operators and punctuation marks that a listing is written with. A colon is not among them: it
ends a statement and is a token of its own kind.
-/

namespace Listing

/-- Operators and punctuation. -/
inductive Operator where
  | comma | plus | minus | star | slash | openParen | closeParen | equals | less | greater
  | notEqual | semicolon | hash
  deriving DecidableEq, Repr

namespace Operator

/-- Every operator. -/
def all : List Operator :=
  [.comma, .plus, .minus, .star, .slash, .openParen, .closeParen, .equals, .less, .greater,
    .notEqual, .semicolon, .hash]

/-- The characters of an operator. -/
def word : Operator → Text
  | .comma => [',']
  | .plus => ['+']
  | .minus => ['-']
  | .star => ['*']
  | .slash => ['/']
  | .openParen => ['(']
  | .closeParen => [')']
  | .equals => ['=']
  | .less => ['<']
  | .greater => ['>']
  | .notEqual => ['<', '>']
  | .semicolon => [';']
  | .hash => ['#']

/-- The operator that a text starts with. -/
def at? (t : Text) : Option Operator := Vocabulary.longestAt? word t all

theorem word_ne_nil (o : Operator) : o.word ≠ [] := by
  cases o <;> simp [word]

end Operator

end Listing
