import Listing.Token.Basic

/-!
# Programs

A program is a list of numbered lines, a line a list of statements, a statement a list of tokens.
The lines stand in the order in which they are written out, which need not be that of their numbers.
-/

namespace Listing

/-- What stands between two colons. -/
structure Statement where
  content : List Token
  deriving DecidableEq, Repr

namespace Statement

/-- The first token of a statement. -/
def first? (s : Statement) : Option Token := s.content.head?

/-- Whether a statement is a comment. -/
def isRemark (s : Statement) : Bool := s.first?.any Token.isRemark

/-- Whether a statement opens with the keyword `if`. -/
def isIf (s : Statement) : Bool := s.first?.any (·.isKeyword "if".toList)

end Statement

/-- A numbered line of statements. -/
structure Line where
  number : UInt32
  statements : List Statement
  deriving DecidableEq, Repr

namespace Line

/-- Whether one of the statements of a line is a comment. -/
def hasRemark (l : Line) : Bool := l.statements.any Statement.isRemark

end Line

/-- The lines of a program. -/
structure Program where
  lines : List Line
  deriving DecidableEq, Repr

namespace Program

/-- The line numbers of a program, as its lines stand. -/
def lineNumbers (p : Program) : List UInt32 := p.lines.map (·.number)

end Program

end Listing
