import Listing.Program.Basic
import Listing.Text.Blank
import Listing.Vocabulary.Keyword

/-!
# Writing a listing

A line is written as its number, a space, and its statements with the separator between them;
blanks at its end are left out. The tokens of a statement stand one space apart, except inside
parentheses, in front of a comma, a semicolon or a closing parenthesis, and between a name or
function and its opening parenthesis.
-/

namespace Listing

/-- How a listing is written. -/
structure RenderOptions where
  /-- What stands between two statements. -/
  separator : Text
  /-- Whether keywords are written in upper case. -/
  uppercase : Bool
  deriving DecidableEq, Repr

/-- Statements are separated by a colon and keywords written in lower case. -/
def RenderOptions.default : RenderOptions := ⟨[':'], false⟩

namespace Token

/-- The text of a token. Of a remark only the word itself changes its case. -/
def render (options : RenderOptions) (t : Token) : Text :=
  if t.kind ≠ .keyword ∨ ¬ options.uppercase then t.value
  else if t.isRemark then Text.toUpper (t.value.take 3) ++ t.value.drop 3
  else Text.toUpper t.value

/-- Whether a parenthesis behind a token opens its arguments. -/
def isCallable (t : Token) : Bool :=
  match t.kind with
  | .name => true
  | .keyword => (Keyword.ofWord? t.value).any Keyword.isFunction
  | _ => false

/-- Whether a space stands between two tokens. -/
def needsSpace (previous next : Token) : Bool :=
  if previous.isSymbol ['('] then false
  else if next.isSymbol [','] || next.isSymbol [';'] || next.isSymbol [')'] then false
  else if next.isSymbol ['('] then !previous.isCallable
  else true

end Token

namespace Statement

/-- The text of the tokens behind `previous`. -/
def renderBehind (options : RenderOptions) (previous : Token) : List Token → Text
  | [] => []
  | t :: tokens =>
    (if previous.needsSpace t then [' '] else []) ++ t.render options ++
      renderBehind options t tokens

/-- The text of a statement. -/
def render (options : RenderOptions) (s : Statement) : Text :=
  match s.content with
  | [] => []
  | t :: tokens => t.render options ++ renderBehind options t tokens

end Statement

namespace Line

/-- The text of a line, without its line ending. -/
def render (options : RenderOptions) (l : Line) : Text :=
  Text.trimBlankEnd
    (Text.ofNat l.number.toNat ++
      ' ' :: options.separator.intercalate (l.statements.map (Statement.render options)))

end Line

namespace Program

/-- The listing of a program. Every line ends in a line feed. -/
def render (options : RenderOptions) (p : Program) : Text :=
  p.lines.flatMap fun l => l.render options ++ ['\n']

end Program

end Listing
