import Listing.Program.Basic
import Listing.Vocabulary.Keyword

/-!
# Explaining lines

An explanation is a remark that says what the statements of a line do. It is put at the end of every
line that holds no remark yet and has a statement with something to say about it.
-/

namespace Listing

namespace Keyword

/-- What a statement that opens with a keyword does. -/
def description? : Keyword → Option String
  | .CLOSE => "close a file"
  | .CLR => "clear all variables"
  | .CMD => "redirect output to a file"
  | .CONT => "continue after stop"
  | .DATA => "inline data"
  | .DEF => "define a function"
  | .DIM => "declare an array"
  | .END => "end of program"
  | .FOR => "start a loop"
  | .GET => "read a key"
  | .GETHASH => "read a byte from a file"
  | .GOSUB => "call subroutine"
  | .GOTO => "jump"
  | .IF => "conditional"
  | .INPUT => "read user input"
  | .INPUTHASH => "read from a file"
  | .LET => "assign a variable"
  | .LIST => "list the program"
  | .LOAD => "load from device"
  | .NEW => "clear the program"
  | .NEXT => "end of loop"
  | .ON => "computed jump"
  | .OPEN => "open a file"
  | .POKE => "write a byte to memory"
  | .PRINT => "print to screen"
  | .PRINTHASH => "print to a file"
  | .READ => "read the next data item"
  | .RESTORE => "reset the data pointer"
  | .RETURN => "return from subroutine"
  | .RUN => "run the program"
  | .SAVE => "save to device"
  | .STOP => "halt the program"
  | .SYS => "call machine code"
  | .VERIFY => "verify a saved program"
  | .WAIT => "wait for a memory location"
  | _ => none

/-- Whether the number behind a keyword is a line to go to. -/
def takesLine : Keyword → Bool
  | .GOTO | .GOSUB | .RUN | .LIST => true
  | _ => false

/-- What is said of the line to go to, the tokens behind the keyword being given. -/
def target (k : Keyword) : List Token → Text
  | t :: _ => if k.takesLine && t.kind == .digit then " to line ".toList ++ t.value else []
  | [] => []

end Keyword

namespace Statement

/-- What a statement does, judged by its first word and the line number behind it. -/
def description? (s : Statement) : Option Text :=
  match s.content with
  | [] => none
  | first :: behind =>
    if first.kind = .keyword then
      (Keyword.ofWord? first.value).bind fun k =>
        k.description?.map fun description => description.toList ++ k.target behind
    else none

end Statement

namespace Line

/-- The remark that explains a line, if there is one to be put at its end. -/
def explanation? (l : Line) : Option Statement :=
  if l.hasRemark then none
  else
    match l.statements.filterMap Statement.description? with
    | [] => none
    | descriptions =>
      some ⟨[⟨.keyword, "rem ".toList ++ "; ".toList.intercalate descriptions⟩]⟩

/-- A line with its explanation. -/
def explain (l : Line) : Line :=
  { l with statements := l.statements ++ l.explanation?.toList }

end Line

namespace Program

/-- The program with its lines explained. -/
def explain (p : Program) : Program := ⟨p.lines.map Line.explain⟩

end Program

end Listing
