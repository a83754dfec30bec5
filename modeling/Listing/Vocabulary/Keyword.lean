import Listing.Vocabulary.Lookup

/-!
# Keywords

The reserved words of Commodore BASIC V2. A constructor is named for its word; a trailing `$` is
left out of the name, a trailing `#` is spelled out.
-/

namespace Listing

/-- The reserved words. -/
inductive Keyword where
  | ABS | AND | ASC | ATN | CHR | CLOSE | CLR | CMD | CONT | COS | DATA | DEF | DIM | END | EXP
  | FN | FOR | FRE | GET | GETHASH | GOSUB | GOTO | IF | INPUT | INPUTHASH | INT | LEFT | LEN
  | LET | LIST | LOAD | LOG | MID | NEW | NEXT | NOT | ON | OPEN | OR | PEEK | POKE | POS | PRINT
  | PRINTHASH | READ | REM | RESTORE | RETURN | RIGHT | RND | RUN | SAVE | SGN | SIN | SPC | SQR
  | STATUS | STEP | STOP | STR | SYS | TAB | TAN | THEN | TIME | TIMESTR | TO | USR | VAL
  | VERIFY | WAIT
  deriving DecidableEq, Repr

namespace Keyword

/-- Every keyword, in the order of the table of words. -/
def all : List Keyword :=
  [.ABS, .AND, .ASC, .ATN, .CHR, .CLOSE, .CLR, .CMD, .CONT, .COS, .DATA, .DEF, .DIM, .END, .EXP,
    .FN, .FOR, .FRE, .GET, .GETHASH, .GOSUB, .GOTO, .IF, .INPUT, .INPUTHASH, .INT, .LEFT, .LEN,
    .LET, .LIST, .LOAD, .LOG, .MID, .NEW, .NEXT, .NOT, .ON, .OPEN, .OR, .PEEK, .POKE, .POS,
    .PRINT, .PRINTHASH, .READ, .REM, .RESTORE, .RETURN, .RIGHT, .RND, .RUN, .SAVE, .SGN, .SIN,
    .SPC, .SQR, .STATUS, .STEP, .STOP, .STR, .SYS, .TAB, .TAN, .THEN, .TIME, .TIMESTR, .TO, .USR,
    .VAL, .VERIFY, .WAIT]

/-- The word of a keyword, in lower case. -/
def word : Keyword → Text
  | .ABS => "abs".toList
  | .AND => "and".toList
  | .ASC => "asc".toList
  | .ATN => "atn".toList
  | .CHR => "chr$".toList
  | .CLOSE => "close".toList
  | .CLR => "clr".toList
  | .CMD => "cmd".toList
  | .CONT => "cont".toList
  | .COS => "cos".toList
  | .DATA => "data".toList
  | .DEF => "def".toList
  | .DIM => "dim".toList
  | .END => "end".toList
  | .EXP => "exp".toList
  | .FN => "fn".toList
  | .FOR => "for".toList
  | .FRE => "fre".toList
  | .GET => "get".toList
  | .GETHASH => "get#".toList
  | .GOSUB => "gosub".toList
  | .GOTO => "goto".toList
  | .IF => "if".toList
  | .INPUT => "input".toList
  | .INPUTHASH => "input#".toList
  | .INT => "int".toList
  | .LEFT => "left$".toList
  | .LEN => "len".toList
  | .LET => "let".toList
  | .LIST => "list".toList
  | .LOAD => "load".toList
  | .LOG => "log".toList
  | .MID => "mid$".toList
  | .NEW => "new".toList
  | .NEXT => "next".toList
  | .NOT => "not".toList
  | .ON => "on".toList
  | .OPEN => "open".toList
  | .OR => "or".toList
  | .PEEK => "peek".toList
  | .POKE => "poke".toList
  | .POS => "pos".toList
  | .PRINT => "print".toList
  | .PRINTHASH => "print#".toList
  | .READ => "read".toList
  | .REM => "rem".toList
  | .RESTORE => "restore".toList
  | .RETURN => "return".toList
  | .RIGHT => "right$".toList
  | .RND => "rnd".toList
  | .RUN => "run".toList
  | .SAVE => "save".toList
  | .SGN => "sgn".toList
  | .SIN => "sin".toList
  | .SPC => "spc".toList
  | .SQR => "sqr".toList
  | .STATUS => "status".toList
  | .STEP => "step".toList
  | .STOP => "stop".toList
  | .STR => "str$".toList
  | .SYS => "sys".toList
  | .TAB => "tab".toList
  | .TAN => "tan".toList
  | .THEN => "then".toList
  | .TIME => "time".toList
  | .TIMESTR => "time$".toList
  | .TO => "to".toList
  | .USR => "usr".toList
  | .VAL => "val".toList
  | .VERIFY => "verify".toList
  | .WAIT => "wait".toList

/-- Whether a keyword is a function, which takes its arguments in parentheses. -/
def isFunction : Keyword → Bool
  | .ABS | .ASC | .ATN | .CHR | .COS | .EXP | .FN | .FRE | .INT | .LEFT | .LEN | .LOG | .MID
  | .PEEK | .POS | .RIGHT | .RND | .SGN | .SIN | .SPC | .SQR | .STR | .TAB | .TAN | .USR | .VAL => true
  | _ => false

/-- The keyword that a text starts with. -/
def at? (t : Text) : Option Keyword := Vocabulary.longestAt? word t all

/-- The keyword that a text spells from its first to its last character. -/
def ofWord? (w : Text) : Option Keyword :=
  match at? w with
  | some k => if k.word.length = w.length then some k else none
  | none => none

theorem word_ne_nil (k : Keyword) : k.word ≠ [] := by
  cases k <;> decide

theorem beginsWith_of_at? {t : Text} {k : Keyword} (h : at? t = some k) :
    Vocabulary.beginsWith k.word t = true :=
  (Vocabulary.longestAt?_eq_some h).2

end Keyword

end Listing
