import Listing.Text.Digits

/-!
# YAML scalars

A string in a YAML document is written plain where it can be, else in single quotes, else in double
quotes. A string with a line feed is written as a literal block if possible. This module decides the
style of a string and writes it.
-/

namespace Listing.Yaml

/-! ## Characters -/

/-- Whether a character breaks a line. -/
def isBreak (c : Char) : Bool :=
  c == '\n' || c == '\r' || c == '\u0085' || c == '\u2028' || c == '\u2029'

/-- Whether a character is a space, a tab, a line break or NUL. -/
def isSeparator (c : Char) : Bool := c == ' ' || c == '\t' || c == '\x00' || isBreak c

/-- Whether a character may be written as it is. -/
def isPrintable (c : Char) : Bool :=
  let n := c.toNat
  n == 0x0A || (0x20 ≤ n && n ≤ 0x7E) || (0xA0 ≤ n && n ≤ 0xFFFD && n != 0xFEFF) || 0x10000 ≤ n

/-- Whether a character of one class stands right in front of one of another. -/
def isFollowed (p q : Char → Bool) : Text → Bool
  | c :: d :: t => (p c && q d) || isFollowed p q (d :: t)
  | _ => false

/-! ## Strings that read as something else -/

/-- A text without one sign at its start. -/
def dropSign : Text → Text
  | '+' :: t => t
  | '-' :: t => t
  | t => t

/-- Whether a text is a number with a mark for its base, of at most 128 bits, sign included. -/
def isBasedNumber (t : Text) : Bool :=
  match dropSign t with
  | '0' :: mark :: digits =>
    match (Text.baseOfMark? mark).bind (Text.inBase? · digits) with
    | some n => if t.head? = some '-' then n ≤ Nat.pow 2 127 else n < Nat.pow 2 128
    | none => false
  | _ => false

/-- Whether a text is digits behind a leading zero, with a sign or not. -/
def isZeroLed (t : Text) : Bool :=
  match dropSign t with
  | '0' :: c :: digits => (c :: digits).all Char.isDigit
  | _ => false

/-- The first number that is too large for double precision: it lies halfway between the largest
    such number and `2^1024`. -/
def firstInfinite : Nat := Nat.pow 2 1024 - Nat.pow 2 970

/-- Whether `m · 10^e` rounds to a finite number of double precision, where `m` has at most
    `digits` digits. -/
def isFinite (m : Nat) (e : Int) (digits : Nat) : Bool :=
  if m = 0 || e + digits ≤ 308 then true
  else if 0 ≤ e then e ≤ 400 && m * Nat.pow 10 e.toNat < firstInfinite
  else m < firstInfinite * Nat.pow 10 (-e).toNat

/-- The exponent behind a mantissa: none is zero, and `e` or `E` needs digits behind it. -/
def exponent? : Text → Option Int
  | [] => some 0
  | c :: t =>
    if c = 'e' ∨ c = 'E' then
      let digits := dropSign t
      if digits ≠ [] ∧ digits.all Char.isDigit then
        let n : Int := Nat.ofDigitChars 10 digits 0
        some (if t.head? = some '-' then -n else n)
      else none
    else none

/-- Whether a text is a finite decimal number: digits with or without a point among them, a sign in
    front or not, an exponent behind or not. -/
def isDecimal (t : Text) : Bool :=
  let t := dropSign t
  let whole := t.takeWhile Char.isDigit
  let (fraction, behind) := match t.dropWhile Char.isDigit with
    | '.' :: t => (t.takeWhile Char.isDigit, t.dropWhile Char.isDigit)
    | t => ([], t)
  let digits := whole ++ fraction
  match digits, exponent? behind with
  | [], _ => false
  | _, none => false
  | digits, some e =>
    isFinite (Nat.ofDigitChars 10 digits 0) (e - fraction.length)
      (digits.dropWhile (· == '0')).length

/-- The words for null, the truth values and the numbers that are not finite. -/
def reservedWords : List Text :=
  ["", "~", "null", "Null", "NULL", "true", "True", "TRUE", "false", "False", "FALSE",
    ".inf", ".Inf", ".INF", "+.inf", "+.Inf", "+.INF", "-.inf", "-.Inf", "-.INF",
    ".nan", ".NaN", ".NAN"].map String.toList

/-- Whether a plain scalar would be read as something else than a string. -/
def readsAsOther (t : Text) : Bool :=
  reservedWords.contains t || isBasedNumber t || isZeroLed t || isDecimal t

/-! ## Styles -/

/-- The ways to write a string. -/
inductive Style where
  | plain | singleQuoted | doubleQuoted | literal
  deriving DecidableEq, Repr

/-- Whether a text starts with a separator or is empty. -/
def separatorOrEnd (t : Text) : Bool := t.head?.all isSeparator

/-- Whether the start of a text has a meaning of its own in a document. -/
def startsWithIndicator : Text → Bool
  | [] => false
  | c :: t =>
    "#,[]\x7b\x7d&*!|>'\"%@`".toList.contains c || (['-', '?', ':'].contains c && separatorOrEnd t) ||
      "---".toList.isPrefixOf (c :: t) || "...".toList.isPrefixOf (c :: t)

/-- Whether a colon or a number sign in a text ends a key or starts a comment. -/
def holdsIndicator : Text → Bool
  | [] => false
  | c :: t =>
    (c == ':' && separatorOrEnd t) || (isSeparator c && t.head? == some '#') || holdsIndicator t

/-- Whether a string can be written without quotes. -/
def isPlain (t : Text) : Bool :=
  t.all isPrintable && !t.any isBreak && t.head? != some ' ' && t.getLast? != some ' ' &&
    !startsWithIndicator t && !holdsIndicator t

/-- Whether a string can be written in single quotes. -/
def isSingleQuoted (t : Text) : Bool :=
  t.all isPrintable && !isFollowed (· == ' ') isBreak t && !isFollowed isBreak (· == ' ') t

/-- Whether a string can be written as a literal block. -/
def isLiteral (t : Text) : Bool :=
  t.all isPrintable && !isFollowed (· == ' ') isBreak t && t.getLast? != some ' '

/-- The style of a string. -/
def style (t : Text) : Style :=
  if t.contains '\n' then if isLiteral t then .literal else .doubleQuoted
  else if readsAsOther t then .singleQuoted
  else if isPlain t then .plain
  else if isSingleQuoted t then .singleQuoted
  else .doubleQuoted

/-! ## Writing -/

/-- A character in double quotes. -/
def escape (c : Char) : Text :=
  match c with
  | '\x00' => ['\\', '0']
  | '\x07' => ['\\', 'a']
  | '\x08' => ['\\', 'b']
  | '\t' => ['\\', 't']
  | '\n' => ['\\', 'n']
  | '\x0b' => ['\\', 'v']
  | '\x0c' => ['\\', 'f']
  | '\r' => ['\\', 'r']
  | '\x1b' => ['\\', 'e']
  | '"' => ['\\', '"']
  | '\\' => ['\\', '\\']
  | '\u0085' => ['\\', 'N']
  | '\u2028' => ['\\', 'L']
  | '\u2029' => ['\\', 'P']
  | c =>
    if isPrintable c then [c]
    else if c.toNat ≤ 0xFF then '\\' :: 'x' :: Text.hex 2 c.toNat
    else if c.toNat ≤ 0xFFFF then '\\' :: 'u' :: Text.hex 4 c.toNat
    else '\\' :: 'U' :: Text.hex 8 c.toNat

/-- A string in double quotes. -/
def doubleQuoted (t : Text) : Text := '"' :: t.flatMap escape ++ ['"']

/-- The inside of single quotes: a quote is written twice, and the text goes on `indent` spaces deep
    behind line breaks. -/
def singleQuotedTail (indent : Nat) : (broken : Bool) → Text → Text
  | broken, [] => if broken then Text.spaces indent else []
  | broken, c :: t =>
    if isBreak c then c :: singleQuotedTail indent true t
    else
      (if broken then Text.spaces indent else []) ++ (if c = '\'' then ['\'', '\''] else [c]) ++
        singleQuotedTail indent false t

/-- A string in single quotes. -/
def singleQuoted (indent : Nat) (t : Text) : Text :=
  '\'' :: singleQuotedTail indent false t ++ ['\'']

/-- The lines of a block, `indent` spaces deep where they are not empty. -/
def blockLines (indent : Nat) : (fresh : Bool) → Text → Text
  | _, [] => []
  | fresh, c :: t =>
    if isBreak c then c :: blockLines indent true t
    else (if fresh then Text.spaces indent else []) ++ c :: blockLines indent false t

/-- The mark behind the bar of a literal block that says which of its last line breaks count. -/
def chomping (t : Text) : Text :=
  match t.reverse with
  | [] => ['-']
  | [c] => if isBreak c then ['+'] else ['-']
  | c :: d :: _ => if !isBreak c then ['-'] else if isBreak d then ['+'] else []

/-- A string as a literal block. A block that does not end in a line break gets a line feed. -/
def literal (indent : Nat) (t : Text) : Text :=
  let depth := if t.head?.any (fun c => c == ' ' || isBreak c) then ['2'] else []
  let ending := if t.getLast?.any isBreak then [] else ['\n']
  '|' :: depth ++ chomping t ++ '\n' :: blockLines indent true t ++ ending

/-- A string as the value behind a key, with its line ending. What does not fit on the line of the
    key is written `indent` spaces deep. -/
def scalar (indent : Nat) (t : Text) : Text :=
  match style t with
  | .plain => t ++ ['\n']
  | .singleQuoted => singleQuoted indent t ++ ['\n']
  | .doubleQuoted => doubleQuoted t ++ ['\n']
  | .literal => literal indent t

end Listing.Yaml
