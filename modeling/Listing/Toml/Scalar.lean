import Listing.Text.Digits
import Listing.Toml.Value

/-!
# TOML scalars

Strings, numbers, truth values, and dates and times. A string is read behind its opening quotes and
gives back the text behind its closing ones. All other scalars are single words.
-/

namespace Listing.Toml

/-- Whether a character may stand in a comment or in a string of one line. -/
def isTextChar (c : Char) : Bool := c == '\t' || (32 ≤ c.toNat && c.toNat != 127)

/-- Whether a character is a space or tab. -/
def isGap (c : Char) : Bool := c == ' ' || c == '\t'

/-! ## Strings -/

/-- The character that a letter behind a backslash stands for. -/
def escaped? : Char → Option Char
  | 'b' => some '\x08'
  | 't' => some '\t'
  | 'n' => some '\n'
  | 'f' => some '\x0c'
  | 'r' => some '\r'
  | '"' => some '"'
  | '\\' => some '\\'
  | _ => none

/-- The character with the given code point in hexadecimal digits. -/
def ofCodePoint? (digits : Text) : Option Char := do
  let n ← Text.inBase? 16 digits
  if n.isValidChar then some (Char.ofNat n) else none

/-- Puts a character in front of a string that is read. -/
def prepend (c : Option Char) (string : Option (Text × Text)) : Option (Text × Text) :=
  match c, string with
  | some c, some (t, rest) => some (c :: t, rest)
  | _, _ => none

/-- A string in double quotes. -/
def basicString : Text → Option (Text × Text)
  | [] => none
  | '"' :: t => some ([], t)
  | '\\' :: 'u' :: a :: b :: c :: d :: t => prepend (ofCodePoint? [a, b, c, d]) (basicString t)
  | '\\' :: 'U' :: a :: b :: c :: d :: e :: f :: g :: h :: t =>
    prepend (ofCodePoint? [a, b, c, d, e, f, g, h]) (basicString t)
  | '\\' :: c :: t => prepend (escaped? c) (basicString t)
  | c :: t => if isTextChar c then prepend (some c) (basicString t) else none

/-- A string in single quotes. -/
def literalString (t : Text) : Option (Text × Text) :=
  let inside := fun c : Char => isTextChar c && c != '\''
  match t.dropWhile inside with
  | '\'' :: rest => some (t.takeWhile inside, rest)
  | _ => none

/-- Whether a text starts with a line ending. -/
def startsWithLineEnd : Text → Bool
  | '\n' :: _ => true
  | '\r' :: '\n' :: _ => true
  | _ => false

/-- A string in three double quotes. While `isJoining`, the space behind a backslash at the end of a
    line is passed over. Up to two quotes may stand in front of the closing ones. -/
def basicBlock : (isJoining : Bool) → Text → Option (Text × Text)
  | _, [] => none
  | _, '"' :: '"' :: '"' :: '"' :: '"' :: t => some (['"', '"'], t)
  | _, '"' :: '"' :: '"' :: '"' :: t => some (['"'], t)
  | _, '"' :: '"' :: '"' :: t => some ([], t)
  | isJoining, '\r' :: '\n' :: t =>
    if isJoining then basicBlock true t else prepend (some '\n') (basicBlock false t)
  | _, '\\' :: 'u' :: a :: b :: c :: d :: t =>
    prepend (ofCodePoint? [a, b, c, d]) (basicBlock false t)
  | _, '\\' :: 'U' :: a :: b :: c :: d :: e :: f :: g :: h :: t =>
    prepend (ofCodePoint? [a, b, c, d, e, f, g, h]) (basicBlock false t)
  | _, '\\' :: c :: t =>
    if startsWithLineEnd ((c :: t).dropWhile isGap) then basicBlock true (c :: t)
    else prepend (escaped? c) (basicBlock false t)
  | isJoining, c :: t =>
    if isJoining && (isGap c || c == '\n') then basicBlock true t
    else if c = '\n' || isTextChar c then prepend (some c) (basicBlock false t)
    else none

/-- A string in three single quotes. Up to two quotes may stand in front of the closing ones. -/
def literalBlock : Text → Option (Text × Text)
  | [] => none
  | '\'' :: '\'' :: '\'' :: '\'' :: '\'' :: t => some (['\'', '\''], t)
  | '\'' :: '\'' :: '\'' :: '\'' :: t => some (['\''], t)
  | '\'' :: '\'' :: '\'' :: t => some ([], t)
  | '\r' :: '\n' :: t => prepend (some '\n') (literalBlock t)
  | c :: t => if c = '\n' || isTextChar c then prepend (some c) (literalBlock t) else none

/-- A text without the line ending it starts with. -/
def dropLineEnd : Text → Text
  | '\n' :: t => t
  | '\r' :: '\n' :: t => t
  | t => t

/-! ## Numbers -/

/-- Digits without the underscores that group them. An underscore stands between two digits. -/
def ungrouped? (t : Text) : Option Text :=
  let groups := t.splitOn '_'
  if groups.all (!·.isEmpty) then some groups.flatten else none

/-- Decimal digits, grouped or not. -/
def digits? (t : Text) : Option Text := (ungrouped? t).filter (·.all Char.isDigit)

/-- Decimal digits that do not start with a needless zero. -/
def wholeDigits? (t : Text) : Option Text :=
  (digits? t).filter fun digits => digits.head? != some '0' || digits.length == 1

/-- Whether a word starts with a minus sign, and what follows its sign. -/
def signed : Text → Bool × Text
  | '-' :: t => (true, t)
  | '+' :: t => (false, t)
  | t => (false, t)

/-- The number that a word stands for, if it fits in 64 bits. -/
def integer? (word : Text) : Option Int :=
  let based? : Option Nat :=
    match word with
    | '0' :: mark :: digits => do Text.inBase? (← Text.baseOfMark? mark) (← ungrouped? digits)
    | _ => none
  let n? : Option Int :=
    match based? with
    | some n => some n
    | none =>
      let (isNegative, digits) := signed word
      (wholeDigits? digits).map fun digits =>
        let n : Int := Nat.ofDigitChars 10 digits 0
        if isNegative then -n else n
  n?.filter fun n => -9223372036854775808 ≤ n && n ≤ 9223372036854775807

/-- The exponent behind a mantissa, which may be missing. -/
def exponent? : Text → Option (Option Int)
  | [] => some none
  | _ :: t =>
    let (isNegative, digits) := signed t
    (digits? digits).map fun digits =>
      let n : Int := Nat.ofDigitChars 10 digits 0
      some (if isNegative then -n else n)

/-- The number `mantissa · 10^exponent` in double precision. -/
def scientific (mantissa : Nat) (exponent : Int) : Float :=
  let size := (Nat.toDigits 10 mantissa).length + exponent
  if mantissa = 0 || size < -400 then 0
  else if 400 < size then 1 / 0
  else Float.ofScientific mantissa (exponent < 0) exponent.natAbs

/-- The number with a point or exponent that a word stands for, if it is not too large. -/
def float? (word : Text) : Option Float := do
  let (isNegative, t) := signed word
  let sign (x : Float) : Float := if isNegative then -x else x
  if t = "inf".toList then some (sign (1 / 0))
  else if t = "nan".toList then some (sign (0 / 0))
  else
    let mantissa := t.takeWhile (fun c => c != 'e' && c != 'E')
    let exponent ← exponent? (t.dropWhile (fun c => c != 'e' && c != 'E'))
    let whole ← wholeDigits? (mantissa.takeWhile (· != '.'))
    let fraction ← match mantissa.dropWhile (· != '.') with
      | [] => if exponent.isSome then some [] else none
      | _ :: fraction => digits? fraction
    let digits := whole ++ fraction
    let x := sign (scientific (Nat.ofDigitChars 10 digits 0) (exponent.getD 0 - fraction.length))
    if x == 1 / 0 then none else some x

end Listing.Toml
