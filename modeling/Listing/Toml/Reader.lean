import Listing.Toml.Marked
import Listing.Toml.Scalar

/-!
# Reading TOML

A document is a sequence of lines: pairs of a key and a value, and headers that start a section.
`parse?` gives the value of a document, or nothing if the text is no TOML document.
-/

namespace Listing.Toml

/-! ## Gaps and line ends -/

/-- What follows the spaces and tabs at the start of a text. -/
def skipGap (t : Text) : Text := t.dropWhile isGap

/-- What follows a line ending. The end of the text ends a line, too. -/
def lineEnd? : Text → Option Text
  | [] => some []
  | '\n' :: t => some t
  | '\r' :: '\n' :: t => some t
  | _ => none

/-- What follows the rest of a line that holds nothing more than a comment. -/
def restOfLine? (t : Text) : Option Text :=
  match skipGap t with
  | '#' :: t => lineEnd? (t.dropWhile isTextChar)
  | t => lineEnd? t

/-- What follows spaces, line endings and comments. -/
def skipLines : (isComment : Bool) → Text → Text
  | _, [] => []
  | _, '\n' :: t => skipLines false t
  | _, '\r' :: '\n' :: t => skipLines false t
  | true, c :: t => if isTextChar c then skipLines true t else c :: t
  | false, c :: t =>
    if isGap c then skipLines false t else if c = '#' then skipLines true t else c :: t

/-! ## Keys -/

/-- Whether a character may stand in a key without quotes. -/
def isKeyChar (c : Char) : Bool := c.isAlphanum || c == '_' || c == '-'

/-- A key between two dots. -/
def simpleKey : Text → Option (Text × Text)
  | '"' :: t => basicString t
  | '\'' :: t => literalString t
  | t =>
    let key := t.takeWhile isKeyChar
    if key.isEmpty then none else some (key, t.dropWhile isKeyChar)

/-- How deep arrays and inline tables may be nested, and how many parts a key may have. -/
def greatestDepth : Nat := 79

/-- The keys on the way, the last key, and what follows. -/
def dottedKey (t : Text) : Option (List Text × Text × Text) := do
  let (key, rest) ← simpleKey t
  match skipGap rest with
  | '.' :: next =>
    let next := skipGap next
    if next.length < t.length then
      let (way, last, rest) ← dottedKey next
      some (key :: way, last, rest)
    else none
  | rest => some ([], key, rest)
termination_by t.length

/-- A key that does not have too many parts. -/
def key (t : Text) : Option (List Text × Text × Text) :=
  (dottedKey t).filter fun (way, _, _) => way.length < greatestDepth

/-! ## Values -/

/-- Items with commas between them, up to the closing bracket. A comma may stand behind the last
    item if `mayTrail`. -/
def sequence {α : Type} (item : Text → Option (α × Text)) (gap : Text → Text) (closing : Char)
    (mayTrail : Bool) (t : Text) : Option (List α × Text) := do
  let (first, rest) ← item t
  match gap rest with
  | ',' :: rest =>
    let rest := gap rest
    if mayTrail && rest.head? == some closing then some ([first], rest.tail)
    else if rest.length < t.length then
      let (others, rest) ← sequence item gap closing mayTrail rest
      some (first :: others, rest)
    else none
  | c :: rest => if c = closing then some ([first], rest) else none
  | [] => none
termination_by t.length

/-- Items between brackets, read behind the opening one. -/
def bracketed {α : Type} (item : Text → Option (α × Text)) (gap : Text → Text) (closing : Char)
    (mayTrail : Bool) (t : Text) : Option (List α × Text) :=
  match gap t with
  | c :: rest =>
    if c = closing then some ([], rest) else sequence item gap closing mayTrail (c :: rest)
  | [] => none

/-- Whether a character may stand in a scalar without quotes. -/
def isWordChar (c : Char) : Bool := c.isAlphanum || ['_', '+', '-', '.', ':'].contains c

/-- The value of a word. -/
def ofWord? (word : Text) : Option Toml :=
  if word = "true".toList then some (.boolean true)
  else if word = "false".toList then some (.boolean false)
  else
    match moment? .strict word, float? word, integer? word with
    | some t, _, _ => some (.moment t)
    | none, some x, _ => some (.float x)
    | none, none, some n => some (.integer n)
    | none, none, none => none

/-- A scalar without quotes. A space may stand between a date and a time. -/
def word (t : Text) : Option (Toml × Text) :=
  let first := t.takeWhile isWordChar
  let rest := t.dropWhile isWordChar
  let long? : Option (Toml × Text) :=
    match rest with
    | ' ' :: more =>
      if first.length = 10 ∧ (date? first).isSome ∧ more.head?.any Char.isDigit then
        (ofWord? (first ++ ' ' :: more.takeWhile isWordChar)).map (·, more.dropWhile isWordChar)
      else none
    | _ => none
  match long? with
  | some result => some result
  | none => (ofWord? first).map (·, rest)

/-- A pair, its value read by `value`. -/
def pair (value : Text → Option (Toml × Text)) (t : Text) : Option (Pair × Text) := do
  let (way, key, rest) ← key t
  match skipGap rest with
  | '=' :: rest =>
    let (v, rest) ← value (skipGap rest)
    some (⟨way, key, v⟩, rest)
  | _ => none

/-- A value in which arrays and inline tables are nested at most `depth` deep. -/
def value : (depth : Nat) → Text → Option (Toml × Text)
  | depth, t =>
    let ofString (read : Option (Text × Text)) := read.map fun (s, rest) => (Toml.string s, rest)
    match t with
    | '"' :: '"' :: '"' :: t => ofString (basicBlock false (dropLineEnd t))
    | '"' :: t => ofString (basicString t)
    | '\'' :: '\'' :: '\'' :: t => ofString (literalBlock (dropLineEnd t))
    | '\'' :: t => ofString (literalString t)
    | '[' :: t =>
      match depth with
      | 0 => none
      | depth + 1 =>
        (bracketed (value depth) (skipLines false) ']' true t).map fun (items, rest) =>
          (.array false items, rest)
    | '\x7b' :: t =>
      match depth with
      | 0 => none
      | depth + 1 => do
        let (pairs, rest) ← bracketed (pair (value depth)) skipGap '\x7d' false t
        some (.table .inline (← addPairs pairs []), rest)
    | t => word t

/-! ## Documents -/

/-- What a line holds. -/
inductive LineContent where
  | nothing
  | pair (p : Pair)
  | header (h : Header)

/-- A header, read behind its opening brackets. -/
def header (isArray : Bool) (t : Text) : Option (LineContent × Text) := do
  let (way, key, rest) ← key (skipGap t)
  match isArray, skipGap rest with
  | false, ']' :: rest => some (.header ⟨false, way, key⟩, rest)
  | true, ']' :: ']' :: rest => some (.header ⟨true, way, key⟩, rest)
  | _, _ => none

/-- What the line at the start of a text holds, and what follows on that line. -/
def lineContent (t : Text) : Option (LineContent × Text) :=
  match skipGap t with
  | [] => some (.nothing, [])
  | '[' :: '[' :: t => header true t
  | '[' :: t => header false t
  | c :: t =>
    if c = '#' ∨ startsWithLineEnd (c :: t) then some (.nothing, c :: t)
    else (pair (value greatestDepth) (c :: t)).map fun (p, rest) => (.pair p, rest)

/-- The lines of a document. -/
def contents? (t : Text) : Option (List LineContent) :=
  match t with
  | [] => some []
  | t => do
    let (content, rest) ← lineContent t
    let rest ← restOfLine? rest
    if rest.length < t.length then
      let contents ← contents? rest
      some (content :: contents)
    else none
termination_by t.length

/-- The pairs in front of the first header, and the sections behind. -/
def sections : List LineContent → List Pair × List Section
  | [] => ([], [])
  | .nothing :: contents => sections contents
  | .pair p :: contents => let (pairs, sections) := sections contents; (p :: pairs, sections)
  | .header h :: contents => let (pairs, sections) := sections contents; ([], ⟨h, pairs⟩ :: sections)

/-- The value of a document, a table unless it is marked as a moment. A byte order mark in front of
    the document is passed over. -/
def parse? (t : Text) : Option Toml := do
  let t := match t with
    | '\uFEFF' :: t => t
    | t => t
  let (pairs, sections) := sections (← contents? t)
  settle? (.table .header (← document? pairs sections))

end Listing.Toml
