import Listing.Settings.Node

/-!
# Key paths

A key path leads to a place in the tree of values: a key, then keys behind dots and positions in
square brackets, as in `render.separators[0]`. A negative position counts from the end.
-/

namespace Listing

/-- A step of a key path. -/
inductive KeyStep where
  | child (key : Text)
  | item (index : Int)
  deriving DecidableEq, Repr

/-- The steps to a place. -/
abbrev KeyPath := List KeyStep

namespace KeyPath

/-- Whether a character may stand in a key of a path. -/
def isKeyChar (c : Char) : Bool := c.isAlphanum || c == ' ' || c == '_' || c == '-'

/-- Whether a character may stand around a position. -/
def isGap (c : Char) : Bool := c == ' ' || c == '\t'

/-- A key at the start of a text, in lower case, and what follows. -/
def key? (t : Text) : Option (KeyStep × Text) :=
  let key := t.takeWhile isKeyChar
  if key.isEmpty then none else some (.child (Text.lowercase key), t.dropWhile isKeyChar)

/-- A position behind its opening bracket, and what follows the closing one. -/
def position? (t : Text) : Option (KeyStep × Text) :=
  let t := t.dropWhile isGap
  let isNegative := t.head? == some '-'
  let t := if isNegative then t.tail else t
  let digits := t.takeWhile Char.isDigit
  let n : Int := Nat.ofDigitChars 10 digits 0
  let index := if isNegative then -n else n
  match (t.dropWhile Char.isDigit).dropWhile isGap with
  | ']' :: rest =>
    if digits.isEmpty || index < -9223372036854775808 || 9223372036854775807 < index then none
    else some (.item index, rest)
  | _ => none

/-- The steps behind the first key. -/
def steps? (t : Text) : Option KeyPath :=
  let step? : Option (KeyStep × Text) :=
    match t with
    | '.' :: t => key? t
    | '[' :: t => position? t
    | _ => none
  if t = [] then some []
  else
    match step? with
    | some (step, rest) =>
      if rest.length < t.length then (steps? rest).map (step :: ·) else none
    | none => none
termination_by t.length

/-- The key path that a text stands for. -/
def parse? (t : Text) : Option KeyPath := do
  let (first, rest) ← key? t
  some (first :: (← steps? rest))

end KeyPath

namespace Node

/-- The greatest number of items that an array can have. -/
def greatestLength : Nat := 134217728

/-- The position that an index stands for in an array of the given length, which may be extended. -/
def positionOf? (index : Int) (length : Nat) : Option Nat :=
  if 0 ≤ index then if index < greatestLength then some index.toNat else none
  else if index.natAbs ≤ length then some (length - index.natAbs)
  else none

/-- The items of an array, with empty ones at the end so that there is one at the position. -/
def itemsUpTo (node : Node) (position : Nat) : List Node :=
  let items := match node with
    | .array _ items => items
    | _ => []
  items ++ List.replicate (position + 1 - items.length) null

/-- The file of an array; none for what is no array yet. -/
def arrayOrigin : Node → Option Text
  | .array origin _ => origin
  | _ => none

/-- The number of items of an array; none for what is no array yet. -/
def arrayLength : Node → Nat
  | .array _ items => items.length
  | _ => 0

/-- Sets the value at a place, making the tables and arrays on the way. There is no place in front
    of the first item of an array, nor one behind the last that it can have. -/
def setAt? : (node : Node) → KeyPath → (value : Node) → Option Node
  | _, [], value => some value
  | node, [.child key], value => some (node.assign key value)
  | node, .child key :: path, value =>
    (setAt? ((node.child? key).getD null) path value).map (node.withChild key)
  | node, .item index :: path, value => do
    let position ← positionOf? index node.arrayLength
    let items := node.itemsUpTo position
    let item ← setAt? ((items[position]?).getD null) path value
    some (.array node.arrayOrigin (items.set position item))

end Node

end Listing
