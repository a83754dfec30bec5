import Listing.Keyed

/-!
# TOML values

The values of a TOML document and the rules for putting them into tables. A table is defined once:
by a header, by the dotted keys of one section, or inline. What a header or a dotted key names on
its way is defined in passing and may be added to; a table written inline is closed.
-/

namespace Listing

/-- How a table came about. -/
inductive TableForm where
  /-- By the dotted keys of a section or an inline table. -/
  | dotted
  /-- As a table on the way of a header. -/
  | implied
  /-- By its own header. -/
  | header
  /-- Written as a value. -/
  | inline
  deriving DecidableEq, Repr

/-- A value. Date and time are held in their standard form. -/
inductive Toml where
  | string (t : Text)
  | integer (n : Int)
  | float (x : Float)
  | boolean (b : Bool)
  | moment (t : Text)
  /-- An array, extended by headers in double brackets or written as a value. -/
  | array (isExtensible : Bool) (items : List Toml)
  | table (form : TableForm) (entries : List (Text × Toml))

namespace Toml

/-- A pair of a document: the keys on the way, the last key, and the value. -/
structure Pair where
  way : List Text
  key : Text
  value : Toml

/-- A header: the keys on the way, the last key, and whether it stands in double brackets. -/
structure Header where
  isArray : Bool
  way : List Text
  key : Text
  deriving DecidableEq, Repr

/-- A header and the pairs behind it. -/
structure Section where
  header : Header
  pairs : List Pair

/-- Changes the value of a key, if the change is possible. -/
def alter (entries : Keyed Toml) (key : Text) (change : Option Toml → Option Toml) :
    Option (Keyed Toml) :=
  (change (Keyed.get? entries key)).map fun value => Keyed.put key value entries

/-- Changes the last table of an extensible array. -/
def alterLast (items : List Toml) (change : Keyed Toml → Option (Keyed Toml)) :
    Option Toml :=
  match items.getLast? with
  | some (.table form entries) =>
    (change entries).map fun entries => .array true (items.dropLast ++ [.table form entries])
  | _ => none

/-- Adds a pair to a table. A dotted key may add to tables that other dotted keys made, and may pass
    through tables on the way of a header. -/
def addPair (way : List Text) (key : Text) (value : Toml) (entries : Keyed Toml) :
    Option (Keyed Toml) :=
  match way with
  | [] => if (Keyed.get? entries key).isSome then none else some (entries ++ [(key, value)])
  | step :: way =>
    alter entries step fun
      | none => (addPair way key value []).map (.table .dotted)
      | some (.table form inner) =>
        if form = .dotted ∨ form = .implied ∧ way ≠ [] then
          (addPair way key value inner).map (.table form)
        else none
      | some (.array true items) =>
        if way = [] then none else alterLast items (addPair way key value)
      | some _ => none

/-- Adds pairs to a table. -/
def addPairs (pairs : List Pair) (entries : Keyed Toml) : Option (Keyed Toml) :=
  pairs.foldlM (fun entries p => addPair p.way p.key p.value entries) entries

/-- Changes the table on the way of a header that is to hold what the header names. -/
def alterAt (way : List Text) (change : Keyed Toml → Option (Keyed Toml)) (entries : Keyed Toml) :
    Option (Keyed Toml) :=
  match way with
  | [] => change entries
  | step :: way =>
    alter entries step fun
      | none => (alterAt way change []).map (.table .implied)
      | some (.table form inner) =>
        if form = .inline then none else (alterAt way change inner).map (.table form)
      | some (.array true items) => alterLast items (alterAt way change)
      | some _ => none

/-- Adds a section to a document. A table that was only on the way of headers before takes its place
    anew, behind all others. -/
def addSection (entries : Keyed Toml) (s : Section) : Option (Keyed Toml) :=
  let key := s.header.key
  let filled (entries : Keyed Toml) := (addPairs s.pairs entries).map (.table .header)
  alterAt s.header.way (fun entries =>
    match Keyed.get? entries key with
    | none =>
      (filled []).map fun table =>
        entries ++ [(key, if s.header.isArray then .array true [table] else table)]
    | some (.table .implied inner) =>
      if s.header.isArray then none
      else (filled inner).map fun table => Keyed.erase key entries ++ [(key, table)]
    | some (.array true items) =>
      if s.header.isArray then
        (filled []).map fun table => Keyed.put key (.array true (items ++ [table])) entries
      else none
    | some _ => none) entries

/-- The table of a document with the given pairs in front of the first header and sections behind. -/
def document? (pairs : List Pair) (sections : List Section) : Option (Keyed Toml) := do
  sections.foldlM addSection (← addPairs pairs [])

end Toml

end Listing
