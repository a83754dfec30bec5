import Listing.Text.Lowercase
import Listing.Toml.Value

/-!
# Layered values

Settings are gathered in a tree of values. Each value remembers the file it came from. A later value
takes the place of an earlier one, except that a table is added to a table key by key. Keys are held
in lower case.
-/

namespace Listing

/-- A value without parts. -/
inductive Scalar where
  | null
  | boolean (b : Bool)
  | integer (n : Int)
  | float (x : Float)
  | string (t : Text)

/-- A value with the file it came from, if it came from one. -/
inductive Node where
  | scalar (origin : Option Text) (value : Scalar)
  | array (origin : Option Text) (items : List Node)
  | table (origin : Option Text) (entries : List (Text × Node))

namespace Node

/-- The value that stands where nothing has been set. -/
def null : Node := .scalar none .null

/-- The table without entries. -/
def emptyTable : Node := .table none []

/-- The file that a value came from. -/
def origin : Node → Option Text
  | .scalar origin _ => origin
  | .array origin _ => origin
  | .table origin _ => origin

mutual

/-- A TOML value from the given file. Date and time are strings. -/
def ofToml (origin : Option Text) : Toml → Node
  | .string t => .scalar origin (.string t)
  | .integer n => .scalar origin (.integer n)
  | .float x => .scalar origin (.float x)
  | .boolean b => .scalar origin (.boolean b)
  | .moment t => .scalar origin (.string t)
  | .array _ items => .array origin (ofTomlItems origin items)
  | .table _ entries => .table origin (ofTomlEntries origin entries)

/-- The items of a TOML array. -/
def ofTomlItems (origin : Option Text) : List Toml → List Node
  | [] => []
  | item :: items => ofToml origin item :: ofTomlItems origin items

/-- The entries of a TOML table. -/
def ofTomlEntries (origin : Option Text) : List (Text × Toml) → List (Text × Node)
  | [] => []
  | (key, value) :: entries => (key, ofToml origin value) :: ofTomlEntries origin entries

end

/-- The value of a key of a table. -/
def child? (node : Node) (key : Text) : Option Node :=
  match node with
  | .table _ entries => Keyed.get? entries key
  | _ => none

/-- Gives a key a value. What is no table becomes one. -/
def withChild (node : Node) (key : Text) (value : Node) : Node :=
  match node with
  | .table origin entries => .table origin (Keyed.put key value entries)
  | _ => .table none [(key, value)]

mutual

/-- Sets a key of a table. A table is added to the value that the key has. -/
def assign : (parent : Node) → (key : Text) → (value : Node) → Node
  | parent, key, .table _ entries =>
    let key := Text.lowercase key
    parent.withChild key (assignAll ((parent.child? key).getD emptyTable) entries)
  | parent, key, .array origin items => parent.withChild (Text.lowercase key) (.array origin items)
  | parent, key, .scalar origin value => parent.withChild (Text.lowercase key) (.scalar origin value)

/-- Sets keys of a table one after the other. -/
def assignAll : (parent : Node) → List (Text × Node) → Node
  | parent, [] => parent
  | parent, (key, value) :: entries => assignAll (assign parent key value) entries

end

end Node

end Listing
