import Listing.Files.Folder
import Listing.Program.Render
import Listing.Reformat
import Listing.Settings.Error
import Listing.Toml.Reader

/-!
# Settings

Settings come in layers: the defaults, files in their order, and single values set by key path, which
are stronger than all files. The layers are laid over each other in one tree of values, and the
settings are read from the tree.
-/

namespace Listing

/-- What to do with a listing, and how to write it. -/
structure Settings where
  reformat : ReformatOptions
  render : RenderOptions
  deriving DecidableEq, Repr

namespace Settings

/-- The defaults as a settings file, which comes with the program. -/
def defaultText : Text :=
  ["# Built-in defaults for cbm-reformat. User config files and command-line",
    "# switches are layered on top of these values.",
    "",
    "[reformat]",
    "# Move colon-separated statements onto their own lines",
    "split_lines = false",
    "# Append a `rem` describing each line's statements",
    "add_explanations = false",
    "",
    "[render]",
    "# Joins the statements of one line",
    "statement_separator = \":\"",
    "# Print keywords as `PRINT` instead of `print`",
    "uppercase_keywords = false"].flatMap fun line => line.toList ++ ['\n']

/-- Nothing but the unavoidable is changed. These are the settings of `defaultText`. -/
def default : Settings := ⟨⟨false, false⟩, RenderOptions.default⟩

/-! ## Reading settings from values -/

/-- The words for the truth values. -/
def booleanWords : List (Text × Bool) :=
  [("1", true), ("true", true), ("on", true), ("yes", true), ("0", false), ("false", false),
    ("off", false), ("no", false)].map fun (word, b) => (word.toList, b)

/-- A value as a truth value. A number is true unless it is zero. -/
def boolean : Node → Except Found Bool
  | .scalar _ (.boolean b) => .ok b
  | .scalar _ (.integer n) => .ok (n != 0)
  | .scalar _ (.float x) => .ok (x != 0)
  | .scalar _ (.string t) =>
    match Keyed.get? booleanWords (Text.lowercase t) with
    | some b => .ok b
    | none => .error (.string (Text.lowercase t))
  | .scalar _ .null => .error .null
  | .array _ _ => .error .array
  | .table _ _ => .error .table

/-- A value as a text. -/
def text : Node → Except Found Text
  | .scalar _ (.boolean b) => .ok (if b then "true" else "false").toList
  | .scalar _ (.integer n) => .ok (toString n).toList
  | .scalar _ (.float x) => .ok (Decimal.text x)
  | .scalar _ (.string t) => .ok t
  | .scalar _ .null => .error .null
  | .array _ _ => .error .array
  | .table _ _ => .error .table

/-- A setting of a group: its name, the kind of value it needs, and how to read it. -/
structure Field (α : Type) where
  name : Text
  expected : Expected
  read : Node → Except Found α

/-- Reads a setting from the value at the given place. -/
def Field.readAt {α : Type} (field : Field α) (place : Text) (node : Node) :
    Except SettingsError α :=
  match field.read node with
  | .ok a => .ok a
  | .error found => .error (.wrongKind found field.expected place node.origin)

/-- Reads a setting from the table of its group, if the table has it. -/
def Field.readFrom {α : Type} (field : Field α) (group : Group) (entries : List (Text × Node)) :
    Except SettingsError (Option α) :=
  match Keyed.get? entries field.name with
  | some node => (field.readAt (group.key ++ '.' :: field.name) node).map some
  | none => .ok none

/-- Reads a setting from the array of its group. -/
def Field.readItem {α : Type} (field : Field α) (group : Group) (items : List Node)
    (position : Nat) : Except SettingsError α :=
  match items[position]? with
  | some node => field.readAt (group.key ++ '[' :: Text.ofNat position ++ [']']) node
  | none => .error (.tooShort position group)

/-- A setting that has to be there. -/
def Field.demand {α : Type} (field : Field α) : Option α → Except SettingsError α
  | some a => .ok a
  | none => .error (.missing field.name)

/-- Reads the two settings of a group, from a table by their names or from an array in their order.
    Values of the wrong kind are reported before missing ones. -/
def readGroup {α β : Type} (group : Group) (first : Field α) (second : Field β) (node : Node) :
    Except SettingsError (α × β) :=
  match node with
  | .table _ entries => do
    let a? ← first.readFrom group entries
    let b? ← second.readFrom group entries
    return (← first.demand a?, ← second.demand b?)
  | .array _ items => return (← first.readItem group items 0, ← second.readItem group items 1)
  | .scalar _ value =>
    .error (.notGroup
      (match value with
        | .null => .null
        | .boolean b => .boolean b
        | .integer n => .integer n
        | .float x => .float x
        | .string t => .string t) group)

/-- The setting that splits lines. -/
def splitLines : Field Bool := ⟨"split_lines".toList, .boolean, boolean⟩

/-- The setting that explains lines. -/
def addExplanations : Field Bool := ⟨"add_explanations".toList, .boolean, boolean⟩

/-- The setting for what stands between statements. -/
def separator : Field Text := ⟨"statement_separator".toList, .string, text⟩

/-- The setting for keywords in upper case. -/
def uppercase : Field Bool := ⟨"uppercase_keywords".toList, .boolean, boolean⟩

/-- The value of a group. -/
def groupNode (group : Group) (root : Node) : Except SettingsError Node :=
  match root.child? group.key with
  | some node => .ok node
  | none => .error (.missingGroup group)

/-- Reads the settings from a tree of values. -/
def ofNode (root : Node) : Except SettingsError Settings := do
  let (split, explain) ← readGroup .reformat splitLines addExplanations (← groupNode .reformat root)
  let (separator, upper) ← readGroup .render separator uppercase (← groupNode .render root)
  return ⟨⟨split, explain⟩, ⟨separator, upper⟩⟩

/-- The tree of values that holds the given settings. -/
def toNode (s : Settings) : Node :=
  let group (g : Group) (entries : List (Text × Scalar)) : Text × Node :=
    (g.key, .table none (entries.map fun (name, value) => (name, .scalar none value)))
  .table none
    [group .reformat
        [(splitLines.name, .boolean s.reformat.splitLines),
          (addExplanations.name, .boolean s.reformat.addExplanations)],
      group .render
        [(separator.name, .string s.render.separator),
          (uppercase.name, .boolean s.render.uppercase)]]

/-! ## Layers -/

/-- A layer of settings. -/
inductive Layer where
  | file (path : Text) (isRequired : Bool)
  | value (key : Text) (value : Scalar)

/-- A value to be set at a place. -/
structure Override where
  path : KeyPath
  value : Scalar

/-- The values among the layers, in their order. The key of each has to be a key path. -/
def overrides : List Layer → Except SettingsError (List Override)
  | [] => .ok []
  | .file _ _ :: layers => overrides layers
  | .value key value :: layers =>
    match KeyPath.parse? key with
    | some path => (overrides layers).map (⟨path, value⟩ :: ·)
    | none => .error .keySyntax

/-- A path with the ending `.toml` put behind its last name, if it ends in a name. -/
def withEnding? (path : Text) : Option Text :=
  match (path.splitOn '/').reverse.dropWhile fun name => name.isEmpty || name == Path.here with
  | [] => none
  | last :: front =>
    if last = Path.up then none
    else some (['/'].intercalate (front.reverse ++ [last ++ ".toml".toList]))

/-- The file at a path, and its path without needless parts. -/
def fileAt? (folder : Folder) (path : Text) : Option (Text × Bytes) :=
  match folder.read path with
  | .ok bytes => some (Path.text (Path.parts path), bytes)
  | .error _ => none

/-- A settings file and the path it is known by: the file at the path itself, or the one with the
    ending `.toml`. -/
def findFile? (folder : Folder) (path : Text) : Option (Text × Bytes) :=
  match fileAt? folder path with
  | some file => some file
  | none => (withEnding? path).bind (fileAt? folder)

/-- The text of a settings file and the path it is known by. -/
def readFile (folder : Folder) (path : Text) : Except SettingsError (Text × Text) :=
  match findFile? folder path with
  | none => .error (.fileMissing path)
  | some (origin, bytes) =>
    match Utf8.decode? bytes with
    | none => .error .fileNotUtf8
    | some t => .ok (origin, t)

/-- Lays the pairs of a file over a tree. A key of the file is read as a key path if it is one. -/
def layPairs (origin : Text) : List (Text × Toml) → Node → Except SettingsError Node
  | [], root => .ok root
  | (key, value) :: pairs, root =>
    let node := Node.ofToml (some origin) value
    match KeyPath.parse? key with
    | some path =>
      match root.setAt? path node with
      | some root => layPairs origin pairs root
      | none => .error .noSuchItem
    | none => layPairs origin pairs (root.assign key node)

/-- Lays a file with the given text over a tree. -/
def layText (origin t : Text) (root : Node) : Except SettingsError Node :=
  match Toml.parse? t with
  | none => .error (.fileSyntax origin)
  | some (.table _ pairs) => layPairs origin pairs root
  | some (.moment t) => .error (.fileNotTable t origin)
  | some _ => .error (.fileSyntax origin)

/-- Lays the files among the layers over a tree, in their order. A file that cannot be read is passed
    over unless it is required. -/
def layFiles (folder : Folder) : List Layer → Node → Except SettingsError Node
  | [], root => .ok root
  | .value _ _ :: layers, root => layFiles folder layers root
  | .file path isRequired :: layers, root =>
    match readFile folder path with
    | .error e => if isRequired then .error e else layFiles folder layers root
    | .ok (origin, t) =>
      match layText origin t root with
      | .ok root => layFiles folder layers root
      | .error e => .error e

/-- Lays single values over a tree, in their order. -/
def layOverrides : List Override → Node → Except SettingsError Node
  | [], root => .ok root
  | o :: others, root =>
    match root.setAt? o.path (.scalar none o.value) with
    | some root => layOverrides others root
    | none => .error .noSuchItem

/-- The settings that the layers over the defaults make up. -/
def load (folder : Folder) (layers : List Layer) : Except SettingsError Settings := do
  let values ← overrides layers
  let root ← layFiles folder layers default.toNode
  ofNode (← layOverrides values root)

end Settings

end Listing
