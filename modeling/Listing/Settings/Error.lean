import Listing.Decimal.Shortest
import Listing.Files.Folder
import Listing.Settings.KeyPath
import Listing.Text.Quoted

/-!
# What is wrong with settings

The causes for which settings cannot be taken from their sources, and what is said about them.
-/

namespace Listing

/-- A kind of value that was found where another is needed. -/
inductive Found where
  | null
  | boolean (b : Bool)
  | integer (n : Int)
  | float (x : Float)
  | string (t : Text)
  | array
  | table

namespace Found

/-- The name of what was found. -/
def describe : Found → String
  | .null => "unit value"
  | .boolean b => "boolean `" ++ (if b then "true" else "false") ++ "`"
  | .integer n => "integer `" ++ toString n ++ "`"
  | .float x => "floating point `" ++ String.ofList (Decimal.pointedText x) ++ "`"
  | .string t => "string " ++ String.ofList (Text.quoted t)
  | .array => "sequence"
  | .table => "map"

end Found

/-- The kinds of value that a setting can need. -/
inductive Expected where
  | boolean | string
  deriving DecidableEq, Repr

/-- The groups that settings come in. -/
inductive Group where
  | reformat | render
  deriving DecidableEq, Repr

namespace Group

/-- The key of a group. -/
def key : Group → Text
  | .reformat => "reformat".toList
  | .render => "render".toList

/-- What a group is called in messages. -/
def title : Group → String
  | .reformat => "struct ReformatOptions"
  | .render => "struct RenderOptions"

end Group

/-- Why settings could not be loaded. -/
inductive SettingsError where
  /-- A key of an override is no key path. -/
  | keySyntax
  /-- A key path leads to a place in an array that cannot be. -/
  | noSuchItem
  /-- A file that has to be there is not. -/
  | fileMissing (path : Text)
  /-- A file that has to be there is no text. -/
  | fileNotUtf8
  /-- A file holds a moment in the place of a table. -/
  | fileNotTable (moment path : Text)
  /-- A file is no TOML document. -/
  | fileSyntax (path : Text)
  /-- A setting has a value of the wrong kind. -/
  | wrongKind (found : Found) (expected : Expected) (place : Text) (origin : Option Text)
  /-- A group is neither a table nor an array. -/
  | notGroup (found : Found) (group : Group)
  /-- A group is an array of too few items. -/
  | tooShort (length : Nat) (group : Group)
  /-- A setting is missing in a group. -/
  | missing (name : Text)
  /-- A group is missing. -/
  | missingGroup (group : Group)

namespace SettingsError

/-- What is said about an error. Errors in the syntax of files and key paths are only named. -/
def message : SettingsError → String
  | .keySyntax => "invalid key path"
  | .noSuchItem => "index out of range"
  | .fileMissing path => "configuration file \"" ++ String.ofList path ++ "\" not found"
  | .fileNotUtf8 => FileError.notUtf8.message
  | .fileNotTable moment path =>
    "invalid type: " ++ (Found.string moment).describe ++ ", expected a map in " ++
      String.ofList path ++ " in " ++ String.ofList path
  | .fileSyntax _ => "TOML parse error"
  | .wrongKind found expected place origin =>
    "invalid type: " ++ found.describe ++ ", expected " ++
      (match expected with | .boolean => "a boolean" | .string => "a string") ++
      " for key `" ++ String.ofList place ++ "`" ++
      (match origin with | some path => " in " ++ String.ofList path | none => "")
  | .notGroup found group => "invalid type: " ++ found.describe ++ ", expected " ++ group.title
  | .tooShort length group =>
    "invalid length " ++ toString length ++ ", expected " ++ group.title ++ " with 2 elements"
  | .missing name => "missing field `" ++ String.ofList name ++ "`"
  | .missingGroup group => "missing field `" ++ String.ofList group.key ++ "`"

end SettingsError

end Listing
