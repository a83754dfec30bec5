import Std.Data.TreeMap
import Listing.Program.Document
import Listing.Program.Render

/-!
# Formats

A formatter writes programs in one format. A registry holds formatters by name; registering one
takes the place of any other of that name.
-/

namespace Listing

/-- Why a program could not be written. -/
inductive FormatError where
  | notFound (name : Text)
  | serialization (cause : String)
  deriving DecidableEq, Repr

namespace FormatError

/-- What is said about an error. -/
def message : FormatError → String
  | .notFound name => "Format '" ++ String.ofList name ++ "' not found"
  | .serialization cause => "Serialization error: " ++ cause

end FormatError

/-- A format for programs. -/
structure Formatter where
  name : Text
  description : String
  serialize : Program → Except FormatError Text

namespace Formatter

/-- The format of a listing. -/
def basic (options : RenderOptions) : Formatter where
  name := "basic".toList
  description := "BASIC source listing"
  serialize p := .ok (p.render options)

/-- The tree of a program as JSON. -/
def json : Formatter where
  name := "json".toList
  description := "Program tree as JSON"
  serialize p := .ok p.toJson

/-- The tree of a program as YAML. -/
def yaml : Formatter where
  name := "yaml".toList
  description := "Program tree as YAML"
  serialize p := .ok p.toYaml

end Formatter

/-- Formatters by name. -/
structure Registry where
  formatters : Std.TreeMap Text Formatter

namespace Registry

/-- The registry without formatters. -/
def empty : Registry := ⟨∅⟩

/-- Adds a formatter under its name. -/
def register (r : Registry) (f : Formatter) : Registry := ⟨r.formatters.insert f.name f⟩

/-- The formatter with the given name. -/
def get? (r : Registry) (name : Text) : Option Formatter := r.formatters[name]?

/-- Whether there is a formatter with the given name. -/
def has (r : Registry) (name : Text) : Bool := r.formatters.contains name

/-- The names of the formatters in ascending order. -/
def names (r : Registry) : List Text := r.formatters.keys

/-- Writes a program in the named format. -/
def serialize (r : Registry) (p : Program) (format : Text) : Except FormatError Text :=
  match r.get? format with
  | some f => f.serialize p
  | none => .error (.notFound format)

/-- The registry of all formats, listings being written with the given options. -/
def standard (options : RenderOptions) : Registry :=
  ((empty.register (.basic options)).register .json).register .yaml

end Registry

end Listing
