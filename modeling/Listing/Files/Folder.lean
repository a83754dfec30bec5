import Std.Data.TreeMap
import Listing.Text.Utf8

/-!
# Folders

A folder holds files and other folders by their paths. A path is written with slashes between its
names; a name `.` stays where it is and a name `..` goes up. Each name is looked up in a folder. The
folders that the folder itself lies in are there as well, but nothing is known to be in them.
-/

namespace Listing

/-- What a path leads to. -/
inductive Entry where
  | file (content : Bytes)
  | directory
  deriving DecidableEq, Repr

/-- The names on the way to an entry. -/
abbrev Path := List Text

namespace Path

/-- The name of the root, where a path with a slash in front starts. -/
def root : Text := ['/']

/-- The name that stays in a folder. -/
def here : Text := ['.']

/-- The name for the way up. -/
def up : Text := ['.', '.']

/-- The greatest length of a name in bytes. -/
def longestName : Nat := 255

/-- The greatest length of a written path in bytes. -/
def longestText : Nat := 4095

/-- Where a written path starts. -/
def start (t : Text) : Path := if t.head? = some '/' then [root] else []

/-- The names of a written path. -/
def names (t : Text) : List Text := (t.splitOn '/').filter (!·.isEmpty)

/-- The parts of a written path: where it starts, and the names that lead on from there. -/
def parts (t : Text) : List Text := start t ++ (names t).filter (· != here)

/-- A path as it is written. -/
def text : Path → Text
  | [] => []
  | first :: others =>
    if first = root then root ++ ['/'].intercalate others else ['/'].intercalate (first :: others)

/-- Whether a slash ends a written path, so that it can only lead to a folder. -/
def endsInSlash (t : Text) : Bool := t.getLast? == some '/'

/-- Whether a path leads to the folder itself or to one that it lies in. -/
def isAbove (p : Path) : Bool := p == [root] || p.all (· == up)

/-- The way up from a path. -/
def parent (p : Path) : Path :=
  if p = [root] then p else if p.isAbove then p ++ [up] else p.dropLast

/-- The paths on the way of the parts from `here`. -/
def stations (here : Path) : List Text → List Path
  | [] => []
  | name :: parts =>
    let there := if name = up then parent here else here ++ [name]
    there :: stations there parts

end Path

/-- Why a file could not be read or written. -/
inductive FileError where
  | notFound | notDirectory | isDirectory | nameTooLong | zeroInName | notUtf8
  deriving DecidableEq, Repr

namespace FileError

/-- What is said about an error. -/
def message : FileError → String
  | .notFound => "No such file or directory (os error 2)"
  | .notDirectory => "Not a directory (os error 20)"
  | .isDirectory => "Is a directory (os error 21)"
  | .nameTooLong => "File name too long (os error 36)"
  | .zeroInName => "file name contained an unexpected NUL byte"
  | .notUtf8 => "stream did not contain valid UTF-8"

end FileError

/-- Files and folders by path. -/
structure Folder where
  entries : Std.TreeMap Path Entry

namespace Folder

/-- The folder without entries. -/
def empty : Folder := ⟨∅⟩

/-- What a path leads to. -/
def find? (f : Folder) (p : Path) : Option Entry :=
  if p.isAbove then some .directory else f.entries[p]?

/-- Puts an entry at a path. -/
def insert (f : Folder) (p : Path) (e : Entry) : Folder := ⟨f.entries.insert p e⟩

/-- Puts an entry at a written path, with the folders on its way. -/
def place (f : Folder) (path : Text) (e : Entry) : Folder :=
  let parts := Path.parts path
  let parents := (Path.stations [] parts).dropLast
  (parents.foldl (fun f p => f.insert p .directory) f).insert parts e

/-- The path that a name leads to from another path, which has to lead to a folder. -/
def step (f : Folder) (p : Path) (name : Text) : Except FileError Path :=
  match f.find? p with
  | none => .error .notFound
  | some (.file _) => .error .notDirectory
  | some .directory =>
    if name = Path.here then .ok p
    else if name = Path.up then .ok (Path.parent p)
    else if Path.longestName < Text.byteLength name then .error .nameTooLong
    else .ok (p ++ [name])

/-- The path that names lead to from another path. -/
def walk (f : Folder) (p : Path) : List Text → Except FileError Path
  | [] => .ok p
  | name :: names =>
    match f.step p name with
    | .ok p => f.walk p names
    | .error e => .error e

/-- The path that the given names of a written path lead to from its start. -/
def resolve (f : Folder) (path : Text) (names : List Text) : Except FileError Path :=
  if path.contains '\x00' then .error .zeroInName
  else if path = [] then .error .notFound
  else if Path.longestText < Text.byteLength path then .error .nameTooLong
  else f.walk (Path.start path) names

/-- The content of the file at a written path. -/
def read (f : Folder) (path : Text) : Except FileError Bytes := do
  match f.find? (← f.resolve path (Path.names path)) with
  | none => .error .notFound
  | some .directory => .error .isDirectory
  | some (.file content) =>
    if Path.endsInSlash path then .error .notDirectory else .ok content

/-- The names that are followed to write to a path. A name in front of a slash at the end is not
    looked up: what it leads to could only be a folder. -/
def namesToWrite (path : Text) : List Text :=
  if Path.endsInSlash path then (Path.names path).dropLast ++ [Path.here] else Path.names path

/-- The folder with the given content in the file at a written path. -/
def write (f : Folder) (path : Text) (content : Bytes) : Except FileError Folder := do
  let p ← f.resolve path (namesToWrite path)
  match f.find? p with
  | some .directory => .error .isDirectory
  | _ => .ok (f.insert p (.file content))

end Folder

end Listing
