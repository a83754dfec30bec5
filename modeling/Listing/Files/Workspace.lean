import Listing.Files.Folder
import Listing.Reformat

/-!
# Working on files

A workspace is the folder that a command runs in, with its standard input and output. The path `-`
stands for them. A file is read leniently, standard input strictly. Nothing is written before the
input has been read and reformatted.
-/

namespace Listing

/-- A folder and the standard streams. -/
structure Workspace where
  folder : Folder
  /-- What standard input holds. -/
  input : Bytes
  /-- What has been written to standard output. -/
  output : Bytes

/-- Why an input could not be processed. -/
inductive ProcessError where
  | file (path : Text) (cause : FileError)
  | format (cause : FormatError)
  deriving DecidableEq, Repr

namespace ProcessError

/-- What is said about an error. -/
def message : ProcessError → String
  | .file path cause => "IO error on " ++ String.ofList path ++ ": " ++ cause.message
  | .format cause => cause.message

end ProcessError

namespace Workspace

/-- The path that stands for the standard streams. -/
def standardPath : Text := ['-']

/-- The source text at a path. -/
def readSource (w : Workspace) (path : Text) : Except ProcessError Text :=
  if path = standardPath then
    match Utf8.decode? w.input with
    | some t => .ok t
    | none => .error (.file path .notUtf8)
  else
    match w.folder.read path with
    | .ok bytes => .ok (Utf8.decodeLenient bytes)
    | .error e => .error (.file path e)

/-- The workspace with a text written to a path. -/
def writeOutput (w : Workspace) (path text : Text) : Except ProcessError Workspace :=
  if path = standardPath then .ok { w with output := w.output ++ Utf8.encode text }
  else
    match w.folder.write path (Utf8.encode text) with
    | .ok folder => .ok { w with folder }
    | .error e => .error (.file path e)

/-- Reformats the source at one path and writes it to another. -/
def process (w : Workspace) (registry : Registry) (options : ReformatOptions)
    (format input output : Text) : Logged (Except ProcessError Workspace) :=
  match w.readSource input with
  | .error e => ⟨.error e, []⟩
  | .ok source =>
    let run := registry.reformat options format source
    match run.result with
    | .error e => ⟨.error (.format e), run.events⟩
    | .ok text => ⟨w.writeOutput output text, run.events⟩

end Workspace

end Listing
