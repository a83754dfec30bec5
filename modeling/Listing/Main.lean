import Listing.Command.Run

/-!
# The program

Gathers the arguments, the standard streams and the files that a command is about, has the command
run on them, and puts what it leaves behind in its place.
-/

namespace Listing

/-- Reads a stream to its end. -/
partial def readToEnd (stream : IO.FS.Stream) (front : ByteArray) : IO ByteArray := do
  let bytes ← stream.read 65536
  if bytes.isEmpty then return front else readToEnd stream (front ++ bytes)

/-- What is found on disk at a path. -/
def entryOnDisk? (path : Path) : IO (Option Entry) := do
  let name := String.ofList (Path.text path)
  try
    if ← (← IO.FS.realPath name).isDir then return some .directory
    return some (.file (← IO.FS.readBinFile name).toList)
  catch _ => return none

/-- Adds what is found on disk on the way of a written path. -/
def addFromDisk (folder : Folder) (path : Text) : IO Folder :=
  (Path.stations [] (Path.parts path)).foldlM (fun folder station => do
    match ← entryOnDisk? station with
    | some entry => return folder.insert station entry
    | none => return folder) folder

/-- The paths that a command may read or write. -/
def Command.paths (c : Command) : List Text :=
  let settings := c.settings.getD Command.usualSettings
  [c.input, c.output].filter (· != Workspace.standardPath) ++
    settings :: (Settings.withEnding? settings).toList

/-- Writes the result of a command to disk. -/
def Command.save (c : Command) (folder : Folder) : IO Unit := do
  if c.output ≠ Workspace.standardPath then
    if let .ok content := folder.read c.output then
      IO.FS.writeBinFile (String.ofList c.output) (ByteArray.mk content.toArray)

/-- Runs the program with the given arguments and gives its exit code. -/
def runProgram (arguments : List String) : IO UInt32 := do
  let arguments := arguments.map String.toList
  let command? := match Request.parse? arguments with
    | some (.run c) => some c
    | _ => none
  let folder ← (command?.map Command.paths).getD [] |>.foldlM addFromDisk Folder.empty
  let input ←
    if command?.any (·.input = Workspace.standardPath) then readToEnd (← IO.getStdin) .empty
    else pure .empty
  let report := Request.perform arguments ⟨folder, input.toList, []⟩
  report.log.forM fun entry => IO.eprintln entry.line
  if let some e := report.error then IO.eprintln ("Error: " ++ e.message)
  if report.code = 2 then IO.eprint Request.usageText
  if report.code = 0 then
    if let some c := command? then c.save report.workspace.folder
  (← IO.getStdout).write (ByteArray.mk report.workspace.output.toArray)
  return report.code.toUInt32

end Listing

/-- Runs the program. -/
def main (arguments : List String) : IO UInt32 := Listing.runProgram arguments
