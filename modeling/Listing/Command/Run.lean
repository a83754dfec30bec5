import Listing.Command.Arguments
import Listing.Command.Log
import Listing.Files.Workspace

/-!
# Running a command

A command takes its settings from the defaults, a settings file and its own switches, and reformats
its input. It ends with an exit code: 0 if all went well, 1 if not, 2 if the arguments make no sense,
and 101 if a settings file speaks of an item that no array can have.
-/

namespace Listing

/-- Why a command failed. -/
inductive CommandError where
  | settings (cause : SettingsError)
  | process (cause : ProcessError)

namespace CommandError

/-- What is said about an error. -/
def message : CommandError → String
  | .settings cause => "Configuration error: " ++ cause.message
  | .process cause => cause.message

/-- The exit code of a command that failed. -/
def code : CommandError → UInt8
  | .settings .noSuchItem => 101
  | _ => 1

end CommandError

/-- What a command leaves behind. -/
structure Report where
  /-- The exit code. -/
  code : UInt8
  /-- The entries that were written to the log. -/
  log : List LogEntry
  /-- Why the command failed, if it did. -/
  error : Option CommandError
  /-- The folder and the streams. -/
  workspace : Workspace

namespace Command

/-- The settings file that is read if it is there and no other is given. -/
def usualSettings : Text := "cbm-reformat.toml".toList

/-- The layers of settings of a command. A switch can turn a step on, not off. -/
def layers (c : Command) : List Settings.Layer :=
  let file : Settings.Layer :=
    match c.settings with
    | some path => .file path true
    | none => .file usualSettings false
  let switch (isOn : Bool) (key : String) : List Settings.Layer :=
    if isOn then [.value key.toList (.boolean true)] else []
  file :: switch c.splitLines "reformat.split_lines" ++
    switch c.addExplanations "reformat.add_explanations"

/-- Runs a command. -/
def run (c : Command) (w : Workspace) : Report :=
  let failed (e : CommandError) (log : List LogEntry) : Report := ⟨e.code, log, some e, w⟩
  match Settings.load w.folder c.layers with
  | .error e => failed (.settings e) []
  | .ok s =>
    let done := w.process (Registry.standard s.render) s.reformat c.format c.input c.output
    let log :=
      (.configured s :: done.events.map LogEntry.event).filter (LogEntry.isShown c.isVerbose)
    match done.result with
    | .ok w => ⟨0, log, none, w⟩
    | .error e => failed (.process e) log

end Command

namespace Request

/-- The name and version of the program. -/
def versionText : String := "cbm-reformat 0.1.0\n"

/-- How to call the program. -/
def usageText : String := "Usage: cbm-reformat [OPTIONS] <input> <output>\n"

/-- What the arguments of the program mean. -/
def helpText : String :=
  "Reformat Commodore BASIC V2 listings\n\n" ++ usageText ++ "\n" ++
    "Arguments:\n" ++
    "  <input>   BASIC listing to read, or - for stdin\n" ++
    "  <output>  File to write, or - for stdout\n\n" ++
    "Options:\n" ++
    "      --split-lines       Move colon-separated statements onto their own lines\n" ++
    "      --add-explanations  Append a REM describing each line\n" ++
    "  -c, --config <FILE>     Configuration file layered over the defaults\n" ++
    "  -f, --format <format>   Output format (basic, json, yaml, tokens-simple, tokens-json) " ++
    "[default: basic]\n" ++
    "  -v, --verbose           Log pipeline steps to stderr\n" ++
    "  -h, --help              Print help\n" ++
    "  -V, --version           Print version\n"

/-- Does what the arguments ask for. -/
def perform (arguments : List Text) (w : Workspace) : Report :=
  let say (text : String) : Workspace := { w with output := w.output ++ Utf8.encode text.toList }
  match parse? arguments with
  | none => ⟨2, [], none, w⟩
  | some .version => ⟨0, [], none, say versionText⟩
  | some .help => ⟨0, [], none, say helpText⟩
  | some (.run c) => c.run w

end Request

end Listing
