import Listing.Event
import Listing.Settings.Basic

/-!
# The log

A command writes what happens to a log: the settings it runs with, then the events of the run. Each
entry is a line with its level, the part it comes from, its message and its named values. Warnings
are always written, all else only on demand.

Where a command is not verbose, an environment variable can set another filter. That filter is left
out: the variable is taken not to be set.
-/

namespace Listing

/-- An entry of the log. -/
inductive LogEntry where
  | configured (settings : Settings)
  | event (e : Event)
  deriving DecidableEq, Repr

namespace Level

/-- The name of a level. -/
def name : Level → String
  | .debug => "DEBUG"
  | .warn => "WARN"

end Level

namespace Origin

/-- The name of a part. -/
def name : Origin → String
  | .building => "cbm_reformat::basic::building"
  | .splitting => "cbm_reformat::basic::splitting"
  | .explaining => "cbm_reformat::basic::explaining"
  | .processor => "cbm_reformat::basic::processor"

end Origin

namespace Settings

/-- Settings in words. -/
def describe (s : Settings) : String :=
  let flag (b : Bool) := if b then "true" else "false"
  "ReformatConfig \x7b reformat: ReformatOptions \x7b split_lines: " ++ flag s.reformat.splitLines ++
    ", add_explanations: " ++ flag s.reformat.addExplanations ++
    " \x7d, render: RenderOptions \x7b statement_separator: " ++
    String.ofList (Text.quoted s.render.separator) ++ ", uppercase_keywords: " ++
    flag s.render.uppercase ++ " \x7d \x7d"

end Settings

namespace LogEntry

/-- The level of an entry. -/
def level : LogEntry → Level
  | .configured _ => .debug
  | .event e => e.level

/-- The line of an entry. -/
def line : LogEntry → String
  | .configured s => "DEBUG cbm_reformat: loaded configuration config=" ++ s.describe
  | .event e =>
    e.level.name ++ " " ++ e.origin.name ++ ": " ++ e.message ++
      String.join (e.fields.map fun (key, value) => " " ++ key ++ "=" ++ String.ofList value)

/-- Whether an entry is written, where the environment sets no filter. -/
def isShown (isVerbose : Bool) (entry : LogEntry) : Bool := isVerbose || entry.level == .warn

end LogEntry

end Listing
