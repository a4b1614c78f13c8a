/-
**Levels of notices.**

* `Level.ofName?`: the level with a name, which ends at its first NUL; the highest level has none,
  so no threshold hides it.
* `Level.admits`: a threshold lets notices of its own level and above through.
-/

import Canopen.Text

namespace Canopen

/-- How much a notice matters, rising from `debug`. -/
inductive Level
  | debug
  | info
  | warning
  | error
  | system
  deriving DecidableEq, Repr, Inhabited

namespace Level

/-- The rank, from zero. -/
def rank : Level → Nat
  | debug => 0
  | info => 1
  | warning => 2
  | error => 3
  | system => 4

/-- The tag in front of a notice. -/
def tag : Level → String
  | debug => "[DEBUG]"
  | info => "[INFO]"
  | warning => "[WARN]"
  | error => "[ERROR]"
  | system => "[SYSTEM]"

/-- The names that select a level. -/
def names : List (String × Level) :=
  [("debug", debug), ("DEBUG", debug), ("info", info), ("INFO", info),
    ("warn", warning), ("warning", warning), ("WARN", warning), ("WARNING", warning),
    ("error", error), ("err", error), ("ERROR", error), ("ERR", error)]

/-- The level with a name. -/
def ofName? (name : Text) : Option Level :=
  (names.find? fun entry => Text.ofString entry.1 == name.cut).map Prod.snd

/-- The threshold lets the level through. -/
def admits (threshold level : Level) : Bool :=
  threshold.rank ≤ level.rank

end Level

end Canopen
