import SourceWatch.Association
import SourceWatch.Log

/-!
# The environment

Main definitions:

* `Environment`: the environment variables; a variable that is set to the empty text counts as unset.
* `Environment.chosenRank`: the log rank that a name, or failing that the environment, chooses.
-/

namespace SourceWatch

/-- The environment variables and their values. -/
abbrev Environment := List (String × String)

namespace Environment

/-- The value of a variable that is set to something. -/
def nonempty? (env : Environment) (name : String) : Option String :=
  (Association.get? name env).filter (· ≠ "")

/-- The variable that names the configuration file. -/
def configVariable : String := "SECURITY_MONITOR_CONFIG"

/-- The variable that names the log level. -/
def levelVariable : String := "SECURITY_MONITOR_LOG_LEVEL"

/-- The log rank that a name chooses; without a name, the environment chooses. -/
def chosenRank (env : Environment) (name : Option String) : Nat :=
  levelRank (((name.filter (· ≠ "")).or (env.nonempty? levelVariable)).getD "INFO")

end Environment

end SourceWatch
