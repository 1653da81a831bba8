/-!
The journal: what the library has to say about its work, beside its results.
-/
namespace AgentTeams.Journal

inductive Level where
  | debug
  | info
  | warn
  | error
deriving DecidableEq

def Level.name : Level → String
  | debug => "DEBUG"
  | info => "INFO"
  | warn => "WARN"
  | error => "ERROR"

structure Entry where
  level : Level
  text : String
deriving DecidableEq

end AgentTeams.Journal

namespace AgentTeams

/-- Entries in the order in which they were made. -/
abbrev Journal := List Journal.Entry

end AgentTeams
