/-!
# The environment

The variables that a process is started with.
-/

namespace MetricsAgent

/-- Variables and their values. -/
structure Environment where
  pairs : List (String × String)

namespace Environment

/-- The value of a variable that is set. -/
def get? (env : Environment) (name : String) : Option String :=
  (env.pairs.find? (·.1 == name)).map (·.2)

end Environment

end MetricsAgent
