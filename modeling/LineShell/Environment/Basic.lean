/-!
# Environment variables
-/
namespace LineShell

/-- The variables of a process, each with its value. -/
abbrev Environment := List (String × String)

namespace Environment

def get? (env : Environment) (name : String) : Option String :=
  env.lookup name

def set (env : Environment) (name value : String) : Environment :=
  if (env.get? name).isSome then
    env.map fun (n, v) => if n = name then (n, value) else (n, v)
  else env ++ [(name, value)]

/-- The environment with a variable set, unless it is set already. -/
def setDefault (env : Environment) (name value : String) : Environment :=
  if (env.get? name).isSome then env else env ++ [(name, value)]

end Environment
end LineShell
