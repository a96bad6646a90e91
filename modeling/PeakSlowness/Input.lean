import PeakSlowness.Config
import PeakSlowness.Session
import PeakSlowness.StatFile

set_option autoImplicit false

/-!
Input: finding the statistics file and loading the applications in it. A directory stands for the file
`apps.stat` in it.
-/

namespace PeakSlowness

/-- The name of the statistics file in a directory of results. -/
def statFileName : String := "apps.stat"

/-- The failure of a statistics file at a path. -/
def StatFile.Fault.failure (path : FilePath) : StatFile.Fault → Failure
  | .notText reason => .input path (.notText reason)
  | .malformed line => .malformed line

namespace Action

def resolveInput (p : FilePath) : Action FilePath := do
  let p ← expandHome p
  match ← query fun d cwd => d.isDirectory cwd p with
  | .ok true => return p.child statFileName
  | .ok false => return p
  | .error e => throw (.system e p)

/-- Loads the applications of a statistics file in order. The parsing mode is looked at before the
file. -/
def load (path : FilePath) (cfg : Setting) : Action (List Application) := do
  let mode ← ofExcept id (Config.mode cfg)
  let octets ←
    match ← readFile path with
    | .ok octets => pure octets
    | .error (.errno e) => throw (.input path (.system e))
    | .error fault => throw (.ofCall path fault)
  let apps ← ofExcept (StatFile.Fault.failure path) (StatFile.read mode octets)
  log .info ("loaded " ++ toString apps.length ++ " app record(s) from " ++ path.toText ++ " (" ++
    mode.name ++ " parsing)")
  return apps

end Action

end PeakSlowness
