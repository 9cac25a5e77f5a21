import Gatekeeper.Command.Search
import Gatekeeper.Command.Simulate

/-!
# The command line

`search` looks for broken contracts; anything else simulates.
-/

namespace Gatekeeper

namespace Command

def readEnvironment : IO (String → Option String) := do
  let mut values : List (String × String) := []
  for setting in Config.Setting.all do
    if let some value ← IO.getEnv setting.variableName then
      values := (setting.variableName, value) :: values
  let found := values
  return fun name => (found.find? (·.1 = name)).map (·.2)

def present (transcript : Transcript) : IO UInt32 := do
  IO.print transcript.output
  match transcript.ended with
  | .ok status => return UInt32.ofNat status
  | .error fault =>
      IO.eprintln fault.message
      return 1

def run : (arguments : List String) → IO UInt32
  | "search" :: _ => present (search {} {})
  | arguments => do
      let chance ← IO.rand 0 2147483647
      present (simulate {} simulatedStore chance (← readEnvironment) arguments)

end Command

end Gatekeeper

def main (arguments : List String) : IO UInt32 := Gatekeeper.Command.run arguments
