import Gatekeeper.Command.Transcript
import Gatekeeper.Random.Twister
import Gatekeeper.Simulation.Trial

/-!
# The simulation command

Makes trials as its arguments say and prints a report.  Arguments that are no
flags of it are ignored, and of repeated flags the first counts.
-/

namespace Gatekeeper

namespace Command

def flag? (arguments : List String) (name : String) : Except Failure (Option Int) :=
  let start := ("--" ++ name ++ "=").toList
  match arguments.find? fun argument => start.isPrefixOf argument.toList with
  | none => .ok none
  | some argument =>
      match Text.readInteger (String.ofList (argument.toList.drop start.length)) with
      | .ok n => .ok (some n)
      | .error fault => .error (.badInteger fault)

structure SimulateOptions where
  runs : Int
  longest : Int
  seed : Option Int
deriving DecidableEq, Repr

namespace SimulateOptions

def ofArguments (arguments : List String) : Except Failure SimulateOptions := do
  let runs ← flag? arguments "runs"
  let longest ← flag? arguments "max-length"
  let seed ← flag? arguments "seed"
  return ⟨runs.getD 100, longest.getD 50, seed⟩

end SimulateOptions

/-- Make trials on copies of a store; `chance` is the seed where none is given. -/
def simulate (root : Log.Root) (fresh : Store) (chance : Int)
    (valueOf? : String → Option String) (arguments : List String) : Transcript :=
  match Config.ofEnvironment valueOf? with
  | .error complaints => ⟨"", .error (.invalidConfig complaints), root⟩
  | .ok config =>
      let root := root.setSeverity config.logLevel.severity
      match SimulateOptions.ofArguments arguments with
      | .error failure => ⟨"", .error (.failed failure), root⟩
      | .ok options =>
          let heading := Transcript.line "Running credential store simulation...\n"
          let trials : Trials Twister := {
            source := Twister.source
            fresh
            longest := options.longest
            limit := config.exhaustiveShrinkLimit }
          match trials.run options.seed options.runs
              (Twister.ofSeed (options.seed.getD chance)) with
          | .error failure => ⟨heading, .error (.failed failure), root⟩
          | .ok report =>
              let status := if report.passed then 0 else 1
              ⟨heading ++ Transcript.line report.summary, .ok status, root⟩

end Command

end Gatekeeper
