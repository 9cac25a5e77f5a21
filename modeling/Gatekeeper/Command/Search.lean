import Gatekeeper.Command.Transcript
import Gatekeeper.Contract.Search

/-!
# The search command

Searches for broken contracts and prints a report.
-/

namespace Gatekeeper

namespace Command

def search (root : Log.Root) (search : Contract.Search) : Transcript :=
  let heading := Transcript.line "Running credential store counterexample search...\n"
  match search.run with
  | .error failure => ⟨heading, .error (.failed failure), root⟩
  | .ok tally =>
      ⟨heading ++ Transcript.line tally.summary, .ok (if tally.passed then 0 else 1), root⟩

end Command

end Gatekeeper
