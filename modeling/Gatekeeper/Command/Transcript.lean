import Gatekeeper.Failure
import Gatekeeper.Form.Complaint
import Gatekeeper.Log

/-!
# Transcripts

What a command prints and how it ends, as a value.
-/

namespace Gatekeeper

inductive CommandFault where
  | invalidConfig (complaints : List Form.Complaint)
  | failed (failure : Failure)
deriving DecidableEq

namespace CommandFault

def message : CommandFault → String
  | invalidConfig complaints =>
      "\n".intercalate (complaints.map fun complaint =>
        ".".intercalate complaint.place ++ ": " ++ complaint.cause.message)
  | failed failure => failure.message

end CommandFault

/-- The run of a command: what it printed, its exit status unless it broke off, and the root
logger it leaves. -/
structure Transcript where
  output : String
  ended : Except CommandFault Nat
  log : Log.Root := {}

namespace Transcript

def line (text : String) : String := text ++ "\n"

end Transcript

end Gatekeeper
