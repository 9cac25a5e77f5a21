import Gatekeeper.Text.Quoted
import Gatekeeper.Text.UpperCase

/-!
# Logging

The levels, the records that the parts of the system write, and the root logger
that is set up once for a process.
-/

namespace Gatekeeper

namespace Log

inductive Level where
  | debug
  | info
  | warning
  | error
  | critical
deriving DecidableEq, Repr

namespace Level

def all : List Level := [debug, info, warning, error, critical]

def name : Level → String
  | debug => "DEBUG"
  | info => "INFO"
  | warning => "WARNING"
  | error => "ERROR"
  | critical => "CRITICAL"

def severity : Level → Nat
  | debug => 10
  | info => 20
  | warning => 30
  | error => 40
  | critical => 50

def ofName? (s : String) : Option Level := all.find? (·.name = s)

theorem ofName?_name (level : Level) : ofName? level.name = some level := by
  cases level <;> decide

end Level

structure Record where
  level : Level
  logger : String
  message : String
deriving DecidableEq, Repr

namespace Record

def line (r : Record) : String := r.level.name ++ " " ++ r.logger ++ ": " ++ r.message

end Record

/-- The severity of any name that a logger can be set to, in capitals. -/
def severity? (s : String) : Option Nat :=
  match Level.ofName? s with
  | some level => some level.severity
  | none =>
      if s = "FATAL" then some 50 else if s = "WARN" then some 30
      else if s = "NOTSET" then some 0 else none

def lineFormat : String := "%(asctime)s %(levelname)s %(name)s: %(message)s"

/-- The root logger: the least severity it lets through, and the formats of its handlers. -/
structure Root where
  level : Nat := 30
  formats : List String := []
deriving DecidableEq, Repr

structure UnknownLevel where
  name : String
deriving DecidableEq, Repr

namespace UnknownLevel

def message (fault : UnknownLevel) : String := "Unknown level: " ++ Text.quote fault.name

end UnknownLevel

namespace Root

/-- Set the level and attach a handler if there is none yet. -/
def setSeverity (root : Root) (severity : Nat) : Root where
  level := severity
  formats := if root.formats.isEmpty then [lineFormat] else root.formats

/-- Set the level by name, whatever the case of its letters. -/
def configure (root : Root) (level : String) : Except UnknownLevel Root :=
  match severity? (Text.upperCase level) with
  | none => .error ⟨Text.upperCase level⟩
  | some severity => .ok (root.setSeverity severity)

end Root

end Log

end Gatekeeper
