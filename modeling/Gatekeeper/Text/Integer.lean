import Gatekeeper.Text.Blank
import Gatekeeper.Text.Digit
import Gatekeeper.Text.Quoted

/-!
# Reading integers

An integer is a sign and the digits of any script, with single underscores
between digits and blanks around it all.  The number of digits is limited.
-/

namespace Gatekeeper

namespace Text

/-- One or more digits with single underscores allowed between two of them. -/
def groupedDigits? (value? : Char → Option Nat) : List Char → Option (List Nat)
  | [] => none
  | [c] => (value? c).map ([·])
  | c :: '_' :: rest =>
      match value? c with
      | some d => (groupedDigits? value? rest).map (d :: ·)
      | none => none
  | c :: rest =>
      match value? c with
      | some d => (groupedDigits? value? rest).map (d :: ·)
      | none => none

/-- Split off an optional sign: whether the number is negative, and what follows. -/
def splitSign : List Char → Bool × List Char
  | '+' :: rest => (false, rest)
  | '-' :: rest => (true, rest)
  | cs => (false, cs)

def signed (negative : Bool) (digits : List Nat) : Int :=
  if negative then -(ofDigits digits : Int) else ofDigits digits

inductive IntegerFault where
  /-- The text is not a sign and digits. -/
  | notLiteral (text : String)
  /-- The text starts with more digits than are converted. -/
  | tooLong (digits : Nat)
deriving DecidableEq, Repr

def digitLimit : Nat := 4300

/-- How much of a quoted text that is no integer is shown. -/
def shownLength : Nat := 200

namespace IntegerFault

def message : IntegerFault → String
  | notLiteral text =>
      "invalid literal for int() with base 10: "
        ++ String.ofList ((quote text).toList.take shownLength)
  | tooLong digits =>
      "Exceeds the limit (" ++ toString digitLimit ++ " digits) for integer string conversion: "
        ++ "value has " ++ toString digits
        ++ " digits; use sys.set_int_max_str_digits() to increase the limit"

end IntegerFault

/--
The number of digits before the first character that is neither a digit nor a
single underscore after one; two underscores in a row, or one at the end, leave
nothing to count.
-/
def leadingDigits (value? : Char → Option Nat) (cs : List Char) : Nat :=
  let run := cs.takeWhile fun c => (value? c).isSome || c = '_'
  if (groupedDigits? value? run).isSome then (run.filter (· ≠ '_')).length else 0

/-- Read an integer in the digits of any script. -/
def readInteger (s : String) : Except IntegerFault Int :=
  let (negative, rest) := splitSign (trim isWhiteSpace s.toList)
  if digitLimit < leadingDigits digitValue? rest then
    .error (.tooLong (leadingDigits digitValue? rest))
  else
    match groupedDigits? digitValue? rest with
    | some digits => .ok (signed negative digits)
    | none => .error (.notLiteral s)

end Text

end Gatekeeper
