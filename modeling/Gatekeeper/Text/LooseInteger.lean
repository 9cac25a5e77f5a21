import Gatekeeper.Text.Integer
import Gatekeeper.Text.Split

/-!
# Loosely written integers

An integer in ASCII digits that may have white space around it, a sign, zeros in
front, single underscores between digits and a fraction of zeros.  What is
superfluous is taken away, and what is left has to be a plain integer.  Among the
zeros in front any number of underscores may stand, and a minus sign may follow
them.
-/

namespace Gatekeeper

namespace Text

/-- What follows zeros in front; `last` is the character before, kept if nothing else is left. -/
def afterZeros? (last : Char) : List Char → Option (List Char)
  | [] => some [last]
  | c :: rest =>
      if c = '0' ∨ c = '_' then afterZeros? c rest
      else if c.isDigit ∨ c = '-' then some (c :: rest)
      else if c = '.' then some (last :: c :: rest)
      else none

/-- Without superfluous zeros in front; the first character has to be a digit. -/
def dropLeadingZeros? : List Char → Option (List Char)
  | [] => none
  | c :: rest =>
      if c = '0' then afterZeros? c rest
      else if c.isDigit then some (c :: rest)
      else none

/-- Without a fraction of one or more zeros, if there is a point. -/
def dropZeroFraction (cs : List Char) : List Char :=
  match cs.span (· ≠ '.') with
  | (whole, '.' :: zeros) => if zeros ≠ [] ∧ zeros.all (· = '0') then whole else cs
  | _ => cs

/-- Without underscores, if each of them stands between two other characters. -/
def dropUnderscores (cs : List Char) : List Char :=
  if cs.head? = some '_' ∨ cs.getLast? = some '_' ∨ occursIn ['_', '_'] cs then cs
  else cs.filter (· ≠ '_')

/-- A text without what is superfluous in an integer; a minus sign in front is kept. -/
def plain? : List Char → Option (List Char)
  | '+' :: rest => unsigned? rest
  | '-' :: rest => (unsigned? rest).map ('-' :: ·)
  | cs => unsigned? cs
where
  /-- The same for what follows a sign. -/
  unsigned? (cs : List Char) : Option (List Char) :=
    (dropLeadingZeros? cs).map (dropUnderscores ∘ dropZeroFraction)

/--
Read a sign and digits without superfluous zeros.  A minus sign counts towards
the limit, and the limit is looked at before what follows the digits.
-/
def readPlainInteger (cs : List Char) : Except IntegerFault Int :=
  let (negative, rest) := splitSign cs
  let digits := rest.takeWhile Char.isDigit
  if digits = [] ∨ (digits.head? = some '0' ∧ digits.length ≠ 1) then
    .error (.notLiteral (String.ofList cs))
  else if digitLimit < digits.length + (if negative then 1 else 0) then
    .error (.tooLong digits.length)
  else if rest.length = digits.length then
    .ok (signed negative (digits.filterMap asciiDigitValue?))
  else
    .error (.notLiteral (String.ofList cs))

def readLooseInteger (s : String) : Except IntegerFault Int :=
  match plain? (trim isWhiteSpace s.toList) with
  | some cs => readPlainInteger cs
  | none => .error (.notLiteral s)

end Text

end Gatekeeper
