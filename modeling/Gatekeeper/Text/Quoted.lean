import Gatekeeper.Text.Printable

/-!
# Quoted text

A text between quotes, with the quote and the backslash escaped and every
character that is not shown as itself written by its code.  Single quotes are
used unless the text holds a single quote and no double quote.
-/

namespace Gatekeeper

namespace Text

/-- The last `width` lower-case hexadecimal digits of a number. -/
def hexDigits : (width n : Nat) → List Char
  | 0, _ => []
  | width + 1, n => hexDigits width (n / 16) ++ [Nat.digitChar (n % 16)]

/-- A character written by its code, in the shortest of the three forms that hold it. -/
def codeEscape (c : Char) : List Char :=
  let n := c.toNat
  if n < 0x100 then '\\' :: 'x' :: hexDigits 2 n
  else if n < 0x10000 then '\\' :: 'u' :: hexDigits 4 n
  else '\\' :: 'U' :: hexDigits 8 n

/-- One character between quotes; `shown` tells which characters stand for themselves. -/
def escapeChar (shown : Char → Bool) (mark c : Char) : List Char :=
  if c = mark ∨ c = '\\' then ['\\', c]
  else if c = '\t' then ['\\', 't']
  else if c = '\n' then ['\\', 'n']
  else if c = '\r' then ['\\', 'r']
  else if shown c then [c]
  else codeEscape c

def quoteMark (cs : List Char) : Char :=
  if cs.contains '\'' && !cs.contains '"' then '"' else '\''

def quoteChars (shown : Char → Bool) (cs : List Char) : List Char :=
  let mark := quoteMark cs
  mark :: (cs.flatMap (escapeChar shown mark) ++ [mark])

/-- Quoted, with printable characters as themselves. -/
def quote (s : String) : String := String.ofList (quoteChars isPrintable s.toList)

def isAsciiPrintable (c : Char) : Bool := 0x20 ≤ c.toNat && c.toNat < 0x7f

def quoteList (texts : List String) : String := "[" ++ ", ".intercalate (texts.map quote) ++ "]"

/-- A tuple of texts between parentheses, each quoted; a single one is followed by a comma. -/
def quoteTuple : List String → String
  | [text] => "(" ++ quote text ++ ",)"
  | texts => "(" ++ ", ".intercalate (texts.map quote) ++ ")"

end Text

end Gatekeeper
