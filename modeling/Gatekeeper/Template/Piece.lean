/-!
# The pieces of a template

A template is literal text with fields between braces; a doubled brace stands
for itself.  A field has a name, perhaps a conversion after an exclamation mark,
and perhaps a format after a colon, which may hold braces of its own.  Malformed
text is a piece too: what stands before it is used, and it is reported only when
it is reached.
-/

namespace Gatekeeper

namespace Template

inductive Malformation where
  | loneOpening
  | loneClosing
  | openingInName
  | unclosedName
  | missingConversion
  | colonExpected
  | unclosedFormat
deriving DecidableEq, Repr

namespace Malformation

def message : Malformation → String
  | loneOpening => "Single '\x7b' encountered in format string"
  | loneClosing => "Single '\x7d' encountered in format string"
  | openingInName => "unexpected '\x7b' in field name"
  | unclosedName => "expected '\x7d' before end of string"
  | missingConversion => "end of string while looking for conversion specifier"
  | colonExpected => "expected ':' after conversion specifier"
  | unclosedFormat => "unmatched '\x7b' in format spec"

end Malformation

/-- A field as it is written. -/
structure Field where
  name : List Char
  conversion : Option Char
  format : List Char
deriving DecidableEq, Repr

inductive Piece where
  | literal (c : Char)
  | field (f : Field)
  | malformed (m : Malformation)
deriving DecidableEq, Repr

/-- Where the reader of a template stands; what is read of a name or format is kept reversed. -/
inductive Position where
  | text
  | name (read : List Char)
  | bracket (read : List Char)
  | conversion (name : List Char)
  | converted (name : List Char) (conversion : Char)
  | format (name : List Char) (conversion : Option Char) (read : List Char) (depth : Nat)
deriving DecidableEq, Repr

/-- The pieces of the text from a position on; a malformed piece is always the last. -/
def piecesFrom : Position → List Char → List Piece
  | .text, [] => []
  | .text, ['\x7b'] => [.malformed .loneOpening]
  | .text, '\x7b' :: '\x7b' :: rest => .literal '\x7b' :: piecesFrom .text rest
  | .text, '\x7b' :: rest => piecesFrom (.name []) rest
  | .text, '\x7d' :: '\x7d' :: rest => .literal '\x7d' :: piecesFrom .text rest
  | .text, '\x7d' :: _ => [.malformed .loneClosing]
  | .text, c :: rest => .literal c :: piecesFrom .text rest
  | .name _, [] => [.malformed .unclosedName]
  | .name read, c :: rest =>
      match c with
      | '\x7b' => [.malformed .openingInName]
      | '\x7d' => .field ⟨read.reverse, none, []⟩ :: piecesFrom .text rest
      | '[' => piecesFrom (.bracket ('[' :: read)) rest
      | '!' => piecesFrom (.conversion read.reverse) rest
      | ':' => piecesFrom (.format read.reverse none [] 0) rest
      | c => piecesFrom (.name (c :: read)) rest
  | .bracket _, [] => [.malformed .unclosedName]
  | .bracket read, c :: rest =>
      if c = ']' then piecesFrom (.name (c :: read)) rest
      else piecesFrom (.bracket (c :: read)) rest
  | .conversion _, [] => [.malformed .missingConversion]
  | .conversion name, c :: rest => piecesFrom (.converted name c) rest
  | .converted _ _, [] => [.malformed .unclosedFormat]
  | .converted name conversion, c :: rest =>
      match c with
      | '\x7d' => .field ⟨name, some conversion, []⟩ :: piecesFrom .text rest
      | ':' => piecesFrom (.format name (some conversion) [] 0) rest
      | _ => [.malformed .colonExpected]
  | .format _ _ _ _, [] => [.malformed .unclosedFormat]
  | .format name conversion read depth, c :: rest =>
      match c, depth with
      | '\x7d', 0 => .field ⟨name, conversion, read.reverse⟩ :: piecesFrom .text rest
      | '\x7d', depth + 1 => piecesFrom (.format name conversion ('\x7d' :: read) depth) rest
      | '\x7b', depth => piecesFrom (.format name conversion ('\x7b' :: read) (depth + 1)) rest
      | c, depth => piecesFrom (.format name conversion (c :: read) depth) rest

def pieces (template : List Char) : List Piece := piecesFrom .text template

end Template

end Gatekeeper
