import Gatekeeper.Text.Digit

/-!
# Field formats

The format of a field says how its text is laid out: a fill character and an
alignment, a minimal width and a maximal length.  The same little language also
describes numbers, so it has signs, separators and codes that a text refuses.  There is
memory for every text here that is shorter than the greatest number.
-/

namespace Gatekeeper

namespace Template

inductive LayoutFault where
  | tooManyDigits
  | commaAndUnderscore
  | missingPrecision
  | notAFormat (format : List Char)
  | separatorWith (separator code : Char)
  | unknownCode (code : Char)
  | spaceSign
  | sign
  | negativeZero
  | alternateForm
  | signAlignment
  /-- No text is as wide as the greatest number; a lack of memory has no message. -/
  | tooWide
deriving DecidableEq, Repr

/-- A character of a message: itself if it is visible ASCII, else its number. -/
def showCode (c : Char) (last : Nat) : String :=
  if 0x20 < c.toNat ∧ c.toNat ≤ last then c.toString
  else "\\x" ++ String.ofList (Nat.toDigits 16 c.toNat)

namespace LayoutFault

def message : LayoutFault → String
  | tooManyDigits => "Too many decimal digits in format string"
  | commaAndUnderscore => "Cannot specify both ',' and '_'."
  | missingPrecision => "Format specifier missing precision"
  | notAFormat format =>
      "Invalid format specifier '" ++ String.ofList format ++ "' for object of type 'str'"
  | separatorWith separator code =>
      "Cannot specify '" ++ separator.toString ++ "' with '" ++ showCode code 0x7f ++ "'."
  | unknownCode code =>
      "Unknown format code '" ++ showCode code 0x7f ++ "' for object of type 'str'"
  | spaceSign => "Space not allowed in string format specifier"
  | sign => "Sign not allowed in string format specifier"
  | negativeZero => "Negative zero coercion (z) not allowed in string format specifier"
  | alternateForm => "Alternate form (#) not allowed in string format specifier"
  | signAlignment => "'=' alignment not allowed in string format specifier"
  | tooWide => ""

end LayoutFault

/-- The greatest number that may stand in a template. -/
def numberLimit : Nat := 9223372036854775807

/--
The number at the front of a text, `none` if there is no digit, and what follows
it.  A number beyond the limit is refused at the digit that takes it there.
-/
def leadingNumberFrom (n : Option Nat) : List Char → Except LayoutFault (Option Nat × List Char)
  | [] => .ok (n, [])
  | c :: rest =>
      match Text.digitValue? c with
      | none => .ok (n, c :: rest)
      | some d =>
          if numberLimit < 10 * n.getD 0 + d then .error .tooManyDigits
          else leadingNumberFrom (some (10 * n.getD 0 + d)) rest

def leadingNumber (cs : List Char) : Except LayoutFault (Option Nat × List Char) :=
  leadingNumberFrom none cs

structure Layout where
  fill : Char
  align : Char
  sign : Option Char
  negativeZero : Bool
  alternate : Bool
  width : Option Nat
  separator : Option Char
  precision : Option Nat
  code : Char
deriving DecidableEq, Repr

def isAlignment (c : Char) : Bool := c = '<' || c = '>' || c = '=' || c = '^'

/-- The fill character and the alignment at the front, as far as they are given. -/
def readAlignment : List Char → Option Char × Option Char × List Char
  | fill :: align :: rest =>
      if isAlignment align then (some fill, some align, rest)
      else if isAlignment fill then (none, some fill, align :: rest)
      else (none, none, fill :: align :: rest)
  | [c] => if isAlignment c then (none, some c, []) else (none, none, [c])
  | [] => (none, none, [])

/-- Take a character off the front if it is of a class. -/
def readOne (accept : Char → Bool) : List Char → Option Char × List Char
  | c :: rest => if accept c then (some c, rest) else (none, c :: rest)
  | [] => (none, [])

/-- The thousands separator at the front; both of them together are refused. -/
def readSeparator : List Char → Except LayoutFault (Option Char × List Char)
  | ',' :: '_' :: _ => .error .commaAndUnderscore
  | '_' :: ',' :: _ => .error .commaAndUnderscore
  | ',' :: rest => .ok (some ',', rest)
  | '_' :: rest => .ok (some '_', rest)
  | cs => .ok (none, cs)

/-- The precision at the front, after a point. -/
def readPrecision : List Char → Except LayoutFault (Option Nat × List Char)
  | '.' :: rest => do
      match ← leadingNumber rest with
      | (none, _) => .error .missingPrecision
      | (some n, rest) => .ok (some n, rest)
  | cs => .ok (none, cs)

/-- The codes that a thousands separator goes with. -/
def allowsSeparator (separator code : Char) : Bool :=
  "defgEG%F\x00".toList.contains code || (separator = '_' && "boxX".toList.contains code)

def Layout.read (format : List Char) : Except LayoutFault Layout := do
  let (fill, align, rest) := readAlignment format
  let (sign, rest) := readOne (fun c => c = ' ' || c = '+' || c = '-') rest
  let (coerce, rest) := readOne (· = 'z') rest
  let (alternate, rest) := readOne (· = '#') rest
  let (zero, rest) := if fill.isNone then readOne (· = '0') rest else (none, rest)
  let (width, rest) ← leadingNumber rest
  let (separator, rest) ← readSeparator rest
  let (precision, rest) ← readPrecision rest
  let code ← match rest with
    | [] => .ok 's'
    | [c] => .ok c
    | _ => .error (.notAFormat format)
  match separator with
  | some mark =>
      if allowsSeparator mark code then pure () else .error (.separatorWith mark code)
  | none => pure ()
  return {
    fill := fill.getD (zero.getD ' '), align := align.getD '<', sign,
    negativeZero := coerce.isSome, alternate := alternate.isSome,
    width, separator, precision, code }

/-- The first thing in a format that a text refuses. -/
def Layout.refusal? (layout : Layout) : Option LayoutFault :=
  if layout.code ≠ 's' then some (.unknownCode layout.code)
  else if layout.sign = some ' ' then some .spaceSign
  else if layout.sign.isSome then some .sign
  else if layout.negativeZero then some .negativeZero
  else if layout.alternate then some .alternateForm
  else if layout.align = '=' then some .signAlignment
  else if layout.width = some numberLimit then some .tooWide
  else none

/-- Cut a text to the precision and fill it up to the width. -/
def Layout.apply (layout : Layout) (text : List Char) : List Char :=
  let text := match layout.precision with
    | some n => text.take n
    | none => text
  let missing := layout.width.getD 0 - text.length
  let left :=
    if layout.align = '>' then missing else if layout.align = '^' then missing / 2 else 0
  List.replicate left layout.fill ++ text ++ List.replicate (missing - left) layout.fill

/-- A text laid out by a format; the empty format leaves it as it is. -/
def layOut (format text : List Char) : Except LayoutFault (List Char) :=
  if format.isEmpty then
    .ok text
  else do
    let layout ← Layout.read format
    match layout.refusal? with
    | some fault => .error fault
    | none => .ok (layout.apply text)

end Template

end Gatekeeper
