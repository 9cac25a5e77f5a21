import Gatekeeper.Codec.Hex
import Gatekeeper.Json.Basic

/-!
# Tokens of a JSON text

A JSON text is cut into punctuation, quoted texts and words; a word is whatever
letters, digits and signs stand together, and has to be a literal or to begin
with a number.  What is no token is kept as such, so that whatever is wrong before
it is found first.
-/

namespace Gatekeeper

namespace Json

inductive Token where
  | openArray
  | closeArray
  | openObject
  | closeObject
  | comma
  | colon
  | atom (value : Json)
  /-- An integer with more digits than are converted. -/
  | longInteger
  /-- Characters that are no token. -/
  | unknown
deriving Repr

namespace Token

/-- The greatest number of digits of an integer that is converted. -/
def digitLimit : Nat := 4300

def digits (cs : List Char) : List Char × List Char :=
  (cs.takeWhile Char.isDigit, cs.dropWhile Char.isDigit)

def natural (cs : List Char) : Nat := cs.foldl (fun n c => 10 * n + (c.toNat - 48)) 0

def minus : List Char → Bool × List Char
  | '-' :: rest => (true, rest)
  | cs => (false, cs)

/-- Split off the digits before the point; a zero stands alone. -/
def whole (cs : List Char) : List Char × List Char :=
  match cs with
  | '0' :: rest => (['0'], rest)
  | cs => digits cs

/-- Split off a point and the digits after it, if there are any. -/
def fraction (cs : List Char) : List Char × List Char :=
  match cs with
  | '.' :: rest => if (digits rest).1 = [] then ([], cs) else digits rest
  | _ => ([], cs)

def exponent (cs : List Char) : Option Int × List Char :=
  match cs with
  | e :: rest =>
      let (negative, rest) := match rest with
        | '-' :: rest => (true, rest)
        | '+' :: rest => (false, rest)
        | rest => (false, rest)
      let (read, rest) := digits rest
      if (e = 'e' ∨ e = 'E') ∧ read ≠ [] then
        (some (if negative then -(natural read : Int) else natural read), rest)
      else (none, cs)
  | [] => (none, cs)

/-- The longest number at the front of a text and what follows it. -/
def number? (cs : List Char) : Option (Token × List Char) :=
  let (negative, rest) := minus cs
  let (whole, rest) := whole rest
  let (fraction, rest) := fraction rest
  let (exponent?, rest) := exponent rest
  let sign (n : Nat) : Int := if negative then -(n : Int) else n
  if whole = [] then none
  else if fraction = [] ∧ exponent? = none then
    if digitLimit < whole.length then some (longInteger, rest)
    else some (atom (.integer (sign (natural whole))), rest)
  else
    some (atom (.decimal (sign (natural (whole ++ fraction)))
      (exponent?.getD 0 - fraction.length)), rest)

def word (cs : List Char) : List Token :=
  match String.ofList cs with
  | "true" => [atom (.bool true)]
  | "false" => [atom (.bool false)]
  | "null" => [atom .null]
  | "NaN" => [atom .nonFinite]
  | "Infinity" => [atom .nonFinite]
  | "-Infinity" => [atom .nonFinite]
  | _ =>
      match number? cs with
      | some (token, []) => [token]
      | some (token, _ :: _) => [token, unknown]
      | none => [unknown]

def isWordChar (c : Char) : Bool := c.isAlphanum || c = '-' || c = '+' || c = '.'

def mark? : Char → Option Token
  | '[' => some openArray
  | ']' => some closeArray
  | '\x7b' => some openObject
  | '\x7d' => some closeObject
  | ',' => some comma
  | ':' => some colon
  | _ => none

def escaped? : Char → Option Nat
  | '"' => some 0x22
  | '\\' => some 0x5c
  | '/' => some 0x2f
  | 'b' => some 8
  | 'f' => some 0xc
  | 'n' => some 0xa
  | 'r' => some 0xd
  | 't' => some 9
  | _ => none

/-- A part of a quoted text: a character as it stands, or a number that is written out. -/
inductive CodeUnit where
  | plain (code : Nat)
  | written (code : Nat)

/-- The code points of a quoted text: two halves of a surrogate pair that are written out one
after the other are one code point. -/
def joinUnits : List CodeUnit → List Nat
  | [] => []
  | .written n :: .written m :: rest =>
      if 0xd800 ≤ n ∧ n ≤ 0xdbff ∧ 0xdc00 ≤ m ∧ m ≤ 0xdfff then
        (0x10000 + (n - 0xd800) * 0x400 + (m - 0xdc00)) :: joinUnits rest
      else n :: joinUnits (.written m :: rest)
  | .plain n :: rest | .written n :: rest => n :: joinUnits rest

/-- Where the reader stands: what is read of a word or a quoted text is kept reversed. -/
inductive Position where
  | between
  | word (read : List Char)
  | quoted (read : List CodeUnit)
  | escape (read : List CodeUnit)
  | code (read : List CodeUnit) (due value : Nat)

/-- The token that a character outside quoted texts is, if any, and the position after it. -/
def startWith (c : Char) : Option Token × Position :=
  if c = ' ' ∨ c = '\t' ∨ c = '\n' ∨ c = '\r' then (none, .between)
  else if c = '"' then (none, .quoted [])
  else if isWordChar c then (none, .word [c])
  else (some ((mark? c).getD unknown), .between)

/-- Take one character: the tokens that are complete now, and the position after it. -/
def stepChar : Position → Char → List Token × Position
  | .between, c =>
      let (token?, next) := startWith c
      (token?.toList, next)
  | .word read, c =>
      if isWordChar c then ([], .word (c :: read))
      else
        let (token?, next) := startWith c
        (word read.reverse ++ token?.toList, next)
  | .quoted read, c =>
      if c = '"' then ([atom (ofCodes (joinUnits read.reverse))], .between)
      else if c = '\\' then ([], .escape read)
      else if c.toNat < 0x20 then ([unknown], .between)
      else ([], .quoted (.plain c.toNat :: read))
  | .escape read, c =>
      if c = 'u' then ([], .code read 4 0)
      else
        match escaped? c with
        | some n => ([], .quoted (.plain n :: read))
        | none => ([unknown], .between)
  | .code read due value, c =>
      match Codec.Hex.value? c with
      | none => ([unknown], .between)
      | some d =>
          if due ≤ 1 then ([], .quoted (.written (16 * value + d) :: read))
          else ([], .code read (due - 1) (16 * value + d))

/-- Take half of a surrogate pair, which may only stand in a quoted text. -/
def stepHalf : Position → Nat → List Token × Position
  | .quoted read, n => ([], .quoted (.plain n :: read))
  | .word read, _ => (word read.reverse ++ [unknown], .between)
  | _, _ => ([unknown], .between)

def step (position : Position) (n : Nat) : List Token × Position :=
  if n.isValidChar then stepChar position (Char.ofNat n) else stepHalf position n

/-- The tokens of the code points from a position on. -/
def listFrom : Position → List Nat → List Token
  | .between, [] => []
  | .word read, [] => word read.reverse
  | _, [] => [unknown]
  | position, n :: rest =>
      let (tokens, next) := step position n
      tokens ++ listFrom next rest

def list (codes : List Nat) : List Token := listFrom .between codes

end Token

end Json

end Gatekeeper
