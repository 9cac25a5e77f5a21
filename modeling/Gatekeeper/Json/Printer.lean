import Gatekeeper.Json.Basic
import Gatekeeper.Text.Quoted

/-!
# Writing JSON

Compact and within ASCII: a character beyond it is written as one or two UTF-16
code units.
-/

namespace Gatekeeper

namespace Json

def unitEscape (n : Nat) : List Char := '\\' :: 'u' :: Text.hexDigits 4 n

def writeCode (n : Nat) : List Char :=
  if n = '"'.toNat ∨ n = '\\'.toNat then ['\\', Char.ofNat n]
  else if 0x20 ≤ n ∧ n < 0x7f then [Char.ofNat n]
  else if n < 0x10000 then unitEscape n
  else
    unitEscape (0xd800 + (n - 0x10000) / 0x400) ++ unitEscape (0xdc00 + (n - 0x10000) % 0x400)

def writeCodes (codes : List Nat) : String :=
  "\"" ++ String.ofList (codes.flatMap writeCode) ++ "\""

def writeText (s : String) : String := writeCodes (codes s)

mutual

def write : Json → String
  | null => "null"
  | bool true => "true"
  | bool false => "false"
  | integer n => toString n
  | decimal mantissa exponent => toString mantissa ++ "e" ++ toString exponent
  | nonFinite => "NaN"
  | text s => writeText s
  | unpaired codes => writeCodes codes
  | array items => "[" ++ ",".intercalate (writeItems items) ++ "]"
  | object fields => "\x7b" ++ ",".intercalate (writeFields fields) ++ "\x7d"
  | unpairedObject fields others =>
      "\x7b" ++ ",".intercalate (writeFields fields ++ writeOthers others) ++ "\x7d"

def writeItems : List Json → List String
  | [] => []
  | item :: rest => write item :: writeItems rest

def writeFields : List (String × Json) → List String
  | [] => []
  | (name, value) :: rest => (writeText name ++ ":" ++ write value) :: writeFields rest

def writeOthers : List (List Nat × Json) → List String
  | [] => []
  | (name, value) :: rest => (writeCodes name ++ ":" ++ write value) :: writeOthers rest

end

end Json

end Gatekeeper
