import Gatekeeper.Codec.Hex
import Gatekeeper.Codec.Utf8
import Gatekeeper.Hash.Pbkdf2
import Gatekeeper.Text.Integer
import Gatekeeper.Text.Split

/-!
# Passwords

A password as it is entered, and the one-way form in which it is kept.  The only
way from the first to the second is `Password.hash`, and the only way to compare
them is `PasswordHash.verify`.  Neither form shows what it holds.
-/

namespace Gatekeeper

structure Password where
  text : String
deriving DecidableEq

/-- The one-way form: four fields, the algorithm, the iterations, the salt and the digest. -/
structure PasswordHash where
  text : String
deriving DecidableEq

def hashAlgorithm : String := "pbkdf2_sha256"

def fieldMark : Char := '$'

def redacted : String := "<redacted>"

namespace Password

def describe (_ : Password) : String := "EnteredPassword(" ++ redacted ++ ")"

def derive (password : Password) (salt : List UInt8) (iterations : Int) :
    Except Hash.Pbkdf2.Fault (List UInt8) :=
  Hash.Pbkdf2.derive (Codec.Utf8.encodeString password.text) salt iterations

end Password

namespace PasswordHash

def describe (_ : PasswordHash) : String := "EncodedPassword(" ++ redacted ++ ")"

def compose (iterations : Int) (salt digest : List UInt8) : PasswordHash :=
  ⟨String.ofList (hashAlgorithm.toList ++ fieldMark :: ((toString iterations).toList
    ++ fieldMark :: (Codec.Hex.encode salt ++ fieldMark :: Codec.Hex.encode digest)))⟩

inductive Fault where
  | wrongFields
  | badBytes (fault : Codec.Hex.Fault)
  | badIterations (fault : Text.IntegerFault)
  | derivation (fault : Hash.Pbkdf2.Fault)
deriving DecidableEq, Repr

namespace Fault

def message : Fault → String
  | wrongFields => "Invalid encoded password format"
  | badBytes fault => "Invalid encoded password format: " ++ fault.message
  | badIterations fault => "Invalid encoded password format: " ++ fault.message
  | derivation fault => fault.message

end Fault

structure Fields where
  iterations : Int
  salt : List UInt8
  digest : List UInt8
deriving DecidableEq, Repr

/-- Take a hash apart: the salt is read first, then the digest, then the iterations. -/
def fields (hash : PasswordHash) : Except Fault Fields :=
  match Text.splitAll fieldMark hash.text.toList with
  | [algorithm, iterations, salt, digest] =>
      if algorithm = hashAlgorithm.toList then
        match Codec.Hex.decode salt with
        | .error fault => .error (.badBytes fault)
        | .ok salt =>
          match Codec.Hex.decode digest with
          | .error fault => .error (.badBytes fault)
          | .ok digest =>
            match Text.readInteger (String.ofList iterations) with
            | .error fault => .error (.badIterations fault)
            | .ok iterations => .ok ⟨iterations, salt, digest⟩
      else
        .error .wrongFields
  | _ => .error .wrongFields

def verify (hash : PasswordHash) (password : Password) : Except Fault Bool :=
  match hash.fields with
  | .error fault => .error fault
  | .ok fields =>
      match password.derive fields.salt fields.iterations with
      | .error fault => .error (.derivation fault)
      | .ok digest => .ok (digest = fields.digest)

end PasswordHash

namespace Password

def hash (password : Password) (salt : List UInt8) (iterations : Int) :
    Except Hash.Pbkdf2.Fault PasswordHash :=
  match password.derive salt iterations with
  | .error fault => .error fault
  | .ok digest => .ok (PasswordHash.compose iterations salt digest)

end Password

/-- A password in either form.  Two of them are the same only in the same form. -/
inductive AnyPassword where
  | entered (password : Password)
  | hashed (hash : PasswordHash)
deriving DecidableEq

end Gatekeeper
