import Gatekeeper.Codec.Base64
import Gatekeeper.Password
import Gatekeeper.UserId

/-!
# Credentials

An identifier and a password, and the line of text that holds both: the
identifier, the separator and the password.  A line may also be the Base64 of
that after the name of the Basic scheme.  Such a line never holds the separator,
so `Basic Bob:pw` is the plain line of the identifier `Basic Bob`.
-/

namespace Gatekeeper

/-- An identifier and an entered password. -/
structure Credentials where
  user : String
  password : Password
deriving DecidableEq

/-- What stands before the payload of the Basic scheme. -/
def basicScheme : String := "Basic "

namespace Credentials

def describe (c : Credentials) : String :=
  "Credentials(user_id=" ++ Text.quote c.user ++ ", password=" ++ c.password.describe ++ ")"

def check (c : Credentials) : Except Malformation Credentials :=
  match UserId.check c.user with
  | .error malformation => .error malformation
  | .ok user => .ok ⟨user, c.password⟩

def decodeBasic (payload : List Char) : Except Malformation (List Char) :=
  match Codec.Base64.decodeStrict (Text.trim Text.isBlank payload) with
  | .error fault => .error (.undecodable fault)
  | .ok bytes =>
      match Codec.Utf8.decode bytes with
      | .error fault => .error (.unreadable fault)
      | .ok line => .ok line

def plainLine (line : List Char) : Except Malformation (List Char) :=
  if basicScheme.toList.isPrefixOf line ∧ separator ∉ line then
    decodeBasic (line.drop basicScheme.toList.length)
  else
    .ok line

def ofPlainLine (line : List Char) : Except Malformation Credentials :=
  match Text.splitFirst? separator line with
  | none => .error .missingSeparator
  | some (user, password) =>
      Credentials.check ⟨String.ofList user, ⟨String.ofList password⟩⟩

def parse (line : String) : Except Malformation Credentials :=
  match plainLine line.toList with
  | .error malformation => .error malformation
  | .ok line => ofPlainLine line

def line (user password : String) : Except Malformation String :=
  match UserId.check user with
  | .error malformation => .error malformation
  | .ok user => .ok (String.ofList (user.toList ++ separator :: password.toList))

def basicHeader (user password : String) : Except Malformation String :=
  match line user password with
  | .error malformation => .error malformation
  | .ok line =>
      .ok (basicScheme
        ++ String.ofList (Codec.Base64.encode (Codec.Utf8.encode line.toList)))

end Credentials

/-- Credentials as a caller presents them: a line, or an identifier and a password. -/
inductive Presented where
  | line (line : String)
  | pair (credentials : Credentials)
deriving DecidableEq

namespace Presented

def credentials : Presented → Except Malformation Credentials
  | line text => Credentials.parse text
  | pair c => c.check

end Presented

end Gatekeeper
