import Gatekeeper.Failure

/-!
# Decision points

Every decision that the store, its credentials and its backend make, by name,
with the condition under which it is made.
-/

namespace Gatekeeper

namespace Contract

structure Branch where
  id : String
  description : String
  condition : String
  operation : String
deriving DecidableEq, Repr

namespace Branch

/-- Decisions about identifiers and credential lines. -/
def ofCredentials : List Branch := [
  ⟨"ID-EMPTY", "Empty identifier rejected", "user_id == ''", "validate_user_id"⟩,
  ⟨"ID-SEPARATOR", "Identifier containing the separator rejected", "':' in user_id",
    "validate_user_id"⟩,
  ⟨"PARSE-OK", "identifier:secret split on the first colon", "':' in raw", "parse_credentials"⟩,
  ⟨"PARSE-NO-SEP", "Credential string without a separator rejected", "':' not in raw",
    "parse_credentials"⟩,
  ⟨"PARSE-BASIC", "Basic scheme value decoded before splitting",
    "raw.startswith('Basic ') and ':' not in raw", "parse_credentials"⟩,
  ⟨"PARSE-BASIC-BAD", "Undecodable Basic payload rejected", "base64 or utf-8 decoding fails",
    "parse_credentials"⟩]

def ofPasswords : List Branch := [
  ⟨"VERIFY-MATCH", "Entered password matches stored encoding", "computed digest == stored digest",
    "verify"⟩,
  ⟨"VERIFY-MISMATCH", "Entered password does not match stored encoding",
    "computed digest != stored digest", "verify"⟩,
  ⟨"VERIFY-BAD-FMT", "Stored encoding has an invalid format",
    "encoded string does not have four '$' fields", "verify"⟩]

def ofCalls : List Branch := [
  ⟨"REG-OK", "New user registered", "user_id well formed and not taken", "register"⟩,
  ⟨"REG-DUP", "Registration rejected: id taken", "user_id already in backend", "register"⟩,
  ⟨"LOGIN-OK", "Login succeeds and opens a session", "user registered and password matches",
    "login"⟩,
  ⟨"LOGIN-NO-USER", "Login denied: user not registered", "user_id not in backend", "login"⟩,
  ⟨"LOGIN-BAD-PASS", "Login denied: wrong password", "user registered but password mismatch",
    "login"⟩,
  ⟨"LOGOUT-OK", "Session removed (or already absent)", "user_id well formed", "logout"⟩,
  ⟨"SECRET-OK", "Secret returned for a live session", "user_id in sessions", "access_secret"⟩,
  ⟨"SECRET-DENIED", "Secret refused without a session", "user_id not in sessions",
    "access_secret"⟩]

def ofBackend : List Branch := [
  ⟨"FAIL-ARMED", "Armed fail point raises StorageError", "name in armed fail points", "FailingDb"⟩]

def all : List Branch := ofCredentials ++ ofPasswords ++ ofCalls ++ ofBackend

def find (id : String) : Except Failure Branch :=
  match all.find? (·.id = id) with
  | some branch => .ok branch
  | none => .error (.unknownKey id)

end Branch

end Contract

end Gatekeeper
