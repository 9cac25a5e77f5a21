import Gatekeeper.Credentials
import Gatekeeper.Http.Message
import Gatekeeper.Text.Blank

/-!
# Basic authorization

The credentials in the authorization header of a request.  The payload is
decoded leniently and has to be ASCII; the identifier is not checked here.
-/

namespace Gatekeeper

namespace Http

namespace Authorization

def ascii? (bytes : List UInt8) : Option (List Char) :=
  bytes.mapM fun byte => if byte.toNat < 0x80 then some (Char.ofNat byte.toNat) else none

/-- The scheme of a header and the text after it. -/
def splitScheme (value : List Char) : List Char × List Char :=
  match Text.splitFirst? ' ' value with
  | some (scheme, rest) => (scheme, Text.trim Text.isBlank rest)
  | none => (value, [])

def ofPayload? (payload : List Char) : Option Credentials :=
  match Codec.Base64.decodeLenient payload with
  | .error _ => none
  | .ok bytes =>
      match ascii? bytes with
      | none => none
      | some line =>
          (Text.splitFirst? separator line).map fun (user, password) =>
            ⟨String.ofList user, ⟨String.ofList password⟩⟩

def ofHeader? (value : String) : Option Credentials :=
  let (scheme, payload) := splitScheme value.toList
  if scheme.map Char.toLower = "basic".toList ∧ payload.all (·.toNat < 0x80) then
    ofPayload? payload
  else
    none

def credentials? (r : Request) : Option Credentials :=
  (r.header? "authorization").bind ofHeader?

end Authorization

end Http

end Gatekeeper
