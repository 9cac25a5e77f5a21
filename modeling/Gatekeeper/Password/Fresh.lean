import Gatekeeper.Failure

/-!
# Fresh hashes

Hashing under salts that are drawn one after the other.
-/

namespace Gatekeeper

namespace Password

def hashFresh (password : Password) (salts : SaltSource) (number : Nat) (length iterations : Int) :
    Except Failure PasswordHash :=
  match salts.drawOfLength number length with
  | .error fault => .error (.salt fault)
  | .ok salt =>
      match password.hash salt iterations with
      | .error fault => .error (.hashing fault)
      | .ok hash => .ok hash

/-- The hashes of a password under the salts of the first draws. -/
def hashRepeatedly (password : Password) (salts : SaltSource) (count : Nat)
    (length iterations : Int) : Except Failure (List PasswordHash) :=
  (List.range count).mapM fun i => password.hashFresh salts (i + 1) length iterations

end Password

end Gatekeeper
