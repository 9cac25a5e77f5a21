import Gatekeeper.Random.Source
import Gatekeeper.Simulation.Operation

/-!
# Random operations

Passwords, operations and lists of operations, drawn from a source of chance.
-/

namespace Gatekeeper

namespace Operation

variable {σ : Type}

def passwordAlphabet : List Char :=
  ("abcdefghijklmnopqrstuvwxyzABCDEFGHIJKLMNOPQRSTUVWXYZ0123456789"
    ++ "!#$%&()*+,-./:;<=>?@[]^_`\x7b|\x7d~ "
    ++ "äßéñ€큓※¤嵂뇆").toList

theorem passwordAlphabet_nonempty : 0 < passwordAlphabet.length := by decide +kernel

/-- Of 256 operations so many arm a fail point. -/
def failOdds : Nat := 20

/-- The length of a password unless another one is asked for. -/
def passwordLength : Int := 8

def randomPassword (source : RandomSource σ) (longest : Int) : Draw σ String := do
  let length ← Draw.between source 1 longest
  let cs ← Draw.times (Draw.pick source passwordAlphabet passwordAlphabet_nonempty) length.toNat
  return String.ofList cs

def randomFor (source : RandomSource σ) (user : String) : Draw σ Operation := do
  match ← Draw.below source 5 (by decide) with
  | 0 => return register user (← randomPassword source passwordLength)
  | 1 => return loginRight user
  | 2 => return loginWrong user
  | 3 => return logout user
  | 4 => return accessSecret user

def random (source : RandomSource σ) : Draw σ Operation := do
  let chance ← Draw.below source 256 (by decide)
  if chance.val < failOdds then
    return fail (← Draw.pick source FailPoint.all (by decide)).name
  else
    randomFor source (← Draw.pick source users (by decide))

/-- A list of operations; its length is drawn first. -/
def randomList (source : RandomSource σ) (longest : Int) : Draw σ (List Operation) := do
  let length ← Draw.between source 0 longest
  Draw.times (random source) length.toNat

end Operation

end Gatekeeper
