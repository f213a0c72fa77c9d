/-
# Modules.Passwords — the text a password is stored as

`hash_password` and `verify_password`. The text has four fields: the name of the algorithm,
the number of iterations, the salt and the digest. Verification splits and converts them in a
`try`, and derives the digest of the password outside it.

PBKDF2 is a parameter, as a function of the password, the salt and a number of iterations.
`pbkdf2Hmac` adds which numbers the runtime refuses.
-/
import KisAutoTrading.Theory.Base64
import KisAutoTrading.Theory.Digits
import KisAutoTrading.Theory.Split

namespace KisAutoTrading

open Theory

set_option autoImplicit false

def passwordAlgorithm : String := "pbkdf2_sha256"

def passwordIterations : Int := 600000

/-- What `hashlib.pbkdf2_hmac` raises for a number of iterations. -/
inductive Pbkdf2Error where
  /-- `ValueError`, "iteration value must be greater than 0." -/
  | notPositive
  /-- `OverflowError`: the number is no C `long`, or "iteration value is too great." -/
  | tooGreat
  deriving DecidableEq

/-- PBKDF2 with HMAC-SHA256, of a password, a salt and a number of iterations. -/
abbrev Pbkdf2 : Type := List UInt8 → List UInt8 → Nat → List UInt8

/-- The greatest number of iterations, `INT_MAX`. -/
def maxIterations : Int := 2147483647

variable (derive : Pbkdf2)

/-- `hashlib.pbkdf2_hmac("sha256", …)`. -/
def pbkdf2Hmac (password salt : List UInt8) (iterations : Int) : Except Pbkdf2Error (List UInt8) :=
  if iterations < -2 ^ 63 ∨ maxIterations < iterations then .error .tooGreat
  else if iterations < 1 then .error .notPositive
  else .ok (derive password salt iterations.toNat)

/-- `base64.urlsafe_b64encode(data).decode("ascii")`. -/
def b64Text (data : List UInt8) : String := String.ofList (Base64.encodePadded data)

/-- `base64.urlsafe_b64decode(text.encode("ascii"))`. -/
def b64Data (text : String) : Option (List UInt8) :=
  if isAscii text then Base64.decode text.toList else none

/-- `hash_password`, for the salt it draws. -/
def hashPassword (salt : List UInt8) (password : String) : Except Pbkdf2Error String := do
  let digest ← pbkdf2Hmac derive password.toUTF8.data.toList salt passwordIterations
  return pyJoin '$' [passwordAlgorithm, toString passwordIterations, b64Text salt, b64Text digest]

/-- What the `try` of `verify_password` takes from a stored text; `none` where it answers that
the password is wrong. -/
def storedHash (encoded : String) : Option (Int × List UInt8 × List UInt8) :=
  match pySplit '$' encoded with
  | [algorithm, iterationsText, saltText, digestText] =>
      if algorithm ≠ passwordAlgorithm then none
      else do
        let iterations ← pyIntText iterationsText
        let salt ← b64Data saltText
        let expected ← b64Data digestText
        return (iterations, salt, expected)
  | _ => none

/-- `verify_password`. -/
def verifyPassword (password encoded : String) : Except Pbkdf2Error Bool :=
  match storedHash encoded with
  | none => .ok false
  | some (iterations, salt, expected) => do
      let actual ← pbkdf2Hmac derive password.toUTF8.data.toList salt iterations
      return decide (actual = expected)

end KisAutoTrading
