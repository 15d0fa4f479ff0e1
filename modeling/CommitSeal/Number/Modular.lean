import CommitSeal.Octets.Basic

/-!
# Arithmetic modulo a number

* `Modular.pow` is the power by repeated squaring, one step for each bit of the exponent, the
  highest first.
* `Modular.inverse` is the inverse modulo a prime, as the power that the little theorem names.
* `Modular.sub` is the difference, which stays a natural number.
-/

namespace CommitSeal.Modular

/-- The power of a base modulo a number. -/
def pow (modulus base exponent : Nat) : Nat :=
  (List.range (Octets.bitLength exponent)).foldr (fun place power =>
    let square := power * power % modulus
    if exponent.testBit place then square * base % modulus else square) (1 % modulus)

/-- The inverse of a number modulo a prime; that of zero is zero. -/
def inverse (prime value : Nat) : Nat := pow prime (value % prime) (prime - 2)

/-- The difference modulo a number. -/
def sub (modulus left right : Nat) : Nat := (left + (modulus - right % modulus)) % modulus

/-- The sum modulo a number. -/
def add (modulus left right : Nat) : Nat := (left + right) % modulus

/-- The product modulo a number. -/
def mul (modulus left right : Nat) : Nat := left * right % modulus

end CommitSeal.Modular
