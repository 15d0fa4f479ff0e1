import CommitSeal.Number.Modular

/-!
# Testing for primes

A number that is divisible by a small prime is decided at once. Any other is tried with the small
primes as bases: writing `n - 1` as an odd number times a power of two, a prime `n` leads every base
to 1 at once, or to `n - 1` on the way there by squaring. A composite number passes for at most a
quarter of all bases.
-/

namespace CommitSeal.Prime

/-- The primes that are tried as divisors and as bases. -/
def small : List Nat := [2, 3, 5, 7, 11, 13, 17, 19, 23, 29, 31, 37, 41, 43, 47, 53]

/-- How often two divides a number, counted up to `limit`, and what remains. -/
def splitTwos : (limit : Nat) → Nat → Nat × Nat
  | 0, value => (0, value)
  | limit + 1, value =>
    if value % 2 = 0 then
      match splitTwos limit (value / 2) with
      | (count, odd) => (count + 1, odd)
    else (0, value)

/-- Whether `value` or one of its squares, up to the given number of them, is `n - 1`. -/
def reachesMinusOne (n : Nat) : (squares : Nat) → (value : Nat) → Bool
  | 0, _ => false
  | squares + 1, value => value == n - 1 || reachesMinusOne n squares (value * value % n)

/-- Whether a base does not show a number to be composite. -/
def passes (n twos odd base : Nat) : Bool :=
  let power := Modular.pow n base odd
  power == 1 || reachesMinusOne n twos power

/-- Whether a number is taken for a prime. -/
def isLikely (n : Nat) : Bool :=
  if n < 2 then false
  else if small.contains n then true
  else if small.any fun divisor => n % divisor = 0 then false
  else
    match splitTwos (Octets.bitLength n) (n - 1) with
    | (twos, odd) => small.all (passes n twos odd)

end CommitSeal.Prime
