import CommitSeal.Number.Modular

/-!
# The Edwards curve over the field of 2²⁵⁵ - 19

The points of `y² - x² = 1 + d x² y²`. Sums are taken in coordinates with a common denominator and
the product of the two, for which one rule holds for all pairs of points, equal ones included. A
point is written as its second coordinate, with the parity of the first in the top bit.
-/

namespace CommitSeal.Edwards25519

/-- The prime of the field. -/
def p : Nat := (1 <<< 255) - 19

/-- The number of points in the group used, a prime. -/
def order : Nat := (1 <<< 252) + 27742317777372353535851937790883648493

/-- The constant of the curve. -/
def d : Nat := 37095705934669439343138083508754565189542113879843219016388785533085940283555

/-- A square root of minus one. -/
def rootOfMinusOne : Nat :=
  19681161376707505956807079304988542015446066515923890162744021073123829784752

/-- The point `(x / z, y / z)`, where `t` is `x y / z`. -/
structure Point where
  x : Nat
  y : Nat
  z : Nat
  t : Nat

/-- The neutral point. -/
def zero : Point := ⟨0, 1, 1, 0⟩

/-- The generator of the group. -/
def generator : Point :=
  let x := 15112221349535400772501151409588531511454012693041857206046113283949847762202
  let y := 46316835694926478169428394003475163141307993866256225615783033603165251855960
  ⟨x, y, 1, x * y % p⟩

/-- The sum of two points. -/
def add (left right : Point) : Point :=
  let a := Modular.sub p left.y left.x * Modular.sub p right.y right.x % p
  let b := (left.y + left.x) * (right.y + right.x) % p
  let c := 2 * d * (left.t * right.t % p) % p
  let e := 2 * left.z * right.z % p
  let f := Modular.sub p b a
  let g := Modular.sub p e c
  let h := (e + c) % p
  let i := (b + a) % p
  ⟨f * g % p, h * i % p, g * h % p, f * i % p⟩

/-- A multiple of a point. -/
def multiply (factor : Nat) (point : Point) : Point :=
  (List.range (Octets.bitLength factor)).foldr (fun place sum =>
    let twice := add sum sum
    if factor.testBit place then add twice point else twice) zero

/-- The opposite of a point: the sum of both is neutral. -/
def negate (point : Point) : Point :=
  ⟨Modular.sub p 0 point.x, point.y, point.z, Modular.sub p 0 point.t⟩

/-- The 32 octets of a point. -/
def encode (point : Point) : Octets :=
  let inverse := Modular.inverse p point.z
  let x := point.x * inverse % p
  let y := point.y * inverse % p
  Octets.leOfNat 32 (y + (if x % 2 = 1 then 1 <<< 255 else 0))

/-- A square root of a quotient of the field, if there is one. -/
def rootOfQuotient? (numerator denominator : Nat) : Option Nat :=
  let quotient := numerator * Modular.inverse p denominator % p
  let root := Modular.pow p quotient ((p + 3) / 8)
  if root * root % p = quotient then some root
  else
    let root := root * rootOfMinusOne % p
    if root * root % p = quotient then some root else none

/-- The point that 32 octets stand for. -/
def decode? (octets : Octets) : Option Point :=
  if octets.length = 32 then
    let value := Octets.leToNat octets
    let y := value % (1 <<< 255) % p
    let yy := y * y % p
    match rootOfQuotient? (Modular.sub p yy 1) ((d * yy + 1) % p) with
    | none => none
    | some root =>
      let x := if root % 2 = value >>> 255 then root else Modular.sub p 0 root
      some ⟨x, y, 1, x * y % p⟩
  else none

end CommitSeal.Edwards25519
