import CommitSeal.Number.Modular

/-!
# Curves in Weierstrass form

The points of `y² = x³ + a x + b` over a prime field, with the point at infinity for zero. Sums and
multiples are taken in coordinates with a denominator, so that a multiple costs one inversion.
-/

namespace CommitSeal

/-- A curve, and the point that generates the group used. -/
structure Weierstrass where
  /-- The prime of the field. -/
  p : Nat
  a : Nat
  b : Nat
  generatorX : Nat
  generatorY : Nat
  /-- The number of points in the group, a prime. -/
  order : Nat

namespace Weierstrass

/-- A point of the plane; zero is not one. -/
structure Point where
  x : Nat
  y : Nat
  deriving DecidableEq, Repr

/-- The point `(x / z², y / z³)`, or zero when `z` is zero. -/
structure Scaled where
  x : Nat
  y : Nat
  z : Nat

/-- Zero. -/
def Scaled.zero : Scaled := ⟨1, 1, 0⟩

/-- A point with the denominator one. -/
def Point.scaled (point : Point) : Scaled := ⟨point.x, point.y, 1⟩

/-- Whether a point lies on a curve. -/
def contains (curve : Weierstrass) (point : Point) : Bool :=
  point.x < curve.p && point.y < curve.p &&
    point.y * point.y % curve.p
      == (point.x * point.x * point.x + curve.a * point.x + curve.b) % curve.p

/-- The generator of the group. -/
def generator (curve : Weierstrass) : Point := ⟨curve.generatorX, curve.generatorY⟩

/-- A point added to itself. -/
def double (curve : Weierstrass) (point : Scaled) : Scaled :=
  let p := curve.p
  let yy := point.y * point.y % p
  let zz := point.z * point.z % p
  let s := 4 * point.x * yy % p
  let m := (3 * point.x * point.x + curve.a * (zz * zz % p)) % p
  let x := Modular.sub p (m * m) (2 * s)
  ⟨x, Modular.sub p (m * Modular.sub p s x) (8 * yy * yy), 2 * point.y * point.z % p⟩

/-- The sum of two points. -/
def add (curve : Weierstrass) (left right : Scaled) : Scaled :=
  if left.z = 0 then right
  else if right.z = 0 then left
  else
    let p := curve.p
    let zz := left.z * left.z % p
    let ww := right.z * right.z % p
    let u := left.x * ww % p
    let s := left.y * (ww * right.z % p) % p
    let h := Modular.sub p (right.x * zz) u
    let r := Modular.sub p (right.y * (zz * left.z % p)) s
    if h = 0 then
      if r = 0 then curve.double left else .zero
    else
      let hh := h * h % p
      let hhh := hh * h % p
      let v := u * hh % p
      let x := Modular.sub p (r * r) (hhh + 2 * v)
      ⟨x, Modular.sub p (r * Modular.sub p v x) (s * hhh), left.z * right.z % p * h % p⟩

/-- A multiple of a point. -/
def multiply (curve : Weierstrass) (factor : Nat) (point : Scaled) : Scaled :=
  (List.range (Octets.bitLength factor)).foldr (fun place sum =>
    let twice := curve.double sum
    if factor.testBit place then curve.add twice point else twice) .zero

/-- The point that scaled coordinates stand for; zero is none. -/
def point? (curve : Weierstrass) (scaled : Scaled) : Option Point :=
  if scaled.z = 0 then none
  else
    let p := curve.p
    let inverse := Modular.inverse p scaled.z
    let square := inverse * inverse % p
    some ⟨scaled.x * square % p, scaled.y * (square * inverse % p) % p⟩

end Weierstrass

end CommitSeal
