import CommitSeal.Curve.Weierstrass
import CommitSeal.Scheme.Dsa

/-!
# ECDSA

The scheme of `Dsa` in the group of points of a curve: the number that the group gives to a
one-time number is the first coordinate of that multiple of the generator.
-/

namespace CommitSeal.Ecdsa

/-- A public key: a point of a curve. -/
structure PublicKey where
  curve : Weierstrass
  point : Weierstrass.Point

/-- The first coordinate of a multiple of the generator; that of zero counts as zero. -/
def firstCoordinate (curve : Weierstrass) (factor : Nat) : Nat :=
  match curve.point? (curve.multiply factor curve.generator.scaled) with
  | some point => point.x
  | none => 0

/-- Whether a secret number belongs to a public key. -/
def PublicKey.owns (key : PublicKey) (secret : Nat) : Bool :=
  key.curve.contains key.point && 0 < secret && secret < key.curve.order
    && key.curve.point? (key.curve.multiply secret key.curve.generator.scaled) == some key.point

/-- The signature of a message, unless the numbers do not make a key. -/
def sign? (key : PublicKey) (secret : Nat) (algorithm : DigestAlgorithm) (message : Octets) :
    Option Dsa.Signature :=
  if key.owns secret then
    Dsa.signWith key.curve.order secret (firstCoordinate key.curve) (algorithm.digest message)
      Dsa.maxAttempts
  else none

/-- Whether a pair of numbers is a signature of a message. -/
def verify (key : PublicKey) (algorithm : DigestAlgorithm) (message : Octets)
    (signature : Dsa.Signature) : Bool :=
  let curve := key.curve
  curve.contains key.point &&
    match Dsa.checkExponents? curve.order (algorithm.digest message) signature with
    | none => false
    | some (a, b) =>
      match curve.point? (curve.add (curve.multiply a curve.generator.scaled)
          (curve.multiply b key.point.scaled)) with
      | some point => point.x % curve.order == signature.r
      | none => false

end CommitSeal.Ecdsa
