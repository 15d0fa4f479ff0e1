import CommitSeal.Curve.Weierstrass
import CommitSeal.Octets.Basic

/-!
# The curves that keys name

Keys name their curve by an object identifier. `NamedCurve` are the known ones. Four of them come
with their parameters, and one has arithmetic of its own; the others are known by name only.
-/

namespace CommitSeal

/-! ## Parameters -/

namespace Weierstrass

/-- The curve P-256. -/
def p256 : Weierstrass where
  p := 0xFFFFFFFF00000001000000000000000000000000FFFFFFFFFFFFFFFFFFFFFFFF
  a := 0xFFFFFFFF00000001000000000000000000000000FFFFFFFFFFFFFFFFFFFFFFFC
  b := 0x5AC635D8AA3A93E7B3EBBD55769886BC651D06B0CC53B0F63BCE3C3E27D2604B
  generatorX := 0x6B17D1F2E12C4247F8BCE6E563A440F277037D812DEB33A0F4A13945D898C296
  generatorY := 0x4FE342E2FE1A7F9B8EE7EB4A7C0F9E162BCE33576B315ECECBB6406837BF51F5
  order := 0xFFFFFFFF00000000FFFFFFFFFFFFFFFFBCE6FAADA7179E84F3B9CAC2FC632551

/-- The curve P-384. -/
def p384 : Weierstrass where
  p :=
    0xFFFFFFFFFFFFFFFFFFFFFFFFFFFFFFFFFFFFFFFFFFFFFFFFFFFFFFFFFFFFFFFEFFFFFFFF0000000000000000FFFFFFFF
  a :=
    0xFFFFFFFFFFFFFFFFFFFFFFFFFFFFFFFFFFFFFFFFFFFFFFFFFFFFFFFFFFFFFFFEFFFFFFFF0000000000000000FFFFFFFC
  b :=
    0xB3312FA7E23EE7E4988E056BE3F82D19181D9C6EFE8141120314088F5013875AC656398D8A2ED19D2A85C8EDD3EC2AEF
  generatorX :=
    0xAA87CA22BE8B05378EB1C71EF320AD746E1D3B628BA79B9859F741E082542A385502F25DBF55296C3A545E3872760AB7
  generatorY :=
    0x3617DE4A96262C6F5D9E98BF9292DC29F8F41DBD289A147CE9DA3113B5F0B8C00A60B1CE1D7E819D7A431D7C90EA0E5F
  order :=
    0xFFFFFFFFFFFFFFFFFFFFFFFFFFFFFFFFFFFFFFFFFFFFFFFFC7634D81F4372DDF581A0DB248B0A77AECEC196ACCC52973

/-- The curve P-521. -/
def p521 : Weierstrass where
  p :=
    0x01FFFFFFFFFFFFFFFFFFFFFFFFFFFFFFFFFFFFFFFFFFFFFFFFFFFFFFFFFFFFFFFFFFFFFFFFFFFFFFFFFFFFFFFFFFFFFFFFFFFFFFFFFFFFFFFFFFFFFFFFFFFFFFFFFF
  a :=
    0x01FFFFFFFFFFFFFFFFFFFFFFFFFFFFFFFFFFFFFFFFFFFFFFFFFFFFFFFFFFFFFFFFFFFFFFFFFFFFFFFFFFFFFFFFFFFFFFFFFFFFFFFFFFFFFFFFFFFFFFFFFFFFFFFFFC
  b :=
    0x0051953EB9618E1C9A1F929A21A0B68540EEA2DA725B99B315F3B8B489918EF109E156193951EC7E937B1652C0BD3BB1BF073573DF883D2C34F1EF451FD46B503F00
  generatorX :=
    0x00C6858E06B70404E9CD9E3ECB662395B4429C648139053FB521F828AF606B4D3DBAA14B5E77EFE75928FE1DC127A2FFA8DE3348B3C1856A429BF97E7E31C2E5BD66
  generatorY :=
    0x011839296A789A3BC0045C8A5FB42C7D1BD998F54449579B446817AFBD17273E662C97EE72995EF42640C550B9013FAD0761353C7086A272C24088BE94769FD16650
  order :=
    0x01FFFFFFFFFFFFFFFFFFFFFFFFFFFFFFFFFFFFFFFFFFFFFFFFFFFFFFFFFFFFFFFFFA51868783BF2F966B7FCC0148F709A5D03BB5C9B8899C47AEBB6FB71E91386409

/-- The curve secp256k1. -/
def secp256k1 : Weierstrass where
  p := 0xFFFFFFFFFFFFFFFFFFFFFFFFFFFFFFFFFFFFFFFFFFFFFFFFFFFFFFFEFFFFFC2F
  a := 0
  b := 7
  generatorX := 0x79BE667EF9DCBBAC55A06295CE870B07029BFCDB2DCE28D959F2815B16F81798
  generatorY := 0x483ADA7726A3C4655DA4FBFC0E1108A8FD17B448A68554199C47D08FFB10D4B8
  order := 0xFFFFFFFFFFFFFFFFFFFFFFFFFFFFFFFEBAAEDCE6AF48A03BBFD25E8CD0364141

end Weierstrass

/-! ## Identifiers -/

/-- A curve that keys can name. -/
inductive NamedCurve where
  | curve25519
  | ed25519
  | p256
  | p384
  | p521
  | brainpool256
  | brainpool384
  | brainpool512
  | secp256k1
  deriving DecidableEq, Repr

namespace NamedCurve

/-- All known curves. -/
def all : List NamedCurve :=
  [curve25519, ed25519, p256, p384, p521, brainpool256, brainpool384, brainpool512, secp256k1]

/-- The object identifier of a curve, without its tag and length. -/
def identifier : NamedCurve → Octets
  | curve25519 => [0x2B, 0x06, 0x01, 0x04, 0x01, 0x97, 0x55, 0x01, 0x05, 0x01]
  | ed25519 => [0x2B, 0x06, 0x01, 0x04, 0x01, 0xDA, 0x47, 0x0F, 0x01]
  | p256 => [0x2A, 0x86, 0x48, 0xCE, 0x3D, 0x03, 0x01, 0x07]
  | p384 => [0x2B, 0x81, 0x04, 0x00, 0x22]
  | p521 => [0x2B, 0x81, 0x04, 0x00, 0x23]
  | brainpool256 => [0x2B, 0x24, 0x03, 0x03, 0x02, 0x08, 0x01, 0x01, 0x07]
  | brainpool384 => [0x2B, 0x24, 0x03, 0x03, 0x02, 0x08, 0x01, 0x01, 0x0B]
  | brainpool512 => [0x2B, 0x24, 0x03, 0x03, 0x02, 0x08, 0x01, 0x01, 0x0D]
  | secp256k1 => [0x2B, 0x81, 0x04, 0x00, 0x0A]

/-- The curve that an identifier names. -/
def ofIdentifier? (identifier : Octets) : Option NamedCurve :=
  all.find? fun curve => curve.identifier == identifier

/-- A curve's identifier names it. -/
theorem ofIdentifier?_identifier (curve : NamedCurve) :
    ofIdentifier? curve.identifier = some curve := by
  cases curve <;> decide

/-- How many octets a secret number of a curve has. -/
def secretLength : NamedCurve → Nat
  | curve25519 => 32
  | ed25519 => 32
  | p256 => 32
  | p384 => 48
  | p521 => 66
  | brainpool256 => 32
  | brainpool384 => 48
  | brainpool512 => 64
  | secp256k1 => 32

/-- The parameters of a curve that signatures by `Ecdsa` can be made on. -/
def parameters? : NamedCurve → Option Weierstrass
  | p256 => some .p256
  | p384 => some .p384
  | p521 => some .p521
  | secp256k1 => some .secp256k1
  | _ => none

end NamedCurve

end CommitSeal
