import CommitSeal.Curve.Named
import CommitSeal.Packet.PublicKey
import CommitSeal.Transferable.Header

/-!
# The numbers of public keys

What a key packet says about the key itself, as numbers and points to calculate with. Curves are
named by identifiers, and points come in the form that their curve and use ask for; anything else
is malformed. Algorithms that are known by number only keep their contents as octets.
-/

namespace CommitSeal.Transferable

/-! ## Points -/

/-- A point of a curve, in the form that keys carry it. -/
inductive CurvePoint where
  /-- Two coordinates, each in a number of octets. -/
  | coordinates (width x y : Nat)
  /-- The octets of the curve's own form. -/
  | native (octets : Octets)
  deriving DecidableEq, Repr

namespace CurvePoint

/-- The octet in front of two coordinates. -/
def coordinatesMark : UInt8 := 0x04

/-- The octet in front of a native form. -/
def nativeMark : UInt8 := 0x40

/-- The number that a point is written as. -/
def number : CurvePoint → Nat
  | coordinates width x y =>
    Octets.toNat (coordinatesMark :: (Octets.ofNatAtLeast width x ++ Octets.ofNatAtLeast width y))
  | native octets => Octets.toNat (nativeMark :: octets)

/-- How many octets a point is said to take with its length. -/
def statedSize : CurvePoint → Nat
  | coordinates width _ _ => 3 + 2 * width
  | native octets => 3 + octets.length

/-- Reads a point. -/
def read : Reader CurvePoint := fun data =>
  match readNumber data with
  | (number, rest) =>
    match numberOctets number with
    | [] => .error (.malformed "an empty point")
    | mark :: octets =>
      if mark = coordinatesMark then
        let width := octets.length / 2
        if octets.length = 2 * width then
          .ok (coordinates width (Octets.toNat (octets.take width))
            (Octets.toNat (octets.drop width)), rest)
        else .error (.malformed "a point whose coordinates differ in length")
      else if mark = nativeMark then .ok (native octets, rest)
      else .error (.malformed "a point in an unknown form")

/-- Whether a point is in its curve's own form. -/
def isNative : CurvePoint → Bool
  | native _ => true
  | coordinates _ _ _ => false

end CurvePoint

/-! ## Key numbers -/

/-- The parameters of a key agreement: the digest and the cipher. -/
structure Derivation where
  digest : UInt8
  cipher : UInt8
  deriving DecidableEq, Repr

/-- The public numbers of a key. -/
inductive Material where
  | rsa (n e : Nat)
  | dsa (p q g y : Nat)
  | elgamal (p g y : Nat)
  | ecdsa (curve : NamedCurve) (point : CurvePoint)
  | eddsa (curve : NamedCurve) (point : CurvePoint)
  | ecdh (curve : NamedCurve) (point : CurvePoint) (derivation : Derivation)
  /-- An algorithm known by number only. -/
  | raw (octets : Octets)
  deriving DecidableEq, Repr

/-- Whether an algorithm number is known, be it by number only. -/
def isKnownAlgorithm (algorithm : UInt8) : Bool :=
  (KeyFamily.ofAlgorithm? algorithm).isSome || algorithm = 0 || algorithm = 21

/-- Reads the identifier of a curve. -/
def readCurve : Reader NamedCurve := fun data =>
  match readOctet data with
  | .error e => .error e
  | .ok (length, rest) =>
    match NamedCurve.ofIdentifier? (rest.take length.toNat) with
    | some curve => .ok (curve, rest.drop length.toNat)
    | none => .error (.malformed "an unknown curve")

/-- Reads a curve and a point, whose form is native or not. -/
def readCurvePoint (wantsNative : NamedCurve → Bool) : Reader (NamedCurve × CurvePoint) :=
  fun data =>
    match readCurve data with
    | .error e => .error e
    | .ok (curve, rest) =>
      match CurvePoint.read rest with
      | .error e => .error e
      | .ok (point, rest) =>
        if point.isNative = wantsNative curve then .ok ((curve, point), rest)
        else .error (.malformed "a point in the wrong form")

/-- Whether a number is one of a cipher; zero stands for none. -/
def isCipherNumber (number : UInt8) : Bool := number ≤ 4 || (7 ≤ number && number ≤ 13)

/-- Whether a number is one of a digest, be it a reserved one. -/
def isDigestNumber (number : UInt8) : Bool := number ≤ 11

/-- Reads the parameters of a key agreement. -/
def readDerivation : Reader Derivation
  | 0x03 :: 0x01 :: digest :: cipher :: rest =>
    if isDigestNumber digest && isCipherNumber cipher then .ok (⟨digest, cipher⟩, rest)
    else .error (.malformed "an unknown digest or cipher")
  | _ => .error (.malformed "unknown key derivation parameters")

namespace Material

/-- Reads the public numbers of a family. -/
def readFamily (family : KeyFamily) : Reader Material := fun data =>
  match family with
  | .rsa =>
    match readNumbers 2 data with
    | ([n, e], rest) => .ok (rsa n e, rest)
    | _ => .error (.malformed "missing numbers")
  | .dsa =>
    match readNumbers 4 data with
    | ([p, q, g, y], rest) => .ok (dsa p q g y, rest)
    | _ => .error (.malformed "missing numbers")
  | .elgamal =>
    match readNumbers 3 data with
    | ([p, g, y], rest) => .ok (elgamal p g y, rest)
    | _ => .error (.malformed "missing numbers")
  | .ecdsa =>
    match readCurvePoint (fun _ => false) data with
    | .error e => .error e
    | .ok ((curve, point), rest) => .ok (ecdsa curve point, rest)
  | .eddsa =>
    match readCurvePoint (fun _ => true) data with
    | .error e => .error e
    | .ok ((curve, point), rest) => .ok (eddsa curve point, rest)
  | .ecdh =>
    match readCurvePoint (· == .curve25519) data with
    | .error e => .error e
    | .ok ((curve, point), rest) =>
      match readDerivation rest with
      | .error e => .error e
      | .ok (derivation, rest) => .ok (ecdh curve point derivation, rest)

/-- Reads the public numbers of an algorithm. -/
def read (algorithm : UInt8) : Reader Material := fun data =>
  match KeyFamily.ofAlgorithm? algorithm with
  | some family => readFamily family data
  | none =>
    if isKnownAlgorithm algorithm then .ok (raw data, [])
    else .error (.malformed "an unknown public key algorithm")

/-- Writes the identifier of a curve, and a point. -/
def encodeCurvePoint (curve : NamedCurve) (point : CurvePoint) : Octets :=
  UInt8.ofNat curve.identifier.length :: (curve.identifier ++ encodeNumber point.number)

/-- Writes public numbers. -/
def encode : Material → Octets
  | rsa n e => encodeNumbers [n, e]
  | dsa p q g y => encodeNumbers [p, q, g, y]
  | elgamal p g y => encodeNumbers [p, g, y]
  | ecdsa curve point => encodeCurvePoint curve point
  | eddsa curve point => encodeCurvePoint curve point
  | ecdh curve point derivation =>
    encodeCurvePoint curve point ++ [0x03, 0x01, derivation.digest, derivation.cipher]
  | raw octets => octets

/-- How many octets public numbers are said to take. -/
def statedSize : Material → Nat
  | rsa n e => Transferable.statedSize n + Transferable.statedSize e
  | dsa p q g y =>
    Transferable.statedSize p + Transferable.statedSize q + Transferable.statedSize g
      + Transferable.statedSize y
  | elgamal p g y =>
    Transferable.statedSize p + Transferable.statedSize g + Transferable.statedSize y
  | ecdsa curve point => 1 + curve.identifier.length + point.statedSize
  | eddsa curve point => 1 + curve.identifier.length + point.statedSize
  | ecdh curve point _ => 1 + curve.identifier.length + point.statedSize + 4
  | raw octets => octets.length

/-- How many secret numbers belong to public ones. -/
def secretCount : Material → Nat
  | rsa _ _ => 4
  | dsa _ _ _ _ => 1
  | elgamal _ _ _ => 1
  | ecdsa _ _ => 1
  | eddsa _ _ => 1
  | ecdh _ _ _ => 1
  | raw _ => 0

end Material

end CommitSeal.Transferable
