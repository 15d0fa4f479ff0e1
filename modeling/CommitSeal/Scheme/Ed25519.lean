import CommitSeal.Curve.Edwards25519
import CommitSeal.Digest.Sha2

/-!
# Ed25519

Signatures on the Edwards curve. The secret is a seed of 32 octets; its digest gives the secret
number and the key of the one-time numbers. A signature is a point and a number, 32 octets each.
-/

namespace CommitSeal.Ed25519

open Edwards25519

/-- The secret number of a seed's digest: a multiple of eight whose top bit is fixed. -/
def secretNumber (digest : Octets) : Nat :=
  let value := Octets.leToNat (digest.take 32)
  value % (1 <<< 254) / 8 * 8 + (1 <<< 254)

/-- The public key of a seed. -/
def publicKey (seed : Octets) : Octets :=
  encode (multiply (secretNumber (Digest.sha512 seed)) generator)

/-- The signature of a message. -/
def sign (seed message : Octets) : Octets :=
  let digest := Digest.sha512 seed
  let secret := secretNumber digest
  let key := encode (multiply secret generator)
  let once := Octets.leToNat (Digest.sha512 (digest.drop 32 ++ message)) % order
  let point := encode (multiply once generator)
  let challenge := Octets.leToNat (Digest.sha512 (point ++ key ++ message)) % order
  point ++ Octets.leOfNat 32 ((once + challenge * secret) % order)

/-- Whether octets are a signature of a message. -/
def verify (key message signature : Octets) : Bool :=
  let point := signature.take 32
  let number := Octets.leToNat (signature.drop 32)
  signature.length == 64 && number < order &&
    match decode? key with
    | none => false
    | some base =>
      let challenge := Octets.leToNat (Digest.sha512 (point ++ key ++ message)) % order
      encode (add (multiply number generator) (multiply challenge (negate base))) == point

end CommitSeal.Ed25519
