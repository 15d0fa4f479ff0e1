import CommitSeal.Digest.Algorithm
import CommitSeal.Number.Prime

/-!
# RSA signatures

A signature is the digest of a message, wrapped with the name of the digest and padded to the
length of the modulus, raised to the secret exponent. Whoever checks it raises it to the public
exponent and compares with the padded form written anew.
-/

namespace CommitSeal.Rsa

/-- A public key: the modulus and the public exponent. -/
structure PublicKey where
  n : Nat
  e : Nat
  deriving DecidableEq, Repr

/-- The secret numbers: the exponent and the two prime factors of the modulus. -/
structure SecretKey where
  d : Nat
  p : Nat
  q : Nat
  deriving DecidableEq, Repr

/-- Whether a public key is admitted: the exponent is odd and lies between 3 and the modulus. -/
def PublicKey.isSound (key : PublicKey) : Bool :=
  3 ≤ key.n && 3 ≤ key.e && key.e < key.n && key.e % 2 == 1

/-- Whether secret numbers belong to a public key: the factors are two primes whose product is the
modulus, and the exponents are inverse to each other. -/
def SecretKey.isSoundFor (secret : SecretKey) (key : PublicKey) : Bool :=
  key.isSound && secret.p * secret.q == key.n && 1 < secret.p && 1 < secret.q
    && secret.p != secret.q
    && secret.d < key.n
    && secret.d * key.e % Nat.lcm (secret.p - 1) (secret.q - 1) == 1
    && Prime.isLikely secret.p && Prime.isLikely secret.q

/-- How many octets a number modulo `n` takes. -/
def PublicKey.length (key : PublicKey) : Nat := Octets.octetLength key.n

/-- A digest wrapped with the name of its algorithm. -/
def digestInfo (algorithm : DigestAlgorithm) (digest : Octets) : Octets :=
  let identifier := algorithm.identifier
  let name := 0x06 :: UInt8.ofNat identifier.length :: (identifier ++ [0x05, 0x00])
  let content := 0x30 :: UInt8.ofNat name.length :: name
    ++ 0x04 :: UInt8.ofNat digest.length :: digest
  0x30 :: UInt8.ofNat content.length :: content

/-- The padded form of a message's digest, unless the modulus is too short for it. -/
def padded? (length : Nat) (algorithm : DigestAlgorithm) (message : Octets) : Option Octets :=
  let content := digestInfo algorithm (algorithm.digest message)
  if content.length + 11 ≤ length then
    some (0x00 :: 0x01 :: List.replicate (length - content.length - 3) 0xFF ++ 0x00 :: content)
  else none

/-- The signature of a message, unless the numbers do not make a key. -/
def sign? (key : PublicKey) (secret : SecretKey) (algorithm : DigestAlgorithm) (message : Octets) :
    Option Nat :=
  if secret.isSoundFor key then
    (padded? key.length algorithm message).map fun content =>
      Modular.pow key.n (Octets.toNat content) secret.d
  else none

/-- Whether a number is a signature of a message. -/
def verify (key : PublicKey) (algorithm : DigestAlgorithm) (message : Octets) (signature : Nat) :
    Bool :=
  key.isSound && signature < key.n &&
    match padded? key.length algorithm message with
    | some content => Modular.pow key.n signature key.e == Octets.toNat content
    | none => false

end CommitSeal.Rsa
