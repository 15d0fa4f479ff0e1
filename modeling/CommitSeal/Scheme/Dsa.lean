import CommitSeal.Digest.Algorithm
import CommitSeal.Number.Modular

/-!
# Signatures by discrete logarithms

DSA in a group of residues, and the part that it shares with the scheme on curves: a digest cut to
the length of the group's order, and one-time numbers that are drawn from the secret and the
digest, so that the same message has the same signature.
-/

namespace CommitSeal.Dsa

/-- The two numbers of a signature. -/
structure Signature where
  r : Nat
  s : Nat
  deriving DecidableEq, Repr

/-! ## What all groups share -/

/-- The number that a digest stands for: its leading bits, as many as the order has. -/
def digestNumber (order : Nat) (digest : Octets) : Nat :=
  let excess := 8 * digest.length - Octets.bitLength order
  Octets.toNat digest >>> excess

/-- A one-time number below the order, which depends on the secret, the digest and the attempt. -/
def nonce (order secret attempt : Nat) (digest : Octets) : Nat :=
  let seed := Octets.ofNatMinimal secret ++ 0x00 :: (digest ++ Octets.ofNat 4 attempt)
  let wide := Digest.sha512 (0x01 :: seed) ++ Digest.sha512 (0x02 :: seed)
  Octets.toNat wide % (order - 1) + 1

/-- How often another one-time number is tried when a signature would have a zero. -/
def maxAttempts : Nat := 16

/-- A signature in a group of prime order. `power` is the number that the group gives to a
one-time number. -/
def signWith (order secret : Nat) (power : Nat → Nat) (digest : Octets) :
    (attempts : Nat) → Option Signature
  | 0 => none
  | attempts + 1 =>
    let k := nonce order secret attempts digest
    let r := power k % order
    let s := Modular.inverse order k * (digestNumber order digest + r * secret) % order
    if r = 0 ∨ s = 0 then signWith order secret power digest attempts else some ⟨r, s⟩

/-- The two exponents that a check of a signature combines, unless its numbers are out of range. -/
def checkExponents? (order : Nat) (digest : Octets) (signature : Signature) : Option (Nat × Nat) :=
  if 0 < signature.r ∧ signature.r < order ∧ 0 < signature.s ∧ signature.s < order then
    let w := Modular.inverse order signature.s
    some (digestNumber order digest * w % order, signature.r * w % order)
  else none

/-! ## The group of residues -/

/-- A public key: the modulus, the order, the generator, and its power by the secret. -/
structure PublicKey where
  p : Nat
  q : Nat
  g : Nat
  y : Nat
  deriving DecidableEq, Repr

/-- Whether the sizes of a public key's numbers are admitted. -/
def PublicKey.isSound (key : PublicKey) : Bool :=
  [1024, 2048, 3072, 4096].contains (Octets.bitLength key.p)
    && [160, 224, 256].contains (Octets.bitLength key.q) && 1 < key.g && key.g < key.p

/-- Whether a secret number belongs to a public key. -/
def PublicKey.owns (key : PublicKey) (secret : Nat) : Bool :=
  key.isSound && 0 < secret && secret < key.q && Modular.pow key.p key.g secret == key.y

/-- The signature of a message, unless the numbers do not make a key. -/
def sign? (key : PublicKey) (secret : Nat) (algorithm : DigestAlgorithm) (message : Octets) :
    Option Signature :=
  if key.owns secret then
    signWith key.q secret (Modular.pow key.p key.g) (algorithm.digest message) maxAttempts
  else none

/-- Whether a pair of numbers is a signature of a message. -/
def verify (key : PublicKey) (algorithm : DigestAlgorithm) (message : Octets)
    (signature : Signature) : Bool :=
  key.isSound &&
    match checkExponents? key.q (algorithm.digest message) signature with
    | some (a, b) =>
      Modular.pow key.p key.g a * Modular.pow key.p key.y b % key.p % key.q == signature.r
    | none => false

end CommitSeal.Dsa
