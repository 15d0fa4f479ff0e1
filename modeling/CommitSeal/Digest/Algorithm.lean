import CommitSeal.Digest.Md5
import CommitSeal.Digest.Ripemd160
import CommitSeal.Digest.Sha1
import CommitSeal.Digest.Sha2

/-!
# Digest algorithms by number

Signatures name the digest they are made over by a number, and RSA signatures wrap the digest in a
structure that names it once more. Sealed secret keys name the digest that their passphrase goes
through by the same numbers.
-/

namespace CommitSeal

/-- The digests that numbers name. -/
inductive DigestAlgorithm where
  | md5
  | sha1
  | ripemd160
  | sha224
  | sha256
  | sha384
  | sha512
  deriving DecidableEq, Repr

namespace DigestAlgorithm

/-- The digest that a number names. -/
def ofNumber? (number : UInt8) : Option DigestAlgorithm :=
  if number = 1 then some md5
  else if number = 2 then some sha1
  else if number = 3 then some ripemd160
  else if number = 8 then some sha256
  else if number = 9 then some sha384
  else if number = 10 then some sha512
  else if number = 11 then some sha224
  else none

/-- The number of a digest. -/
def number : DigestAlgorithm → UInt8
  | md5 => 1
  | sha1 => 2
  | ripemd160 => 3
  | sha224 => 11
  | sha256 => 8
  | sha384 => 9
  | sha512 => 10

/-- A digest's number names it. -/
theorem ofNumber?_number (algorithm : DigestAlgorithm) :
    ofNumber? algorithm.number = some algorithm := by
  cases algorithm <;> rfl

/-- The digest of a message. -/
def digest : DigestAlgorithm → Octets → Octets
  | md5 => Digest.md5
  | sha1 => Digest.sha1
  | ripemd160 => Digest.ripemd160
  | sha224 => Digest.sha224
  | sha256 => Digest.sha256
  | sha384 => Digest.sha384
  | sha512 => Digest.sha512

/-- How many octets a digest has. -/
def length : DigestAlgorithm → Nat
  | md5 => 16
  | sha1 => 20
  | ripemd160 => 20
  | sha224 => 28
  | sha256 => 32
  | sha384 => 48
  | sha512 => 64

/-- Whether signatures can be made over a digest. -/
def isForSignatures (algorithm : DigestAlgorithm) : Bool := algorithm != ripemd160

/-- The object identifier of a digest, without its tag and length. -/
def identifier : DigestAlgorithm → Octets
  | md5 => [0x2A, 0x86, 0x48, 0x86, 0xF7, 0x0D, 0x02, 0x05]
  | sha1 => [0x2B, 0x0E, 0x03, 0x02, 0x1A]
  | ripemd160 => [0x2B, 0x24, 0x03, 0x02, 0x01]
  | sha224 => [0x60, 0x86, 0x48, 0x01, 0x65, 0x03, 0x04, 0x02, 0x04]
  | sha256 => [0x60, 0x86, 0x48, 0x01, 0x65, 0x03, 0x04, 0x02, 0x01]
  | sha384 => [0x60, 0x86, 0x48, 0x01, 0x65, 0x03, 0x04, 0x02, 0x02]
  | sha512 => [0x60, 0x86, 0x48, 0x01, 0x65, 0x03, 0x04, 0x02, 0x03]

end DigestAlgorithm

end CommitSeal
