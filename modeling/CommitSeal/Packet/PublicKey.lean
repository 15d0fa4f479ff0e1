import CommitSeal.Packet.Basic
import CommitSeal.Packet.Number
import CommitSeal.Digest.Sha1

/-!
# Public key material

A version 4 key packet starts with the version, the creation time and the algorithm; the public
numbers and fields of the algorithm follow, and a secret key packet has its secret part behind
them. The octets of the public part are what the key's fingerprint is taken over.
-/

namespace CommitSeal

/-! ## Algorithms and their fields -/

/-- The families of public key algorithms that are handled. -/
inductive KeyFamily where
  | rsa
  | dsa
  | elgamal
  | ecdh
  | ecdsa
  | eddsa
  deriving DecidableEq, Repr

/-- The numbers and fields that keys are made of. -/
inductive KeyField where
  | n
  | e
  | d
  | p
  | q
  | u
  | g
  | y
  | x
  | oid
  | kdf
  deriving DecidableEq, Repr

/-- The short name of a field. -/
def KeyField.name : KeyField → String
  | n => "n"
  | e => "e"
  | d => "d"
  | p => "p"
  | q => "q"
  | u => "u"
  | g => "g"
  | y => "y"
  | x => "x"
  | oid => "oid"
  | kdf => "kdf"

/-- Whether a field is written behind a one-octet length; the others are numbers. -/
def KeyField.isPrefixed : KeyField → Bool
  | oid => true
  | kdf => true
  | _ => false

namespace KeyFamily

/-- The family of an algorithm number. -/
def ofAlgorithm? (algorithm : UInt8) : Option KeyFamily :=
  if algorithm = 1 ∨ algorithm = 2 ∨ algorithm = 3 then some rsa
  else if algorithm = 16 ∨ algorithm = 20 then some elgamal
  else if algorithm = 17 then some dsa
  else if algorithm = 18 then some ecdh
  else if algorithm = 19 then some ecdsa
  else if algorithm = 22 then some eddsa
  else none

/-- The short name of a family. -/
def name : KeyFamily → String
  | rsa => "rsa"
  | dsa => "dsa"
  | elgamal => "elg"
  | ecdh => "ecdh"
  | ecdsa => "ecdsa"
  | eddsa => "eddsa"

/-- The public fields of a family, in the order of the packet. -/
def publicFields : KeyFamily → List KeyField
  | rsa => [.n, .e]
  | dsa => [.p, .q, .g, .y]
  | elgamal => [.p, .g, .y]
  | ecdh => [.oid, .q, .kdf]
  | ecdsa => [.oid, .q]
  | eddsa => [.oid, .q]

/-- The secret fields of a family, in the order of the packet. -/
def secretFields : KeyFamily → List KeyField
  | rsa => [.d, .p, .q, .u]
  | dsa => [.x]
  | elgamal => [.x]
  | ecdh => [.d]
  | ecdsa => [.d]
  | eddsa => [.d]

end KeyFamily

/-! ## The public part of a key packet -/

/-- The public part of a version 4 key packet. -/
structure PublicKey where
  /-- Creation time in seconds. -/
  created : Nat
  /-- The algorithm number. -/
  algorithm : UInt8
  /-- The family of the algorithm. -/
  family : KeyFamily
  /-- The public fields, in the order of the packet. -/
  fields : List (KeyField × Octets)
  /-- The octets of the public part. -/
  body : Octets
  deriving DecidableEq, Repr

namespace PublicKey

/-- The 20 octets that identify a key: SHA-1 over its public part behind a mark and a length. -/
def fingerprint (key : PublicKey) : Octets :=
  Digest.sha1 (0x99 :: (Octets.ofNat 2 key.body.length ++ key.body))

/-- The low 64 bits of the fingerprint, in upper-case hexadecimal form. -/
def keyId (key : PublicKey) : String :=
  Octets.upperHex (key.fingerprint.drop 12)

/-- The octets of a public field. -/
def field? (key : PublicKey) (field : KeyField) : Option Octets :=
  key.fields.lookup field

/-- The value of a public number; a missing one counts as zero. -/
def number (key : PublicKey) (field : KeyField) : Nat :=
  Octets.toNat ((key.field? field).getD [])

/-- Reads one field; the answer is its octets, and what follows. -/
def readField (field : KeyField) (rest : Octets) : Except PacketError (Octets × Octets) :=
  if field.isPrefixed then Packet.readPrefixed rest else Packet.readMpi rest

/-- Reads fields one behind the other; the answer is the fields, and what follows. -/
def readFields : List KeyField → Octets →
    Except PacketError (List (KeyField × Octets) × Octets)
  | [], rest => .ok ([], rest)
  | field :: more, rest =>
    match readField field rest with
    | .error e => .error e
    | .ok (value, rest) =>
      match readFields more rest with
      | .error e => .error e
      | .ok (values, rest) => .ok ((field, value) :: values, rest)

/-- Reads the public part of a key packet; the answer is the key, and the octets behind it. -/
def parse (body : Octets) : Except PacketError (PublicKey × Octets) :=
  match body with
  | version :: t1 :: t2 :: t3 :: t4 :: algorithm :: rest =>
    if version ≠ 4 then .error (.unsupportedVersion version)
    else
      match KeyFamily.ofAlgorithm? algorithm with
      | none => .error (.unsupportedAlgorithm algorithm)
      | some family =>
        match readFields family.publicFields rest with
        | .error e => .error e
        | .ok (fields, secret) =>
          .ok ({ created := Octets.toNat [t1, t2, t3, t4], algorithm, family, fields,
                 body := body.take (body.length - secret.length) }, secret)
  | _ => .error .truncatedKey

/-- The public material of every key and subkey packet of a certificate. -/
def listing (certificate : Octets) : Listing PacketError PublicKey :=
  (Packet.frame certificate).filterMapM fun packet =>
    if Packet.isKeyTag packet.tag then
      match parse packet.body with
      | .error e => .error e
      | .ok (key, _) => .ok (some key)
    else .ok none

end PublicKey

end CommitSeal
