import CommitSeal.Failure
import CommitSeal.KeyId
import CommitSeal.Packet.SecretKey
import CommitSeal.Path

/-!
# Records of key stores

What the key stores hold: public keys with their certificates, secret keys with the public keys they
belong to, and the files of a secret key directory.
-/

namespace CommitSeal

/-- The fault of an operation that met malformed packets. -/
def PacketError.fault : PacketError → Fault
  | .numberTooLong => .numberTooLong
  | e => .malformed (if e.isUnsupported then .keyFeature else .packet) e.message

/-- A public key, and the certificate it belongs to. -/
structure PublicRecord where
  /-- The key; of a certificate from a keybox, its primary key. -/
  key : PublicKey
  /-- The packets of the certificate. -/
  certificate : Octets
  /-- The fingerprints of all keys of the certificate, the primary key's first. -/
  fingerprints : List Octets
  /-- The store that it was read from. -/
  source : Path
  deriving DecidableEq, Repr

namespace PublicRecord

/-- The identifier of the key. -/
def keyId (record : PublicRecord) : String := record.key.keyId

/-- The fingerprint of the key in hexadecimal digits. -/
def fingerprintText (record : PublicRecord) : String := Octets.upperHex record.key.fingerprint

/-- Whether an identifier names any key of the certificate. -/
def answersTo (record : PublicRecord) (id : KeyId) : Bool := record.fingerprints.any id.fits

/-- The key of the certificate that has the given identifier, or that of the record if none is
given. -/
def findMaterial (record : PublicRecord) (keyId : Option String) :
    Except PacketError (Option PublicKey) :=
  let wanted :=
    match keyId with
    | none => record.keyId
    | some id => if id = "" then record.keyId else id
  (PublicKey.listing record.certificate).find? fun key => key.keyId == Text.upper wanted

end PublicRecord

/-- How a secret key is stored. -/
inductive SecretFormat where
  /-- In a file of its own. -/
  | agent
  /-- In a keyring of transferable keys. -/
  | keyring
  deriving DecidableEq, Repr

/-- A secret key as stored, and the public key it belongs to. -/
structure SecretRecord where
  publicKey : PublicRecord
  format : SecretFormat
  /-- The content of the file, or the transferable key. -/
  material : Octets
  source : Path
  /-- Whether a passphrase belongs to it. -/
  isProtected : Bool
  deriving DecidableEq, Repr

namespace SecretRecord

/-- The identifier of the key. -/
def keyId (record : SecretRecord) : String := record.publicKey.keyId

/-- The name under which the passphrase of the key is asked for. -/
def resource (record : SecretRecord) : String :=
  record.publicKey.source.text ++ "#" ++ record.keyId

end SecretRecord

/-- A file of a secret key directory. -/
structure SecretFile where
  path : Path
  content : Octets
  deriving DecidableEq, Repr

end CommitSeal
