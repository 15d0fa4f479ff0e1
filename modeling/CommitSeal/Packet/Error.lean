import CommitSeal.Octets.Basic

/-!
# What can be wrong with OpenPGP data
-/

namespace CommitSeal

/-- A reason why octets do not frame or decode as OpenPGP data. -/
inductive PacketError where
  /-- An octet that starts no packet. -/
  | badHeader (octet : UInt8) (offset : Nat)
  /-- The data ends inside a new-format length. -/
  | truncatedNewLength
  /-- The data ends inside an old-format length. -/
  | truncatedOldLength (offset : Nat)
  /-- A body that would come in parts. -/
  | partialLength
  /-- A body longer than the data. -/
  | overrun (offset : Nat)
  /-- The data ends inside the bit count of a number. -/
  | truncatedNumberHeader
  /-- The data ends inside a number. -/
  | truncatedNumber
  /-- A number of more than 65535 bits, which has no encoding. -/
  | numberTooLong
  /-- The data ends where the length of a field is to be. -/
  | truncatedFieldLength
  /-- A field length with a reserved meaning. -/
  | reservedFieldLength (size : Nat)
  /-- The data ends inside a field. -/
  | truncatedField
  /-- A key packet too short for its fixed part. -/
  | truncatedKey
  /-- A key packet of a version that is not handled. -/
  | unsupportedVersion (version : UInt8)
  /-- A key of an algorithm that is not handled. -/
  | unsupportedAlgorithm (algorithm : UInt8)
  /-- Secret parameters that an algorithm needs are missing. -/
  | missingSecret (names : List String)
  /-- A certificate with something before its primary key. -/
  | primaryNotFirst
  /-- A certificate without a primary key. -/
  | noPrimary
  deriving DecidableEq, Repr

/-- The wording of a defect. -/
def PacketError.message : PacketError → String
  | badHeader octet offset =>
    "invalid packet header 0x" ++ Octets.hex [octet] ++ s!" at offset {offset}"
  | truncatedNewLength => "truncated packet length"
  | truncatedOldLength offset => s!"truncated packet length at offset {offset}"
  | partialLength => "partial body lengths are not valid in key material"
  | overrun offset => s!"packet at offset {offset} overruns the buffer"
  | truncatedNumberHeader => "truncated MPI header"
  | truncatedNumber => "truncated MPI value"
  | numberTooLong => "number too long for an MPI"
  | truncatedFieldLength => "truncated field length"
  | reservedFieldLength size => s!"reserved field length {size}"
  | truncatedField => "truncated field"
  | truncatedKey => "truncated key packet"
  | unsupportedVersion version => s!"unsupported key packet version {version}"
  | unsupportedAlgorithm algorithm => s!"unsupported public key algorithm {algorithm}"
  | missingSecret names => "missing secret parameters: " ++ String.intercalate ", " names
  | primaryNotFirst => "keyblock does not start with a public key"
  | noPrimary => "keyblock holds no public key"

/-- Whether the key is well formed, but of a version or algorithm that is not handled. -/
def PacketError.isUnsupported : PacketError → Bool
  | unsupportedVersion _ => true
  | unsupportedAlgorithm _ => true
  | _ => false

end CommitSeal
