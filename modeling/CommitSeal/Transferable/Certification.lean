import CommitSeal.Transferable.Subpacket

/-!
# Signature packets

A signature says over what it was made, by which algorithms, and in subpackets when and by whom.
One part of the subpackets is covered by the signature, the other is not. What a key or a user is
good for counts only in the covered part, and stating it in the other part alone is a fault.
-/

namespace CommitSeal.Transferable

/-! ## Subjects -/

/-- What a signature is made over. -/
inductive Subject where
  /-- Octets as they are. -/
  | binary
  /-- A text, whatever its line ends. -/
  | text
  /-- Nothing but the signature itself. -/
  | nothing
  /-- Keys and users. -/
  | key
  deriving DecidableEq, Repr

/-- What a type of signatures is made over, if the type is known. -/
def Subject.ofType? (type : UInt8) : Option Subject :=
  if type = 0x00 then some binary
  else if type = 0x01 then some text
  else if [0x02, 0x16, 0x40, 0x50].contains type then some nothing
  else if [0x10, 0x11, 0x12, 0x13, 0x18, 0x19, 0x1F, 0x20, 0x28, 0x30].contains type then some key
  else none

/-! ## Signatures -/

/-- A signature packet. -/
structure Certification where
  header : Header
  version : UInt8
  /-- Its type, which says what it is made over. -/
  type : UInt8
  /-- The number of the signer's algorithm. -/
  algorithm : UInt8
  /-- The number of the digest. -/
  digest : UInt8
  /-- The subpackets covered by the signature. -/
  hashed : List Subpacket
  /-- The other subpackets. -/
  unhashed : List Subpacket
  /-- The first two octets of the digest. -/
  check : Octets
  numbers : List Nat
  deriving DecidableEq, Repr

namespace Certification

/-- The version of the signature packets that are read. -/
def readVersion : UInt8 := 4

/-- The type of a signature by which a primary key claims a subkey. -/
def subkeyBinding : UInt8 := 0x18

/-- The type of a signature by which a key speaks about itself. -/
def directOnKey : UInt8 := 0x1F

/-- The type of a signature that revokes a primary key. -/
def keyRevocation : UInt8 := 0x20

/-- The type of a signature that revokes a subkey. -/
def subkeyRevocation : UInt8 := 0x28

/-- How many numbers the signatures of an algorithm have, if the algorithm is known. -/
def numberCount? (algorithm : UInt8) : Option Nat :=
  if algorithm = 1 ∨ algorithm = 2 ∨ algorithm = 3 then some 1
  else if algorithm = 17 ∨ algorithm = 19 ∨ algorithm = 22 then some 2
  else if isKnownAlgorithm algorithm then some 0
  else none

/-! ## Writing -/

/-- What a signature covers of itself: from the version to the end of the covered subpackets. -/
def covered (signature : Certification) : Octets :=
  signature.version :: signature.type :: signature.algorithm :: signature.digest ::
    Subpacket.encodeArea signature.hashed

/-- The body of a signature packet up to the numbers. -/
def head (signature : Certification) : Octets :=
  signature.covered ++ Subpacket.encodeArea signature.unhashed ++ signature.check

/-- The body of a signature packet. -/
def body (signature : Certification) : Octets := signature.head ++ encodeNumbers signature.numbers

/-- Writes a signature packet. -/
def encode (signature : Certification) : Octets := signature.header.encode ++ signature.body

/-- What stands behind the subject when a signature is made: its covered part, and the length of
that. -/
def trailer (covered : Octets) : Octets :=
  covered ++ 0x04 :: 0xFF :: Octets.ofNat 4 covered.length

/-! ## Reading -/

/-- Reads the two areas of subpackets. -/
def readAreas (readSignature : Reader Octets) : Reader (List Subpacket × List Subpacket) :=
  fun data =>
    match Subpacket.readArea readSignature data with
    | .error e => .error e
    | .ok (hashed, rest) =>
      match Subpacket.readArea readSignature rest with
      | .error e => .error e
      | .ok (unhashed, rest) => .ok ((hashed, unhashed), rest)

/-- Reads the body of a signature packet behind its version; its contents say where it ends. -/
def readWith (readSignature : Reader Octets) (header : Header) (version : UInt8) :
    Reader Certification
  | type :: algorithm :: digest :: rest =>
    match Subject.ofType? type, numberCount? algorithm with
    | some _, some count =>
      match readAreas readSignature rest with
      | .error e => .error e
      | .ok ((hashed, unhashed), rest) =>
        match readNumbers count (rest.drop 2) with
        | (numbers, behind) =>
          .ok ({ header, version, type, algorithm, digest, hashed, unhashed,
                 check := rest.take 2, numbers }, behind)
    | none, _ => .error (.malformed "an unknown type of signature")
    | _, none => .error (.malformed "an unknown public key algorithm")
  | _ => .error (.malformed "a packet ends early")

/-- The header of a signature that is not in a packet of its own. -/
def noHeader : Header := ⟨.variable, Packet.signatureTag, 0⟩

/-- Reads a signature from its version on. Signatures inside of signatures may be `depth` deep. -/
def readEmbedded : (depth : Nat) → Reader Certification
  | 0, _ => .error (.malformed "a signature ends early")
  | _ + 1, [] => .error (.malformed "a signature ends early")
  | depth + 1, version :: data =>
    readWith (Reader.map body (readEmbedded depth)) noHeader version data

/-- Reads the body of a signature packet behind its version. Each signature inside of another takes
octets, so that there cannot be more of them than octets. -/
def read (header : Header) : Reader Certification := fun data =>
  readWith (Reader.map body (readEmbedded data.length)) header readVersion data

/-! ## What a signature says -/

/-- The covered subpackets of a kind. -/
def covers (signature : Certification) (kind : UInt8) : List Subpacket :=
  signature.hashed.filter fun subpacket => subpacket.kind == kind

/-- All subpackets of a kind. -/
def mentions (signature : Certification) (kind : UInt8) : List Subpacket :=
  (signature.hashed ++ signature.unhashed).filter fun subpacket => subpacket.kind == kind

/-- The first covered subpacket of a kind. There is an error if the kind is mentioned only in the
other part. -/
def coveredFirst? (signature : Certification) (kind : UInt8) : Except Error (Option Subpacket) :=
  match signature.covers kind, signature.mentions kind with
  | subpacket :: _, _ => .ok (some subpacket)
  | [], [] => .ok none
  | [], _ :: _ => .error .unstated

/-- When a signature was made. -/
def created (signature : Certification) : Except Error Nat :=
  match (signature.covers Subpacket.creationTime).getLast? with
  | some subpacket => .ok subpacket.number
  | none => .error .unstated

/-- The key that a signature names as its maker; the last one named counts. -/
def issuer (signature : Certification) : Except Error Octets :=
  match (signature.mentions Subpacket.issuer).getLast? with
  | some subpacket => .ok subpacket.content
  | none => .error .unstated

/-- The fingerprint of its maker that a signature states; the first one stated counts. -/
def issuerFingerprint? (signature : Certification) : Option Octets :=
  ((signature.mentions Subpacket.issuerFingerprint).head?).map fun subpacket =>
    subpacket.content.drop 1

/-- Whether a signature goes out with its key. One that says anything about this stays. -/
def isExportable (signature : Certification) : Bool :=
  (signature.mentions Subpacket.exportable).isEmpty

/-- Whether a signature calls its user the main one. -/
def isPrimaryUser (signature : Certification) : Bool :=
  match signature.covers Subpacket.primaryUser with
  | subpacket :: _ => subpacket.number != 0
  | [] => false

/-- For how long its key is good, in seconds from the key's creation, if the signature says so. -/
def keyLifetime? (signature : Certification) : Except Error (Option Nat) :=
  (signature.coveredFirst? Subpacket.keyExpiration).map fun subpacket =>
    subpacket.map Subpacket.number

/-- Whether a signature lets its key sign. -/
def allowsSigning (signature : Certification) : Except Error Bool :=
  (signature.coveredFirst? Subpacket.keyFlags).map fun subpacket =>
    subpacket.any fun flags => flags.content.any fun octet => octet &&& 0x02 != 0

/-- Whether a signature is over; a lifetime of zero has no end. -/
def isExpired (signature : Certification) (now : Nat) : Except Error Bool :=
  match signature.mentions Subpacket.signatureExpiration with
  | [] => .ok false
  | subpacket :: _ =>
    signature.created.map fun created =>
      subpacket.number != 0 && decide (created + subpacket.number < now)

/-- The signatures inside of a signature. -/
def embedded (signature : Certification) : List Certification :=
  (signature.mentions Subpacket.embedded).filterMap fun subpacket =>
    match readEmbedded (subpacket.source.length + 1) subpacket.source with
    | .ok (signature, _) => some signature
    | .error _ => none

end Certification

end CommitSeal.Transferable
