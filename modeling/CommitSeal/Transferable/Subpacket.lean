import CommitSeal.Octets.Text
import CommitSeal.Transferable.Material

/-!
# Subpackets of signatures

What a signature says about itself is cut into subpackets, each with a length, a kind and a content.
A content is read by its kind, whatever length is declared: numbers have a fixed width, flags are
joined, lists hold known values only. It is kept in the form in which it is written again, while the
declared length is kept as it is; so an area of subpackets may be written with a length that is not
the one of its octets.
-/

namespace CommitSeal.Transferable

/-- A subpacket of a signature. -/
structure Subpacket where
  /-- The kind, and whether it must be understood. -/
  mark : UInt8
  /-- The declared length, the mark included. -/
  declared : Nat
  /-- The content as it was read. -/
  source : Octets
  /-- The content as it is written. -/
  content : Octets
  deriving DecidableEq, Repr

namespace Subpacket

/-! ## Kinds -/

def creationTime : UInt8 := 2
def signatureExpiration : UInt8 := 3
def exportable : UInt8 := 4
def trust : UInt8 := 5
def regularExpression : UInt8 := 6
def revocable : UInt8 := 7
def keyExpiration : UInt8 := 9
def preferredCiphers : UInt8 := 11
def revocationKey : UInt8 := 12
def issuer : UInt8 := 16
def notationData : UInt8 := 20
def preferredDigests : UInt8 := 21
def preferredCompression : UInt8 := 22
def serverPreferences : UInt8 := 23
def preferredServer : UInt8 := 24
def primaryUser : UInt8 := 25
def policy : UInt8 := 26
def keyFlags : UInt8 := 27
def signersUser : UInt8 := 28
def revocationReason : UInt8 := 29
def features : UInt8 := 30
def embedded : UInt8 := 32
def issuerFingerprint : UInt8 := 33
def intendedRecipient : UInt8 := 35

/-- What a subpacket is about. -/
def kind (subpacket : Subpacket) : UInt8 := subpacket.mark &&& 0x7F

/-- The number that the content stands for. -/
def number (subpacket : Subpacket) : Nat := Octets.toNat subpacket.content

/-! ## Writing -/

/-- Writes a subpacket. -/
def encode (subpacket : Subpacket) : Octets :=
  encodeVariableLength subpacket.declared ++ subpacket.mark :: subpacket.content

/-- How many octets a subpacket is said to take with its length. -/
def statedSize (subpacket : Subpacket) : Nat :=
  variableLengthSize subpacket.declared + subpacket.declared

/-- How many octets subpackets are said to take together. -/
def areaSize (subpackets : List Subpacket) : Nat :=
  subpackets.foldl (fun total subpacket => total + subpacket.statedSize) 0

/-- Writes subpackets behind what they are said to take together. -/
def encodeArea (subpackets : List Subpacket) : Octets :=
  Octets.ofNatAtLeast 2 (areaSize subpackets) ++ subpackets.flatMap encode

/-- A subpacket of a kind. -/
def make (kind : UInt8) (content : Octets) : Subpacket :=
  ⟨kind, content.length + 1, content, content⟩

/-! ## Contents by kind -/

/-- A text, of octets that are the codes of its characters. -/
def encodeCodes (octets : Octets) : Octets := Octets.ofText (Octets.codeText octets)

/-- Reads a number of four octets. -/
def readSeconds : Reader Octets := fun data =>
  .ok (Octets.ofNat 4 (Octets.toNat (data.take 4)), data.drop 4)

/-- Reads a truth value that always counts as false. -/
def readDenial : Reader Octets := fun data => .ok ([0], data.drop 1)

/-- Reads a truth value. -/
def readTruth : Reader Octets := fun data =>
  .ok ([if Octets.toNat (data.take 1) = 0 then 0 else 1], data.drop 1)

/-- Reads values, one to an octet; each must be known. -/
def readValues (isKnown : UInt8 → Bool) (count : Nat) : Reader Octets := fun data =>
  let values := Octets.takeFilled count data
  if values.all isKnown then .ok (values, data.drop count)
  else .error (.malformed "an unknown value")

/-- Reads flags. Those of all octets are joined into the first one; the others become zero. -/
def readFlags (known : UInt8) (count : Nat) : Reader Octets := fun data =>
  let flags := (data.take count).foldl (fun flags octet => flags ||| (octet &&& known)) 0
  .ok (flags :: List.replicate (count - 1) 0, data.drop count)

/-- Reads a text. -/
def readCodes (count : Int) : Reader Octets := (readCut count).map encodeCodes

/-- Reads a key that may revoke: its class, its algorithm and its fingerprint. -/
def readRevocationKey : Reader Octets := fun data =>
  let role := data.head?.getD 0
  let algorithm := (data.drop 1).head?.getD 0
  let fingerprint := (data.drop 2).take 20
  if isKnownAlgorithm algorithm && fingerprint.length = 20 then
    .ok ((role &&& 0xC0) :: algorithm :: fingerprint, data.drop 22)
  else .error (.malformed "an unknown kind of key")

/-- Reads a statement under a name, behind the lengths of both. Only whether it is meant for readers
is kept of its flags. -/
def readNotation : Reader Octets := fun data =>
  let flags := Octets.toNat (data.take 1)
  let nameLength := Octets.toNat ((data.drop 4).take 2)
  let valueLength := Octets.toNat ((data.drop 6).take 2)
  let name := (data.drop 8).take nameLength
  let rest := (data.drop 8).drop nameLength
  let value := rest.take valueLength
  let isReadable := 128 ≤ flags
  .ok ([if isReadable then 0x80 else 0, 0, 0, 0] ++ Octets.ofNat 2 name.length
    ++ Octets.ofNat 2 value.length ++ encodeCodes name
    ++ (if isReadable then encodeCodes value else value), rest.drop valueLength)

/-- Reads a reason for revocation: a code and a text. -/
def readReason (count : Int) : Reader Octets := fun data =>
  let code := data.head?.getD 0
  if [0, 1, 2, 3, 32].contains code then
    (readCodes (count - 1)).map (code :: ·) (data.drop 1)
  else .error (.malformed "an unknown reason for revocation")

/-- Reads a fingerprint behind the version of its key. -/
def readFingerprint (count : Int) : Reader Octets := fun data =>
  let version := data.head?.getD 0
  let length := if version = 4 then 20 else if version = 5 then 32 else count
  match Octets.splitAtCut length (data.drop 1) with
  | (fingerprint, rest) =>
    if fingerprint.length = 20 then .ok (version :: fingerprint, rest)
    else .error (.malformed "a fingerprint of another length")

/-- Reads a content of a kind, with the length declared for it. A signature inside of another is
read by `readSignature`. -/
def readContent (readSignature : Reader Octets) (kind : UInt8) (count : Int) : Reader Octets :=
  if [creationTime, signatureExpiration, keyExpiration].contains kind then readSeconds
  else if [exportable, revocable].contains kind then readDenial
  else if kind = trust then fun data => .ok (Octets.takeFilled 2 data, data.drop 2)
  else if [regularExpression, preferredServer, policy, signersUser].contains kind then
    readCodes count
  else if kind = preferredCiphers then readValues isCipherNumber count.toNat
  else if kind = preferredDigests then readValues isDigestNumber count.toNat
  else if kind = preferredCompression then readValues (· ≤ 3) count.toNat
  else if kind = revocationKey then readRevocationKey
  else if kind = issuer then readCut 8
  else if kind = notationData then readNotation
  else if kind = serverPreferences then readFlags 0x80 count.toNat
  else if kind = primaryUser then readTruth
  else if kind = keyFlags then readFlags 0xBF count.toNat
  else if kind = revocationReason then readReason count
  else if kind = features then readFlags 0x01 count.toNat
  else if kind = embedded then readSignature
  else if [issuerFingerprint, intendedRecipient].contains kind then readFingerprint count
  else readCut count

/-! ## Reading -/

/-- Reads a subpacket. -/
def read (readSignature : Reader Octets) : Reader Subpacket := fun data =>
  match readVariableLength data with
  | none => .error (.malformed "a subpacket ends early")
  | some (declared, rest) =>
    let mark := rest.head?.getD 0
    let rest := rest.drop 1
    match readContent readSignature (mark &&& 0x7F) (declared - 1 : Int) rest with
    | .error e => .error e
    | .ok (content, behind) =>
      .ok (⟨mark, declared, rest.take (rest.length - behind.length), content⟩, behind)

/-- Reads subpackets until they take up `length` octets. -/
def readUpTo (readSignature : Reader Octets) :
    (fuel : Nat) → (length : Nat) → Reader (List Subpacket)
  | 0, _ => fun data => .ok ([], data)
  | fuel + 1, length => fun data =>
    if length = 0 then .ok ([], data)
    else
      match read readSignature data with
      | .error e => .error e
      | .ok (subpacket, rest) =>
        match readUpTo readSignature fuel (length - (data.length - rest.length)) rest with
        | .error e => .error e
        | .ok (subpackets, rest) => .ok (subpacket :: subpackets, rest)

/-- Reads an area of subpackets behind its length. Each takes at least one octet. -/
def readArea (readSignature : Reader Octets) : Reader (List Subpacket) := fun data =>
  let length := Octets.toNat (data.take 2)
  readUpTo readSignature length length (data.drop 2)

end Subpacket

end CommitSeal.Transferable
