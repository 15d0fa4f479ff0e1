import CommitSeal.Listing
import CommitSeal.Digest.Sha1

/-!
# Keyboxes

A keybox is a sequence of blobs, each behind its own length. The first blob is the header. A blob
of type OpenPGP holds a certificate and an index of its keys' fingerprints, primary key first, and
closes with a checksum; blobs of other types are passed over.
-/

namespace CommitSeal.Keybox

/-- An index entry of a blob: a key's fingerprint, and flags. -/
structure KeyInfo where
  fingerprint : Octets
  flags : Nat
  deriving DecidableEq, Repr

/-- A certificate blob, and where it starts. -/
structure Blob where
  offset : Nat
  flags : Nat
  keys : List KeyInfo
  keyblock : Octets
  deriving DecidableEq, Repr

/-- A reason why octets are no keybox. -/
inductive Error where
  /-- There is not even a header. -/
  | empty
  /-- The data ends inside the length of a blob. -/
  | truncatedLength (offset : Nat)
  /-- A blob length that is too small or too large. -/
  | badLength (length offset : Nat)
  /-- The data ends inside a blob. -/
  | truncatedBlob (offset : Nat)
  /-- The first blob is no header. -/
  | noHeader
  /-- A header blob further on. -/
  | secondHeader (offset : Nat)
  /-- A certificate blob too short for its fixed part. -/
  | shortCertificate (offset : Nat)
  /-- A checksum that does not fit. -/
  | checksum (offset : Nat)
  /-- A certificate blob without keys. -/
  | noKeys (offset : Nat)
  /-- Index entries too small for their fixed part. -/
  | smallKeyInfo (size offset : Nat)
  /-- An index longer than its blob. -/
  | keyInfosOverrun (offset : Nat)
  /-- A certificate that reaches beyond its blob. -/
  | keyblockOverrun (offset : Nat)
  /-- A certificate that starts inside the index. -/
  | keyblockOverlap (offset : Nat)
  deriving DecidableEq, Repr

/-- The wording of a defect. -/
def Error.message : Error → String
  | empty => "keybox is empty"
  | truncatedLength offset => s!"truncated blob length at offset {offset}"
  | badLength length offset => s!"invalid blob length {length} at offset {offset}"
  | truncatedBlob offset => s!"truncated blob at offset {offset}"
  | noHeader => "missing keybox header blob"
  | secondHeader offset => s!"unexpected header blob at offset {offset}"
  | shortCertificate offset => s!"OpenPGP blob at offset {offset} is truncated"
  | checksum offset => s!"checksum mismatch in blob at offset {offset}"
  | noKeys offset => s!"OpenPGP blob at offset {offset} lists no keys"
  | smallKeyInfo size offset => s!"key info size {size} too small at offset {offset}"
  | keyInfosOverrun offset => s!"key infos overrun blob at offset {offset}"
  | keyblockOverrun offset => s!"keyblock overruns blob at offset {offset}"
  | keyblockOverlap offset => s!"keyblock overlaps key infos at offset {offset}"

/-! ## The layout of blobs -/

/-- Blob type of the header. -/
def headerType : UInt8 := 1

/-- Blob type of OpenPGP certificates. -/
def certificateType : UInt8 := 2

/-- The four octets that mark a header blob. -/
def magic : Octets := [0x4B, 0x42, 0x58, 0x66]

/-- Greatest length of a blob. -/
def maxBlobLength : Nat := 16 * 1024 * 1024

/-- Octets of the checksum that closes a certificate blob. -/
def checksumLength : Nat := 20

/-- Octets in front of the index of a certificate blob. -/
def fixedLength : Nat := 20

/-- Least size of an index entry. -/
def minKeyInfoSize : Nat := 28

/-- The octets from `start` on, at most `length` of them. -/
def slice (data : Octets) (start length : Nat) : Octets := (data.drop start).take length

/-- The big-endian number of `width` octets at `start`. -/
def number (data : Octets) (start width : Nat) : Nat := Octets.toNat (slice data start width)

/-- Whether the last octets of a blob are the SHA-1 digest of the others. An old kind of checksum,
marked by four zero octets, is not verified. -/
def checksumHolds (blob : Octets) : Bool :=
  let covered := blob.take (blob.length - checksumLength)
  let stored := blob.drop (blob.length - checksumLength)
  stored.take 4 == [0, 0, 0, 0] || stored == Digest.sha1 covered

/-- The index entry of `size` octets at place `index`. -/
def keyInfo (blob : Octets) (size index : Nat) : KeyInfo :=
  let start := fixedLength + index * size
  ⟨slice blob start 20, number blob (start + 24) 2⟩

/-- Reads a certificate blob. -/
def readCertificate (offset : Nat) (blob : Octets) : Except Error Blob :=
  let covered := blob.length - checksumLength
  let keyCount := number blob 16 2
  let keyInfoSize := number blob 18 2
  let keyInfosEnd := fixedLength + keyCount * keyInfoSize
  let start := number blob 8 4
  let length := number blob 12 4
  if blob.length < fixedLength + checksumLength then .error (.shortCertificate offset)
  else if !checksumHolds blob then .error (.checksum offset)
  else if keyCount = 0 then .error (.noKeys offset)
  else if keyInfoSize < minKeyInfoSize then .error (.smallKeyInfo keyInfoSize offset)
  else if covered < keyInfosEnd then .error (.keyInfosOverrun offset)
  else if covered < start + length then .error (.keyblockOverrun offset)
  else if start < keyInfosEnd then .error (.keyblockOverlap offset)
  else
    .ok { offset, flags := number blob 6 2,
          keys := (List.range keyCount).map (keyInfo blob keyInfoSize),
          keyblock := slice blob start length }

/-! ## The sequence of blobs -/

/-- Reads blobs, of which `pass` octets are already taken; `first` says that the header is to
come. -/
def blobsFrom (first : Bool) (offset pass : Nat) : Octets → Listing Error Blob
  | [] => if first then .fail .empty else .done
  | octet :: rest =>
    match pass with
    | pass + 1 => blobsFrom first (offset + 1) pass rest
    | 0 =>
      let data := octet :: rest
      let length := number data 0 4
      let blob := data.take length
      let type := blob.getD 4 0
      if (data.take 4).length < 4 then .fail (.truncatedLength offset)
      else if length < 6 ∨ maxBlobLength < length then .fail (.badLength length offset)
      else if blob.length < length then .fail (.truncatedBlob offset)
      else if first then
        if type = headerType ∧ slice blob 8 4 = magic then
          blobsFrom false (offset + 1) (length - 1) rest
        else .fail .noHeader
      else if type = certificateType then
        match readCertificate offset blob with
        | .error e => .fail e
        | .ok certificate => .cons certificate (blobsFrom false (offset + 1) (length - 1) rest)
      else if type = headerType then .fail (.secondHeader offset)
      else blobsFrom false (offset + 1) (length - 1) rest

/-- The certificate blobs of a keybox, in order. -/
def blobs (data : Octets) : Listing Error Blob := blobsFrom true 0 0 data

end CommitSeal.Keybox
