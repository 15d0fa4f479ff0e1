import CommitSeal.Packet.Error
import CommitSeal.Listing

/-!
# Packet framing

OpenPGP data is a sequence of packets: a header with a tag and a length, and a body of that length.
Headers come in two formats. The new format has lengths of one, two or five octets; the old format
has lengths of one, two or four octets, or none at all, and then the packet takes all that is left.

`Packet.frame` reads the sequence, `Packet.encode` writes a packet with a new-format header of the
fewest octets. There is such a header for a body of fewer than 2³² octets, which `Packet.encode?`
makes sure of; a body that was read may be longer, if its header said no length.
-/

namespace CommitSeal

/-- A framed packet, and where its header starts. -/
structure Packet where
  tag : UInt8
  body : Octets
  offset : Nat
  deriving DecidableEq, Repr

namespace Packet

/-! ## Tags -/

def signatureTag : UInt8 := 2
def secretKeyTag : UInt8 := 5
def publicKeyTag : UInt8 := 6
def secretSubkeyTag : UInt8 := 7
def trustTag : UInt8 := 12
def userIdTag : UInt8 := 13
def publicSubkeyTag : UInt8 := 14
def userAttributeTag : UInt8 := 17

/-- Whether packets of a tag hold a key, primary or sub, public or secret. -/
def isKeyTag (tag : UInt8) : Bool :=
  tag == secretKeyTag || tag == publicKeyTag || tag == secretSubkeyTag || tag == publicSubkeyTag

/-! ## Reading -/

/-- What a header says: the tag, the octets of the header behind its first, the body's length. -/
structure Header where
  tag : UInt8
  lengthOctets : Nat
  bodyLength : Nat

/-- A new-format length: how many octets it takes, and its value. -/
def newLength : (rest : Octets) → Except PacketError (Nat × Nat)
  | [] => .error .truncatedNewLength
  | first :: rest =>
    if first < 192 then .ok (1, first.toNat)
    else if first < 224 then
      match rest with
      | second :: _ => .ok (2, (first.toNat - 192) * 256 + second.toNat + 192)
      | [] => .error .truncatedNewLength
    else if first = 255 then
      if (rest.take 4).length = 4 then .ok (5, Octets.toNat (rest.take 4))
      else .error .truncatedNewLength
    else .error .partialLength

/-- An old-format length: how many octets it takes, and its value. -/
def oldLength (offset : Nat) (lengthType : UInt8) (rest : Octets) :
    Except PacketError (Nat × Nat) :=
  if lengthType = 3 then .ok (0, rest.length)
  else
    let size := if lengthType = 0 then 1 else if lengthType = 1 then 2 else 4
    if (rest.take size).length = size then .ok (size, Octets.toNat (rest.take size))
    else .error (.truncatedOldLength offset)

/-- The header whose first octet is `octet`, in front of `rest`. -/
def header (offset : Nat) (octet : UInt8) (rest : Octets) : Except PacketError Header :=
  if octet &&& 0x80 = 0 then .error (.badHeader octet offset)
  else if octet &&& 0x40 = 0 then
    match oldLength offset (octet &&& 0x03) rest with
    | .error e => .error e
    | .ok (size, length) => .ok ⟨octet >>> 2 &&& 0x0F, size, length⟩
  else
    match newLength rest with
    | .error e => .error e
    | .ok (size, length) => .ok ⟨octet &&& 0x3F, size, length⟩

/-- Reads packets, of which `pass` octets are already taken. -/
def frameFrom (offset pass : Nat) : Octets → Listing PacketError Packet
  | [] => .done
  | octet :: rest =>
    match pass with
    | pass + 1 => frameFrom (offset + 1) pass rest
    | 0 =>
      match header offset octet rest with
      | .error e => .fail e
      | .ok head =>
        let body := (rest.drop head.lengthOctets).take head.bodyLength
        if body.length = head.bodyLength then
          .cons ⟨head.tag, body, offset⟩
            (frameFrom (offset + 1) (head.lengthOctets + head.bodyLength) rest)
        else .fail (.overrun offset)

/-- The packets framed in `data`. -/
def frame (data : Octets) : Listing PacketError Packet := frameFrom 0 0 data

/-! ## Writing -/

/-- The header of a packet in the new format, with the fewest octets. -/
def encodeHeader (tag : UInt8) (length : Nat) : Octets :=
  (0xC0 ||| tag) ::
    (if length < 192 then [UInt8.ofNat length]
    else if length < 8384 then
      [UInt8.ofNat ((length - 192) / 256 + 192), UInt8.ofNat ((length - 192) % 256)]
    else 0xFF :: Octets.ofNat 4 length)

/-- A packet in the new format. -/
def encodeBody (tag : UInt8) (body : Octets) : Octets :=
  encodeHeader tag body.length ++ body

/-- A packet framed anew. -/
def encode (packet : Packet) : Octets := encodeBody packet.tag packet.body

/-- Whether a length can be written in four octets. -/
def isWritable (length : Nat) : Bool := decide (length < 0x100000000)

/-- A packet framed anew, unless its body is too long for any header to say so. -/
def encode? (packet : Packet) : Option Octets :=
  if isWritable packet.body.length then some packet.encode else none

end Packet

end CommitSeal
