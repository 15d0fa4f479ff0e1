import CommitSeal.Armor
import CommitSeal.Listing
import CommitSeal.Packet.Basic
import CommitSeal.Transferable.Attribute
import CommitSeal.Transferable.Certification
import CommitSeal.Transferable.KeyPacket
import CommitSeal.Transferable.Message

/-!
# The packets of transferable keys

A packet is told by its tag, and some by their version too. What has no meaning here keeps its place
as something foreign, and trust packets are dropped.
-/

namespace CommitSeal.Transferable

/-- A packet of a transferable key. -/
inductive Element where
  | key (packet : KeyPacket)
  | signature (packet : Certification)
  /-- A user ID, or an attribute of a user as it is written anew. -/
  | user (header : Header) (content : Octets)
  /-- A packet whose contents are not understood. -/
  | foreign
  /-- A signature whose contents are not understood. -/
  | foreignSignature
  /-- A packet that has its place in messages. -/
  | message
  /-- What a key store notes about its neighbour. -/
  | trust

namespace Element

/-! ## Packets by tag -/

/-- The tag that is not to be used. A packet with it has the header that counts behind its own. -/
def reservedTag : UInt8 := 0

/-- Whether the packets of a tag start with a version. -/
def isVersioned (tag : UInt8) : Bool :=
  tag = Packet.signatureTag || Packet.isKeyTag tag || (Message.version? tag).isSome

/-- The place that a packet keeps whose contents are not understood. -/
def opaqueOf (tag : UInt8) : Element :=
  if tag = Packet.signatureTag then foreignSignature
  else if tag = Packet.trustTag then trust
  else foreign

/-- Reads a packet behind its header and version. -/
def readVersioned (header : Header) (version : UInt8) : Reader Element :=
  if header.tag = Packet.signatureTag ∧ version = Certification.readVersion then
    (Certification.read header).map signature
  else if Packet.isKeyTag header.tag ∧ version = KeyPacket.version then
    (KeyPacket.read header).map key
  else if Message.version? header.tag = some version then fun data =>
    (Message.skipVersioned (fun type => (Subject.ofType? type).isSome) header data).map
      (Prod.mk message)
  else (readCut (header.length - 1 : Int)).map fun _ => opaqueOf header.tag

/-- Reads the contents of a trust packet: two octets, of which the last four bits are a level. -/
def readTrust : Reader Element := fun data =>
  if Octets.toNat (data.take 2) % 16 ≤ 6 then .ok (trust, data.drop 2)
  else .error (.malformed "an unknown level of trust")

/-- Reads a packet behind a header with the reserved tag. -/
def readReserved : Reader Element := fun data =>
  match readHeader data with
  | .error _ => .error (.malformed "a packet ends early")
  | .ok (header, rest) => .ok (opaqueOf header.tag, rest.drop header.length)

/-- Reads a packet behind its header. Packets inside of it are passed over by `skip`. -/
def readBody (skip : Skip) (header : Header) : Reader Element := fun data =>
  if isVersioned header.tag then
    match readOctet data with
    | .error e => .error e
    | .ok (version, rest) => readVersioned header version rest
  else if header.tag = reservedTag then readReserved data
  else if header.tag = Packet.trustTag then readTrust data
  else if header.tag = Packet.userIdTag then
    .ok (user header (data.take header.length), data.drop header.length)
  else if header.tag = Packet.userAttributeTag then
    (Attribute.recode header.length).map (user header) data
  else if Message.isPlain header.tag then
    (Message.skipPlain skip header data).map (Prod.mk message)
  else .ok (foreign, data.drop header.length)

/-- Reads a packet, in which packets may be `depth` deep. -/
def readAt : (depth : Nat) → Reader Element
  | 0 => fun _ => .error (.malformed "packets inside of packets")
  | depth + 1 => fun data =>
    match readHeader data with
    | .error e => .error e
    | .ok (header, rest) =>
      readBody (fun inner => (readAt depth inner).map Prod.snd) header rest

/-- Reads a packet. Packets may be inside of one another as often as there are octets. -/
def read : Reader Element := fun data => readAt (data.length + 1) data

/-! ## Sequences of packets -/

/-- The packets of octets; trust packets are dropped. -/
def listFrom : (fuel : Nat) → Octets → Listing Error Element
  | 0, _ => .done
  | fuel + 1, data =>
    if data.isEmpty then .done
    else
      match read data with
      | .error e => .fail e
      | .ok (trust, rest) => listFrom fuel rest
      | .ok (element, rest) => .cons element (listFrom fuel rest)

/-- The packets of octets; each takes at least its header. -/
def list (data : Octets) : Listing Error Element := listFrom data.length data

end Element

/-- The octets of a key or a signature: those of its block if the text is armor, else the text
itself. -/
def unarmor (admits : Octets → Bool) (text : Octets) : Except Error Octets :=
  if Armor.isPlausible text then
    match Armor.find? text with
    | none => .error (.malformed "neither armor nor packets")
    | some block =>
      match Armor.decode? block.content with
      | none => .error (.malformed "incomplete base64")
      | some data =>
        if admits block.name then .ok data else .error (.malformed "armor of something else")
  else .ok text

end CommitSeal.Transferable
