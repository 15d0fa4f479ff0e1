import CommitSeal.Packet.Error

/-!
# Numbers and fields inside packets

A multiprecision integer is a bit count of two octets and the octets that many bits need. A
prefixed field is a length of one octet and that many octets; the lengths 0 and 255 are reserved.
-/

namespace CommitSeal.Packet

/-- Reads a multiprecision integer; the answer is its octets as written, and what follows. -/
def readMpi : Octets → Except PacketError (Octets × Octets)
  | high :: low :: rest =>
    let length := (256 * high.toNat + low.toNat + 7) / 8
    let value := rest.take length
    if value.length = length then .ok (value, rest.drop length) else .error .truncatedNumber
  | _ => .error .truncatedNumberHeader

/-- Writes the big-endian number `value` as a multiprecision integer without leading zeros. -/
def encodeMpi (value : Octets) : Except PacketError Octets :=
  let minimal := Octets.dropZeros value
  let bits := Octets.bitLength (Octets.toNat minimal)
  if bits < 65536 then .ok (Octets.ofNat 2 bits ++ minimal) else .error .numberTooLong

/-- Reads a prefixed field; the answer is its octets, and what follows. -/
def readPrefixed : Octets → Except PacketError (Octets × Octets)
  | [] => .error .truncatedFieldLength
  | size :: rest =>
    if size = 0 ∨ size = 0xFF then .error (.reservedFieldLength size.toNat)
    else
      let value := rest.take size.toNat
      if value.length = size.toNat then .ok (value, rest.drop size.toNat)
      else .error .truncatedField

end CommitSeal.Packet
