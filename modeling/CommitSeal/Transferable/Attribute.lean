import CommitSeal.Transferable.Subpacket

/-!
# Attributes of users

A user may be given as something else than a text, such as an image. What is given is cut into
subpackets as signatures are. The head of an image is read for its version and encoding only, and
written anew; anything else is kept as it is.
-/

namespace CommitSeal.Transferable

namespace Attribute

/-- The kind of an image. -/
def image : UInt8 := 1

/-- How many octets the head of an image has. -/
def imageHeadLength : Nat := 16

/-- The head of an image, which only the first version has. -/
def encodeImageHead (version encoding : UInt8) : Octets :=
  if version = 1 then 0x10 :: 0x00 :: version :: encoding :: List.replicate 12 0 else []

/-- Reads an image behind its head, with the length declared for its subpacket. -/
def readImage (declared : Nat) : Reader Octets := fun data =>
  match data with
  | _ :: _ :: version :: encoding :: _ =>
    if data.length < imageHeadLength then .error (.malformed "an image without a head")
    else
      (readCut (declared - 17 : Int)).map (encodeImageHead version encoding ++ ·)
        (data.drop imageHeadLength)
  | _ => .error (.malformed "an image without a head")

/-- Reads an attribute. -/
def read : Reader Subpacket := fun data =>
  match readVariableLength data with
  | none => .error (.malformed "an attribute ends early")
  | some (declared, rest) =>
    let mark := rest.head?.getD 0
    let rest := rest.drop 1
    let readContent := if mark &&& 0x7F = image then readImage declared
      else readCut (declared - 1 : Int)
    match readContent rest with
    | .error e => .error e
    | .ok (content, behind) =>
      .ok (⟨mark, declared, rest.take (rest.length - behind.length), content⟩, behind)

/-- Reads attributes until they take up `length` octets, and writes them anew. -/
def recodeUpTo : (fuel : Nat) → (length : Nat) → Reader Octets
  | 0, _ => fun data => .ok ([], data)
  | fuel + 1, length => fun data =>
    if length = 0 then .ok ([], data)
    else
      match read data with
      | .error e => .error e
      | .ok (given, rest) =>
        (recodeUpTo fuel (length - (data.length - rest.length))).map (given.encode ++ ·) rest

/-- Reads the contents of an attribute packet, and writes them anew. Each attribute takes at least
one octet. -/
def recode (length : Nat) : Reader Octets := fun data =>
  recodeUpTo (data.length + 1) length data

end Attribute

end CommitSeal.Transferable
