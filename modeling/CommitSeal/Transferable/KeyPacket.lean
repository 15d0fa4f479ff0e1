import CommitSeal.Packet.Basic
import CommitSeal.Transferable.Secret

/-!
# Key packets

A key packet of a transferable key: its header, the public part, and the secret part if it is a
secret key. The fingerprint is taken over the public part written anew, as far as its numbers are
said to go.
-/

namespace CommitSeal.Transferable

/-- A key packet of version 4. -/
structure KeyPacket where
  header : Header
  /-- Creation time in seconds. -/
  created : Nat
  /-- The algorithm number. -/
  algorithm : UInt8
  material : Material
  /-- The secret part, of a secret key. -/
  secret : Option SecretPart
  deriving DecidableEq, Repr

namespace KeyPacket

/-- The version of the key packets that are read. -/
def version : UInt8 := 4

/-- Whether a tag is that of a secret key. -/
def isSecretTag (tag : UInt8) : Bool := tag = Packet.secretKeyTag || tag = Packet.secretSubkeyTag

/-- Whether a tag is that of a subkey. -/
def isSubkeyTag (tag : UInt8) : Bool := tag = Packet.publicSubkeyTag || tag = Packet.secretSubkeyTag

/-- Whether a key is a subkey. -/
def isSubkey (key : KeyPacket) : Bool := isSubkeyTag key.header.tag

/-- Whether only the public part of a key is there. -/
def isPublic (key : KeyPacket) : Bool := key.secret.isNone

/-- Whether a key is sealed, or a stub. -/
def isProtected (key : KeyPacket) : Bool :=
  match key.secret with
  | some secret => secret.isProtected
  | none => false

/-- Reads the secret part that a header announces, if it does. -/
def readSecret (header : Header) (material : Material) (data : Octets) :
    Except Error (Option SecretPart) :=
  if !isSecretTag header.tag then .ok none
  else
    match material with
    | .raw _ => .ok (some (.clear 0 [] []))
    | _ =>
      match SecretPart.read material.secretCount data with
      | .error e => .error e
      | .ok secret => .ok (some secret)

/-- Reads the body of a key packet behind its version. The contents are looked for inside of the
declared length; what they leave of it is dropped. -/
def read (header : Header) : Reader KeyPacket := fun data =>
  let created := Octets.toNat (data.take 4)
  match readOctet (data.drop 4) with
  | .error e => .error e
  | .ok (algorithm, rest) =>
    match Octets.splitAtCut (header.length - 6 : Int) rest with
    | (content, behind) =>
      match Material.read algorithm content with
      | .error e => .error e
      | .ok (material, secretData) =>
        match readSecret header material secretData with
        | .error e => .error e
        | .ok secret => .ok ({ header, created, algorithm, material, secret }, behind)

/-- What stands in front of the public numbers, from the version on. -/
def front (key : KeyPacket) : Octets :=
  version :: (Octets.ofNat 4 key.created ++ [key.algorithm])

/-- The public part, from the version on. -/
def publicPart (key : KeyPacket) : Octets := key.front ++ key.material.encode

/-- The 20 octets that identify a key. -/
def fingerprint (key : KeyPacket) : Octets :=
  let size := key.material.statedSize
  Digest.sha1
    (0x99 :: (Octets.ofNat 2 (6 + size) ++ key.front ++ key.material.encode.take size))

/-- The last octets of the fingerprint, as signatures name their key. -/
def keyId (key : KeyPacket) : Octets := key.fingerprint.drop 12

/-- Writes a key packet. -/
def encode (key : KeyPacket) : Octets :=
  key.header.encode ++ key.publicPart ++
    match key.secret with
    | some secret => secret.encode
    | none => []

/-- The numbers without those of an algorithm that is known by number only. -/
def knownMaterial : Material → Material
  | .raw _ => .raw []
  | material => material

/-- The public half of a secret key, in a packet of its own. -/
def publicHalf (key : KeyPacket) : KeyPacket :=
  let half := { key with material := knownMaterial key.material, secret := none }
  { half with
    header :=
      { form := .variable
        tag := if key.isSubkey then Packet.publicSubkeyTag else Packet.publicKeyTag
        length := half.publicPart.length } }

/-- A key with its secret numbers in the clear. -/
def unlock (passphrase : Octets) (key : KeyPacket) : Except SecretPart.UnlockError KeyPacket :=
  match key.secret with
  | none => .error .notLocked
  | some secret =>
    match secret.unlock key.material.secretCount passphrase with
    | .error e => .error e
    | .ok secret => .ok { key with secret := some secret }

end KeyPacket

end CommitSeal.Transferable
