import CommitSeal.Compression.Algorithm
import CommitSeal.Octets.Text
import CommitSeal.Transferable.Secret

/-!
# Packets of messages

Session keys, sealed or compressed data and the like have their place in messages, and none in a
transferable key. Their contents are passed over as far as they go; what makes no sense is malformed
all the same, and so is compressed data that does not hold packets.
-/

namespace CommitSeal.Transferable

/-- Passes over octets. -/
abbrev Skip := Octets → Except Error Octets

namespace Message

/-! ## Tags -/

def publicSessionKey : UInt8 := 1
def passphraseSessionKey : UInt8 := 3
def onePassSignature : UInt8 := 4
def compressed : UInt8 := 8
def sealedData : UInt8 := 9
def marker : UInt8 := 10
def literal : UInt8 := 11
def protectedData : UInt8 := 18
def modificationCheck : UInt8 := 19

/-- The version of the packets of a tag that are understood, where packets have versions. -/
def version? (tag : UInt8) : Option UInt8 :=
  if tag = publicSessionKey then some 3
  else if tag = passphraseSessionKey then some 4
  else if tag = onePassSignature then some 3
  else if tag = protectedData then some 1
  else none

/-- Whether a tag is one of packets without a version that have their place in messages. -/
def isPlain (tag : UInt8) : Bool :=
  [compressed, sealedData, marker, literal, modificationCheck].contains tag

/-! ## Contents -/

/-- Passes over what stands before a cut. -/
def skipCut (count : Int) : Skip := fun data => .ok (Octets.splitAtCut count data).2

/-- Passes over the numbers that hold a session key. -/
def skipSessionKey (algorithm : UInt8) (length : Nat) : Skip := fun data =>
  if algorithm = 1 ∨ algorithm = 2 then .ok (readNumbers 1 data).2
  else if algorithm = 16 ∨ algorithm = 20 then .ok (readNumbers 2 data).2
  else if algorithm = 18 then
    match CurvePoint.read data with
    | .error e => .error e
    | .ok (_, []) => .error (.malformed "a packet ends early")
    | .ok (_, size :: rest) => .ok (rest.drop size.toNat)
  else skipCut (length - 18 : Int) data

/-- Passes over a session key sealed for a key: whose, by which algorithm, and its numbers. -/
def skipPublicSessionKey (length : Nat) : Skip := fun data =>
  match data.drop 8 with
  | [] => .error (.malformed "a packet ends early")
  | algorithm :: rest =>
    if isKnownAlgorithm algorithm then skipSessionKey algorithm length rest
    else .error (.malformed "an unknown public key algorithm")

/-- Passes over what says how a passphrase becomes a key; the answer has how many octets it is said
to take, with one in front of it that is left out. -/
def skipStretching : Reader Nat
  | cipher :: specifier :: rest =>
    if !isCipherNumber cipher then .error (.malformed "an unknown cipher")
    else if specifier = 101 then
      (SecretPart.readStub rest).map fun (announcement, behind) =>
        (3 + announcement.length, behind)
    else if specifier ≤ 3 then
      match rest with
      | [] => .error (.malformed "a packet ends early")
      | digest :: salted =>
        if isDigestNumber digest then
          (SecretPart.readStretching specifier salted).map fun (_, behind) =>
            (3 + rest.length - behind.length, behind)
        else .error (.malformed "an unknown digest")
    else .error (.malformed "an unknown way to stretch a passphrase")
  | _ => .error (.malformed "a packet ends early")

/-- Passes over a session key sealed under a passphrase. -/
def skipPassphraseSessionKey (length : Nat) : Skip := fun data =>
  match skipStretching data with
  | .error e => .error e
  | .ok (size, rest) => skipCut ((length : Int) - (size : Int)) rest

/-- Passes over the announcement of a signature: its type, which must be known, the digest, the
algorithm, the key, and whether another announcement follows. -/
def skipOnePassSignature (isKnownType : UInt8 → Bool) : Skip
  | type :: _ :: algorithm :: rest =>
    match rest.drop 8 with
    | [] => .error (.malformed "a packet ends early")
    | _ :: behind =>
      if isKnownType type && isKnownAlgorithm algorithm then .ok behind
      else .error (.malformed "an unknown type or algorithm of signature")
  | _ => .error (.malformed "a packet ends early")

/-- Passes over literal data: its form, a name, a time, and the data. The name must be a text. -/
def skipLiteral (length : Nat) : Skip
  | _ :: size :: rest =>
    let name := rest.take size.toNat
    if (Octets.text? name).isSome then
      skipCut ((length : Int) - (6 + size.toNat : Nat)) ((rest.drop size.toNat).drop 4)
    else .error (.malformed "a name that is no text")
  | _ => .error (.malformed "a packet ends early")

/-- Passes over packets to the last octet. -/
def skipAll (skip : Skip) : (fuel : Nat) → Octets → Except Error Unit
  | _, [] => .ok ()
  | 0, _ :: _ => .error (.malformed "a packet without octets")
  | fuel + 1, octet :: rest =>
    match skip (octet :: rest) with
    | .error _ => .error (.malformed "compressed data that makes no sense")
    | .ok rest => skipAll skip fuel rest

/-- Passes over compressed data. It must stand for packets, each of which takes an octet or more. -/
def skipCompressed (skip : Skip) (length : Nat) : Skip
  | [] => .error (.malformed "a packet ends early")
  | number :: rest =>
    match Octets.splitAtCut (length - 1 : Int) rest with
    | (content, behind) =>
      match (Compression.ofNumber? number).bind (Compression.expand? · content) with
      | none => .error (.malformed "compressed data that makes no sense")
      | some content => (skipAll skip content.length content).map fun _ => behind

/-- Passes over the contents of a packet with a version that is understood. -/
def skipVersioned (isKnownType : UInt8 → Bool) (header : Header) : Skip :=
  if header.tag = publicSessionKey then skipPublicSessionKey header.length
  else if header.tag = passphraseSessionKey then skipPassphraseSessionKey header.length
  else if header.tag = onePassSignature then skipOnePassSignature isKnownType
  else skipCut (header.length - 1 : Int)

/-- Passes over the contents of a packet without a version; `skip` passes over packets inside of
it. -/
def skipPlain (skip : Skip) (header : Header) : Skip :=
  if header.tag = compressed then skipCompressed skip header.length
  else if header.tag = literal then skipLiteral header.length
  else if header.tag = modificationCheck then fun data => .ok (data.drop 20)
  else fun data => .ok (data.drop header.length)

end Message

end CommitSeal.Transferable
