import CommitSeal.Scheme.Der
import CommitSeal.Transferable.Signing

/-!
# Checking a signature against a transferable key

A detached signature is good if it names the primary key or a subkey of the ring, and its value fits
the octets. A key whose lifetime is over signs nothing, unless something else is wrong with it or
the signature as well: it is used with what it says then. A statement of the key about itself that
cannot be read is a refusal.
-/

namespace CommitSeal.Transferable

/-! ## The signed octets -/

/-- A text with CR LF for every line end. -/
def canonicalLines : Octets → Octets
  | [] => []
  | 0x0D :: 0x0A :: rest => 0x0D :: 0x0A :: canonicalLines rest
  | octet :: rest =>
    if octet = 0x0A then 0x0D :: 0x0A :: canonicalLines rest else octet :: canonicalLines rest

/-- The octets that a signature of a payload is made over, if its type is one of documents. -/
def Certification.signedOctets? (signature : Certification) (payload : Octets) : Option Octets :=
  let trailer := Certification.trailer signature.covered
  match Subject.ofType? signature.type with
  | some .binary => some (payload ++ trailer)
  | some .text => some (canonicalLines payload ++ trailer)
  | some .nothing => some trailer
  | _ => none

/-! ## The value -/

/-- The octets that a signature hands to its key: its numbers in the form of its own algorithm. One
without numbers hands over what follows it. -/
def Certification.value (signature : Certification) (behind : Octets) : Octets :=
  match signature.numbers with
  | [number] => numberOctets number
  | [r, s] =>
    if signature.algorithm = 22 then Octets.ofNatAtLeast 32 r ++ Octets.ofNatAtLeast 32 s
    else Der.encodePair ⟨r, s⟩
  | _ => behind

/-- Whether a value is a signature of a message by a key. -/
def KeyPacket.accepts (key : KeyPacket) (algorithm : DigestAlgorithm) (message value : Octets) :
    Bool :=
  match key.material with
  | .rsa n e =>
    value.length ≤ Octets.octetLength n
      && Rsa.verify ⟨n, e⟩ algorithm message (Octets.toNat value)
  | .dsa p q g y => (Der.readPair? value).any (Dsa.verify ⟨p, q, g, y⟩ algorithm message)
  | .ecdsa curve (.coordinates _ x y) =>
    match curve.parameters? with
    | some parameters =>
      (Der.readPair? value).any (Ecdsa.verify ⟨parameters, x, y⟩ algorithm message)
    | none => false
  | .eddsa _ (.native octets) => Ed25519.verify octets (algorithm.digest message) value
  | _ => false

/-! ## The state of the key -/

/-- Whether a key is weaker than keys should be; keys on curves count as weak. -/
def KeyPacket.isWeak (key : KeyPacket) : Bool :=
  match key.material with
  | .rsa n _ => key.algorithm = 2 || Octets.bitLength n < 2048
  | .dsa p _ _ _ => Octets.bitLength p < 2048
  | .elgamal p _ _ => key.algorithm = 20 || Octets.bitLength p < 2048
  | _ => true

/-- Whether a digest is good enough for a signature. -/
def isStrongDigest (digest : UInt8) : Bool := digest = 8 || digest = 9 || digest = 10

/-- What a key says about itself. -/
structure Statements where
  /-- The signatures that may limit its lifetime. -/
  about : List Certification
  /-- Whether it is revoked. -/
  isRevoked : Bool

/-- The signatures of a type that the key with a fingerprint made about itself. -/
def Attached.allOwn (type : UInt8) (owner : Octets) (now : Nat) (attached : List Attached) :
    Except Error (List Certification) :=
  (attached.map Attached.signature).filterM (Certification.isOwn type owner now)

/-- What the primary key of a ring says about itself: in the newest signature on each user with a
name, and directly. -/
def Ring.statements (ring : Ring) (now : Nat) : Except Error Statements := do
  let owner := ring.fingerprint
  let users ← (ring.users.filter User.isText).filterMapM (User.selfSignature? owner)
  let direct ← Attached.allOwn Certification.directOnKey owner now ring.signatures
  let revocations ← Attached.allOwn Certification.keyRevocation owner now ring.signatures
  return ⟨users ++ direct, !revocations.isEmpty⟩

/-- What the primary key with a fingerprint says about a subkey. -/
def Subkey.statements (owner : Octets) (now : Nat) (subkey : Subkey) : Except Error Statements := do
  let bindings ← Attached.allOwn Certification.subkeyBinding owner now subkey.signatures
  let revocations ← Attached.allOwn Certification.subkeyRevocation owner now subkey.signatures
  return ⟨bindings, !revocations.isEmpty⟩

/-- Whether a key's shortest stated lifetime is over. -/
def Statements.isOver (statements : Statements) (created now : Nat) : Except Error Bool := do
  let lifetimes ← statements.about.filterMapM Certification.keyLifetime?
  return lifetimes.min?.any fun lifetime => created + lifetime ≤ now

/-- The key of a ring that a signature names, with what is said about it. -/
def Ring.signer? (ring : Ring) (now : Nat) (signature : Certification) :
    Except Error (Option (KeyPacket × Statements)) := do
  let issuer ← signature.issuer
  if issuer = ring.keyId then
    let statements ← ring.statements now
    return some (ring.key, statements)
  match ring.subkeys.find? fun subkey => subkey.key.keyId == issuer with
  | none => return none
  | some subkey =>
    let statements ← subkey.statements ring.fingerprint now
    return some (subkey.key, statements)

/-- Whether nothing but its lifetime is wrong with a key that is over. -/
def isRefused (key : KeyPacket) (statements : Statements) (digest : UInt8) (now : Nat) :
    Except Error Bool := do
  let isOver ← statements.isOver key.created now
  return isOver && !key.isWeak && isStrongDigest digest && !statements.isRevoked

/-- Whether a signature of a payload is one by a key of the ring, as far as the ring can be read. -/
def Ring.judge (ring : Ring) (now : Nat) (payload : Octets) (signature : Certification)
    (behind : Octets) : Except Error Bool := do
  match ← ring.signer? now signature with
  | none => return false
  | some (key, statements) =>
    if ← isRefused key statements signature.digest now then return false
    match signature.signedOctets? payload, DigestAlgorithm.ofNumber? signature.digest with
    | some message, some algorithm =>
      return algorithm.isForSignatures && key.accepts algorithm message (signature.value behind)
    | _, _ => return false

/-- Whether a signature of a payload, in front of other octets, is one by a key of the ring. -/
def Ring.verify (ring : Ring) (now : Nat) (payload : Octets) (signature : Certification)
    (behind : Octets) : Bool :=
  match ring.judge now payload signature behind with
  | .ok isGood => isGood
  | .error _ => false

/-! ## Reading signatures -/

/-- The signature in octets or armor, and the octets that follow it. -/
def Certification.load (text : Octets) : Except Error (Certification × Octets) :=
  match unarmor (· == Octets.ofText "SIGNATURE") text with
  | .error e => .error e
  | .ok data =>
    match Element.read data with
    | .error e => .error e
    | .ok (.signature signature, behind) => .ok (signature, behind)
    | .ok _ => .error (.malformed "no signature")

end CommitSeal.Transferable
