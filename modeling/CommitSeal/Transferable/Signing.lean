import CommitSeal.Scheme.Ecdsa
import CommitSeal.Scheme.Ed25519
import CommitSeal.Scheme.Rsa
import CommitSeal.Transferable.Ring

/-!
# Signing with a transferable key

A ring signs with its primary key if the newest self-signature on its main user lets it, else with
the first subkey whose binding signature lets that one. The signature is a packet without a header
of its own choosing: version 4, over octets as they are, with SHA-256, saying when it was made and
by which key.
-/

namespace CommitSeal.Transferable

/-! ## Unlocking -/

/-- A subkey with its secret numbers in the clear. -/
def Subkey.unlock (passphrase : Octets) (subkey : Subkey) :
    Except SecretPart.UnlockError Subkey :=
  match subkey.key.unlock passphrase with
  | .error e => .error e
  | .ok key => .ok { subkey with key }

/-- A ring with the secret numbers of all its keys in the clear; each of them must be sealed. -/
def Ring.unlock (passphrase : Octets) (ring : Ring) : Except SecretPart.UnlockError Ring :=
  match ring.key.unlock passphrase with
  | .error e => .error e
  | .ok key =>
    match ring.subkeys.mapM (Subkey.unlock passphrase) with
    | .error e => .error e
    | .ok subkeys => .ok { ring with key, subkeys }

/-! ## Who signs -/

/-- Why a ring does not sign. -/
inductive SignError where
  /-- There is no user that the primary key could be complete with. -/
  | incomplete
  /-- No key of the ring is meant for signing. -/
  | notMeantForSigning
  /-- The secret part is not there, or sealed. -/
  | locked
  /-- The numbers of the key do not make a key of its algorithm. -/
  | unsoundKey
  /-- The algorithm makes no signatures. -/
  | notASigningAlgorithm
  /-- The curve of the key is known by name only. -/
  | unusableCurve
  /-- A subkey has no valid signature that binds it, or there are users but none has a name. -/
  | unbound
  /-- A signature says what its key is meant for, but does not cover it. -/
  | uncoveredFlags
  /-- A signature says which digests are preferred, but does not cover it. -/
  | uncoveredPreferences
  /-- A subkey is to sign, and the primary key has not signed its main user. -/
  | unsignedUser
  /-- A signature does not state when it was made, or by which key. -/
  | unstated
  deriving DecidableEq, Repr

/-- The wording of a reason. -/
def SignError.message : SignError → String
  | incomplete => "the key has no user ID"
  | notMeantForSigning => "the key is not meant for signing"
  | locked => "the key is locked"
  | unsoundKey => "the numbers of the key are not sound"
  | notASigningAlgorithm => "the algorithm of the key makes no signatures"
  | unusableCurve => "the curve of the key is known by name only"
  | unbound => "the key is not bound"
  | uncoveredFlags => "what the key is meant for is not covered by the signature that says so"
  | uncoveredPreferences => "the preferred digests are not covered by the signature that says so"
  | unsignedUser => "the user of the key is not signed"
  | unstated => "a signature does not state when it was made, or by which key"

/-- Whether the key with a fingerprint made a signature of a type about itself that is not over. -/
def Certification.isOwn (type : UInt8) (owner : Octets) (now : Nat) (signature : Certification) :
    Except Error Bool := do
  let issuer ← signature.issuer
  let isExpired ← signature.isExpired now
  return signature.type == type && issuer == owner.drop 12 && !isExpired

/-- The first signature of a type that the key with a fingerprint made about itself. -/
def Attached.findOwn? (type : UInt8) (owner : Octets) (now : Nat) :
    List Attached → Except Error (Option Certification)
  | [] => .ok none
  | attached :: rest =>
    match attached.signature.isOwn type owner now with
    | .error e => .error e
    | .ok true => .ok (some attached.signature)
    | .ok false => findOwn? type owner now rest

/-- Whether a signature, if there is one, lets its key sign. -/
def allowsSigning (signature : Option Certification) : Except SignError Bool :=
  match signature.mapM Certification.allowsSigning with
  | .error _ => .error .uncoveredFlags
  | .ok allows => .ok (allows.getD false)

/-- The first subkey that is meant for signing. -/
def findSigningSubkey (owner : Octets) (now : Nat) : List Subkey → Except SignError KeyPacket
  | [] => .error .notMeantForSigning
  | subkey :: rest =>
    match Attached.findOwn? Certification.subkeyBinding owner now subkey.signatures with
    | .error _ => .error .unstated
    | .ok none => .error .unbound
    | .ok (some binding) =>
      match allowsSigning (some binding) with
      | .error e => .error e
      | .ok true => .ok subkey.key
      | .ok false => findSigningSubkey owner now rest

/-- The newest signature of the primary key on the first user with a name. -/
def Ring.mainSignature? (ring : Ring) : Except SignError (Option Certification) :=
  if ring.users.isEmpty then .error .incomplete
  else
    match ring.users.find? User.isText with
    | none => .error .unbound
    | some user =>
      match user.selfSignature? ring.fingerprint with
      | .error _ => .error .unstated
      | .ok signature => .ok signature

/-- The key of a ring that signs. -/
def Ring.signingKey (ring : Ring) (now : Nat) : Except SignError KeyPacket := do
  let signature ← ring.mainSignature?
  if ← allowsSigning signature then return ring.key
  findSigningSubkey ring.fingerprint now ring.subkeys

/-- Looks at the digests that the main user prefers. Any will do, but they must be stated well. -/
def Ring.checkPreferences (ring : Ring) : Except SignError Unit := do
  match ← ring.mainSignature? with
  | none => .error .unsignedUser
  | some signature =>
    match signature.coveredFirst? Subpacket.preferredDigests with
    | .error _ => .error .uncoveredPreferences
    | .ok _ => .ok ()

/-! ## The signature -/

/-- The numbers of a message's signature by a key. -/
def KeyPacket.signatureNumbers (key : KeyPacket) (algorithm : DigestAlgorithm) (message : Octets) :
    Except SignError (List Nat) :=
  match key.secret with
  | none => .error .locked
  | some secret =>
    match key.material, secret.numbers key.material.secretCount with
    | .rsa n e, [d, p, q, _] =>
      match Rsa.sign? ⟨n, e⟩ ⟨d, p, q⟩ algorithm message with
      | some signature => .ok [signature]
      | none => .error .unsoundKey
    | .dsa p q g y, [x] =>
      match Dsa.sign? ⟨p, q, g, y⟩ x algorithm message with
      | some signature => .ok [signature.r, signature.s]
      | none => .error .unsoundKey
    | .ecdsa curve (.coordinates _ x y), [d] =>
      match curve.parameters? with
      | none => .error .unusableCurve
      | some parameters =>
        match Ecdsa.sign? ⟨parameters, x, y⟩ d algorithm message with
        | some signature => .ok [signature.r, signature.s]
        | none => .error .unsoundKey
    | .eddsa curve _, [d] =>
      let seed := Octets.ofNatAtLeast curve.secretLength d
      if seed.length = 32 then
        let signature := Ed25519.sign seed (algorithm.digest message)
        .ok [Octets.toNat (signature.take 32), Octets.toNat (signature.drop 32)]
      else .error .unsoundKey
    | _, _ => .error .notASigningAlgorithm

/-- The signature of a message by a key, made at a time. -/
def KeyPacket.sign (key : KeyPacket) (now : Nat) (message : Octets) :
    Except SignError Certification :=
  let signature : Certification :=
    { header := Certification.noHeader
      version := Certification.readVersion
      type := 0x00
      algorithm := key.algorithm
      digest := DigestAlgorithm.sha256.number
      hashed :=
        [.make Subpacket.creationTime (Octets.ofNat 4 now),
          .make Subpacket.issuerFingerprint (KeyPacket.version :: key.fingerprint)]
      unhashed := [.make Subpacket.issuer key.keyId]
      check := []
      numbers := [] }
  let message := message ++ Certification.trailer signature.covered
  match key.signatureNumbers .sha256 message with
  | .error e => .error e
  | .ok numbers =>
    .ok { signature with check := (Digest.sha256 message).take 2, numbers }

/-- The signature of a message by a ring. -/
def Ring.sign (ring : Ring) (now : Nat) (message : Octets) : Except SignError Certification := do
  let key ← ring.signingKey now
  if ring.key.isProtected ∨ ring.key.isPublic then .error .locked
  ring.checkPreferences
  key.sign now message

/-- A signature as an armored block. -/
def Certification.armored (signature : Certification) : Octets :=
  Armor.encode "SIGNATURE" (Packet.encodeBody Packet.signatureTag signature.body)

end CommitSeal.Transferable
