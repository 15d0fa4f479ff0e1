import CommitSeal.CommitHeader
import CommitSeal.Passphrase.Coordinator
import CommitSeal.Resolution
import CommitSeal.Transferable.Verification

/-!
# Signing and checking commits

`Signer.sign` resolves a key and signs with it. It asks for a passphrase at most once in an attempt,
and reports to the coordinator how the passphrase did; as long as the coordinator grants another
prompt, a failed attempt is repeated from the start. An attempt that asked for nothing is final.

`Signer.verify` finds the certificate of a key and checks a signature against it; whatever is wrong
with the signature or the certificate, the answer is no.
-/

namespace CommitSeal

/-- The form in which a signature stands in a commit header. -/
def Transferable.Certification.headerText (signature : Transferable.Certification) : String :=
  CommitHeader.embed (Octets.asciiText signature.armored)

namespace Signer

open Transferable (Certification Ring)

/-! ## One signature -/

/-- The fault of a ring that does not sign. -/
def signFault (keyId : String) : Transferable.SignError → Fault
  | .unbound => .unboundKey
  | .uncoveredFlags => .uncoveredFlags
  | .uncoveredPreferences => .uncoveredPreferences
  | .unsignedUser => .incompleteKey
  | .unstated => .unstatedSignature
  | .unusableCurve => .unusableCurve
  | e => .failed (.undecodable s!"key {keyId} cannot sign: {e.message}")

/-- The signature of a payload by an unlocked ring. -/
def signWith (now : Nat) (payload : Octets) (record : SecretRecord) (ring : Ring) :
    Except Fault Certification :=
  match ring.sign now payload with
  | .error e => .error (signFault record.keyId e)
  | .ok signature => .ok signature

/-- The signature of a payload by the key of a record. -/
def signRecord (around : Surroundings) (payload : Octets) (record : SecretRecord)
    (passphrase : Option Octets) : Except Fault Certification :=
  match KeyStore.openRecord record passphrase around.context with
  | .error fault => .error fault
  | .ok ring => signWith around.now payload record ring

/-! ## Asking for passphrases -/

/-- The credentials that settings call for: the configured passphrase, else what is typed at a
terminal. -/
def credentials (settings : Settings) (terminal : Terminal) : Credentials :=
  match settings.passphrase with
  | some passphrase => { source := .fixed (some (Octets.ofText passphrase)) }
  | none => { source := .terminal terminal }

/-- What changes while passphrases are asked for. -/
structure Asking where
  coordinator : Coordinator
  credentials : Credentials
  /-- What was asked for in this attempt. -/
  resource : Option String := none
  /-- The passphrase of this attempt. -/
  passphrase : Option Octets := none
  deriving DecidableEq, Repr

namespace Asking

/-- The passphrase of an attempt for a record, asked for when it is first needed. -/
def ask (record : SecretRecord) (asking : Asking) : Except Fault (Option Octets) × Asking :=
  match asking.passphrase with
  | some passphrase => (.ok (some passphrase), asking)
  | none =>
    match asking.coordinator.request record.resource asking.credentials with
    | (.ok passphrase, coordinator, credentials) =>
      (.ok (some passphrase),
        ⟨coordinator, credentials, some record.resource, some passphrase⟩)
    | (.error fault, coordinator, credentials) =>
      (.error fault, ⟨coordinator, credentials, some record.resource, none⟩)

/-- The next attempt. -/
def renew (asking : Asking) : Asking := ⟨asking.coordinator, asking.credentials, none, none⟩

/-- Reports how the passphrase of an attempt did; without one there is nothing to report. -/
def report (outcome : Outcome) (asking : Asking) : Except Failure Bool × Asking :=
  match asking.resource with
  | none => (.ok false, asking)
  | some resource =>
    match asking.coordinator.report resource asking.passphrase.isSome outcome with
    | (answer, coordinator) => (answer, { asking with coordinator })

end Asking

/-! ## Signing -/

/-- Whether a passphrase has to be asked for after a key was resolved. -/
def needsPassphrase (record : SecretRecord) : Bool :=
  record.format == .keyring && record.isProtected

/-- Signs with a resolved key. -/
def signResolved (around : Surroundings) (payload : Octets) (resolved : Resolution.Resolved)
    (asking : Asking) : Except Fault Certification × Asking :=
  match resolved.unlocked with
  | some ring => (signWith around.now payload resolved.record ring, asking)
  | none =>
    if needsPassphrase resolved.record then
      match asking.ask resolved.record with
      | (.error fault, asking) => (.error fault, asking)
      | (.ok passphrase, asking) =>
        (signRecord around payload resolved.record passphrase, asking)
    else (signRecord around payload resolved.record asking.passphrase, asking)

/-- One attempt to sign. -/
def attempt (around : Surroundings) (id : KeyId) (explicit : Option Path) (payload : Octets)
    (asking : Asking) : Except Fault Certification × Asking :=
  match Resolution.resolve around id explicit Asking.ask ⟨none, asking⟩ with
  | (.error fault, fetching) => (.error fault, fetching.state)
  | (.ok resolved, fetching) => signResolved around payload resolved fetching.state

/-- Whether a fault ends everything, because no passphrase was given. -/
def isCancelled : Fault → Bool
  | .failed (.cancelled _) => true
  | _ => false

/-- What follows an attempt and the report on it. -/
inductive Round where
  /-- Another attempt. -/
  | again (asking : Asking)
  /-- An answer. -/
  | ended (answer : Except Fault Certification) (asking : Asking)

/-- One attempt, and the report on how its passphrase did. -/
def round (around : Surroundings) (id : KeyId) (explicit : Option Path) (payload : Octets)
    (asking : Asking) : Round :=
  match attempt around id explicit payload asking.renew with
  | (.ok signature, asking) =>
    match asking.report .succeeded with
    | (.error failure, asking) => .ended (.error (.failed failure)) asking
    | (.ok _, asking) => .ended (.ok signature) asking
  | (.error fault, asking) =>
    if isCancelled fault then .ended (.error fault) asking
    else
      match asking.report fault.outcome with
      | (.error failure, asking) => .ended (.error (.failed failure)) asking
      | (.ok true, asking) => .again asking
      | (.ok false, asking) => .ended (.error fault) asking

/-- Attempts to sign until one succeeds or there is no other attempt; `fuel` is how many there can
be. -/
def attempts (around : Surroundings) (id : KeyId) (explicit : Option Path) (payload : Octets) :
    (fuel : Nat) → Asking → Except Fault Certification × Asking
  | 0, asking => (.error .interrupted, asking)
  | fuel + 1, asking =>
    match round around id explicit payload asking with
    | .again asking => attempts around id explicit payload fuel asking
    | .ended answer asking => (answer, asking)

/-- The name that stands for the configured key. -/
def defaultName : String := "default"

/-- The text of the identifier that a name stands for. -/
def keyName (around : Surroundings) (name : Option String) : Except Fault String :=
  let given :=
    match name with
    | none => around.settings.signingKey
    | some name => if name = defaultName then around.settings.signingKey else some name
  match given.getD "" with
  | "" =>
    .error (.failed (.unresolved .publicKeyMissing "no signing key configured" (some "") none))
  | name => .ok name

/-- The identifier that a name stands for. -/
def keyIdOf (around : Surroundings) (name : Option String) : Except Fault KeyId :=
  (keyName around name).bind KeyId.ofText

/-- The signature of a payload by a named key, or by the configured one. -/
def sign (around : Surroundings) (name : Option String) (explicit : Option Path)
    (payload : Octets) (asking : Asking) : Except Fault Certification × Asking :=
  match keyIdOf around name with
  | .error fault => (.error fault, asking)
  | .ok id => attempts around id explicit payload (asking.coordinator.budget + 1) asking

/-! ## Finding keys -/

/-- The secret key that a name stands for. Nothing is decrypted. -/
def findSecret (around : Surroundings) (name : Option String) (explicit : Option Path) :
    Except Fault SecretRecord :=
  match keyIdOf around name with
  | .error fault => .error fault
  | .ok id => Resolution.find around id explicit

/-- Whether there is a secret key that a name stands for. A fault that the user is not to be told of
stays a fault. -/
def canLocate (around : Surroundings) (name : Option String) (explicit : Option Path) :
    Except Fault Bool :=
  match findSecret around name explicit with
  | .ok _ => .ok true
  | .error fault => if fault.isReportable then .ok false else .error fault

/-- The public key of a keyring that an identifier names. -/
def findPublicInKeyring (tree : FileTree) (id : KeyId) (path : Path) :
    Except Fault (Option PublicRecord) := do
  if ← KeyStore.isFile tree path then
    let records ← KeyStore.keyring tree path
    let record ← records.find? fun record => id.fits record.publicKey.key.fingerprint
    return record.map SecretRecord.publicKey
  else return none

/-- The public key that an identifier names: in the keybox, or if there is none, in the keyring. -/
def findPublic (around : Surroundings) (name : String) : Except Fault (Option PublicRecord) := do
  let id ← KeyId.ofText name
  let keybox ← around.settings.keyboxPath around.environment
  if ← KeyStore.isFile around.tree keybox then
    Resolution.findInKeybox around.tree id keybox
  else
    match ← around.settings.override around.environment with
    | some path => findPublicInKeyring around.tree id path
    | none => findPublicInKeyring around.tree id (← around.settings.keyringPath around.environment)

/-! ## Checking -/

/-- The octets of a text whose characters have codes below 256. -/
def narrow? (text : String) : Option Octets :=
  text.toList.mapM fun c => if c.toNat < 256 then some (UInt8.ofNat c.toNat) else none

/-- Whether a signature in header form is one of a payload by a key of a certificate. -/
def verifyRecord (now : Nat) (signature : String) (record : PublicRecord) (payload : Octets) :
    Bool :=
  match Ring.list record.certificate, narrow? (CommitHeader.extract signature) with
  | .ok (ring :: _), some octets =>
    match Certification.load octets with
    | .ok (signature, behind) => ring.verify now payload signature behind
    | .error _ => false
  | _, _ => false

/-- Whether a signature is one of a payload by a named key. -/
def verify (around : Surroundings) (name : String) (payload : Octets) (signature : String) :
    Except Fault Bool :=
  match findPublic around name with
  | .error fault => .error fault
  | .ok none => .ok false
  | .ok (some record) => .ok (verifyRecord around.now signature record payload)

/-- Whether octets are a signature of a payload by a named key. Signatures are ASCII. -/
def verifyOctets (around : Surroundings) (name : String) (payload signature : Octets) :
    Except Fault Bool :=
  verify around name payload (if Octets.isAscii signature then Octets.asciiText signature else "")

end Signer

end CommitSeal
