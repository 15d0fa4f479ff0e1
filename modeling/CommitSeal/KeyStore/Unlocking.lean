import CommitSeal.AgentKey.Unprotect
import CommitSeal.KeyStore.Reading
import CommitSeal.Octets.Text
import CommitSeal.Transferable.Signing

/-!
# From a record to a key that signs

A secret key file holds numbers only; put into the certificate that it belongs to, they make a
transferable key with users and self-signatures. A record of a keyring holds the transferable key
already, and a passphrase unlocks all keys of it at once.
-/

namespace CommitSeal

/-- The fault of a key file that yields no secret parameters. -/
def AgentKey.UnprotectError.fault (e : AgentKey.UnprotectError) : Fault :=
  match e with
  | .s2k .negativeExponent => .invalid e.message
  | .s2k .nothingToHash => .nothingToHash
  | e => .failed (if e.isDecryption then .undecrypted e.message else .undecodable e.message)

/-- The fault of a file that is no secret key file. -/
def AgentKey.LoadError.fault : AgentKey.LoadError → Fault
  | .listForKind => .listForKind
  | e => .malformed .expression e.message

namespace KeyStore

/-! ## Transferable keys -/

/-- The first ring of octets. -/
def loadRing (octets : Octets) : Except Fault Transferable.Ring :=
  match Transferable.Ring.list octets with
  | .error e => .error (ringFault (fun reason => .undecodable ("cannot load key: " ++ reason)) e)
  | .ok [] => .error .incompleteKey
  | .ok (ring :: _) => .ok ring

/-- The fault of secret parameters that do not fit into a certificate. -/
def rebuildFault (e : PacketError) : Fault :=
  match e with
  | .numberTooLong => .numberTooLong
  | e => .failed (.undecodable ("cannot rebuild secret key: " ++ e.message))

/-- The transferable key that a certificate and the secret parameters of its primary key make. -/
def rebuild (record : PublicRecord) (key : PublicKey) (secret : List (String × Octets)) :
    Except Fault Transferable.Ring :=
  match key.unprotectedSecretBody secret with
  | .error e => .error (rebuildFault e)
  | .ok body =>
    match secretCertificate record.certificate body with
    | .error e => .error (rebuildFault e)
    | .ok octets => loadRing octets

/-! ## Key files -/

/-- The transferable key that a key file makes with the certificate of its public key. -/
def unlockFile (key : AgentKey) (record : PublicRecord) (passphrase : Option Octets)
    (context : AgentKey.Context) : Except Fault Transferable.Ring :=
  match record.findMaterial none with
  | .error e => .error e.fault
  | .ok none =>
    .error (.failed (.undecodable
      s!"certificate {record.fingerprintText} lacks its primary key"))
  | .ok (some material) =>
    match key.unprotect passphrase context with
    | .error e => .error e.fault
    | .ok secret => rebuild record material secret

/-! ## Keyrings -/

/-- The fault of a ring that is not unlocked. -/
def unlockFault (keyId : String) : Transferable.SecretPart.UnlockError → Fault
  | .notLocked => .unsealedKey
  | .elsewhere => .stubKey
  | .nothingToHash => .nothingToHash
  | .noDigest name => .invalid ("unsupported hash type " ++ name)
  | .noCipher => .unusableCipher
  | .shortInitial length => .invalid s!"Invalid IV size ({length}) for CFB."
  | .wrongPassphrase => .failed (.undecrypted s!"bad passphrase for key {keyId}")

/-- A ring unlocked for the key of a record. Only the primary key of a ring can stand alone. -/
def unlockRing (record : SecretRecord) (passphrase : Option Octets) (ring : Transferable.Ring) :
    Except Fault Transferable.Ring :=
  let isPrimary := ring.key.fingerprint == record.publicKey.key.fingerprint
  if record.isProtected then
    match passphrase with
    | none =>
      .error (.failed (.undecrypted
        s!"key {record.keyId} is protected and no passphrase was given"))
    | some passphrase =>
      if !isPrimary then .error .incompleteKey
      else if (Octets.text? passphrase).isNone then
        .error (.failed (.undecrypted "passphrase is not valid UTF-8"))
      else
        match ring.unlock passphrase with
        | .error e => .error (unlockFault record.keyId e)
        | .ok ring => .ok ring
  else if !isPrimary then .error .incompleteKey
  else .ok ring

/-- Whether a ring holds the key of a record. -/
def holdsKey (record : SecretRecord) (ring : Transferable.Ring) : Bool :=
  ring.keys.any fun key => key.fingerprint == record.publicKey.key.fingerprint

/-- The transferable key of a record, unlocked. -/
def openRecord (record : SecretRecord) (passphrase : Option Octets) (context : AgentKey.Context) :
    Except Fault Transferable.Ring :=
  match record.format with
  | .agent =>
    match AgentKey.load record.material with
    | .error .listForKind => .error .listForKind
    | .error _ =>
      .error (.failed (.undecodable (record.source.text ++ " is not a secret key file")))
    | .ok key => unlockFile key record.publicKey passphrase context
  | .keyring =>
    match loadRing record.material with
    | .error fault => .error fault
    | .ok ring =>
      if holdsKey record ring then unlockRing record passphrase ring
      else
        .error (.failed (.undecodable
          s!"keyring does not hold key {record.publicKey.fingerprintText}"))

end KeyStore

end CommitSeal
