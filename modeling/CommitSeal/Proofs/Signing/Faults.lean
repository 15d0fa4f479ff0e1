import CommitSeal.Proofs.KeyStore.SecretDirectory
import CommitSeal.Signer

/-!
# Faults that are no cancellations

Only a source of passphrases cancels. What is done with a passphrase, unlocking a key and signing
with it, ends in faults of many kinds, and none of them is a cancellation: each function below says
so of its own answers (`Signer.Uncancelled`), by what it says of the functions that it calls.
-/

namespace CommitSeal

variable {α β ε : Type}

namespace Signer

/-- An answer that is no cancellation. -/
def Uncancelled : Except Fault α → Prop
  | .ok _ => True
  | .error fault => isCancelled fault = false

@[simp]
theorem uncancelled_ok (value : α) : Uncancelled (.ok value : Except Fault α) := trivial

@[simp]
theorem uncancelled_error (fault : Fault) :
    Uncancelled (.error fault : Except Fault α) ↔ isCancelled fault = false := Iff.rfl

end Signer

open Signer (isCancelled Uncancelled uncancelled_ok uncancelled_error)

/-! ## Packets and rings -/

/-- Malformed packets are no cancellation. -/
theorem PacketError.isCancelled_fault (e : PacketError) : isCancelled e.fault = false := by
  cases e <;> rfl

namespace KeyStore

theorem isCancelled_rebuildFault (e : PacketError) : isCancelled (rebuildFault e) = false := by
  cases e <;> rfl

theorem isCancelled_ringFault {malformed : String → Failure} (e : Transferable.Error)
    (hmalformed : ∀ reason, isCancelled (.failed (malformed reason)) = false) :
    isCancelled (ringFault malformed e) = false := by
  cases e with
  | malformed reason => exact hmalformed reason
  | truncated => rfl
  | leadingSignature => rfl
  | ownerless => rfl
  | unstated => rfl

/-- Loading a ring does not cancel. -/
theorem uncancelled_loadRing (octets : Octets) : Uncancelled (loadRing octets) := by
  unfold loadRing
  cases Transferable.Ring.list octets with
  | error e => exact isCancelled_ringFault e fun _ => rfl
  | ok rings =>
    cases rings with
    | nil => rfl
    | cons ring rest => trivial

/-- Putting secret parameters into a certificate does not cancel. -/
theorem uncancelled_rebuild (record : PublicRecord) (key : PublicKey)
    (secret : List (String × Octets)) : Uncancelled (rebuild record key secret) := by
  unfold rebuild
  cases key.unprotectedSecretBody secret with
  | error e => exact isCancelled_rebuildFault e
  | ok body =>
    simp only
    cases secretCertificate record.certificate body with
    | error e => exact isCancelled_rebuildFault e
    | ok octets => exact uncancelled_loadRing octets

end KeyStore

/-! ## Unlocking -/

/-- A key file that yields no secret parameters is no cancellation. -/
theorem AgentKey.UnprotectError.isCancelled_fault (e : AgentKey.UnprotectError) :
    isCancelled e.fault = false := by
  cases e with
  | s2k cause => cases cause <;> rfl
  | _ => rfl

namespace KeyStore

/-- Unlocking a key file does not cancel. -/
theorem uncancelled_unlockFile (key : AgentKey) (record : PublicRecord)
    (passphrase : Option Octets) (context : AgentKey.Context) :
    Uncancelled (unlockFile key record passphrase context) := by
  unfold unlockFile
  cases record.findMaterial none with
  | error e => exact e.isCancelled_fault
  | ok found =>
    cases found with
    | none => rfl
    | some material =>
      simp only
      cases key.unprotect passphrase context with
      | error e => exact e.isCancelled_fault
      | ok secret => exact uncancelled_rebuild record material secret

theorem isCancelled_unlockFault (keyId : String) (e : Transferable.SecretPart.UnlockError) :
    isCancelled (unlockFault keyId e) = false := by
  cases e <;> rfl

/-- Unlocking a ring does not cancel. -/
theorem uncancelled_unlockRing (record : SecretRecord) (passphrase : Option Octets)
    (ring : Transferable.Ring) : Uncancelled (unlockRing record passphrase ring) := by
  unfold unlockRing
  simp only
  split
  · cases passphrase with
    | none => rfl
    | some passphrase =>
      simp only
      split
      · rfl
      · split
        · rfl
        · cases ring.unlock passphrase with
          | error e => exact isCancelled_unlockFault record.keyId e
          | ok ring => trivial
  · split
    · rfl
    · trivial

/-- Unlocking the key of a record does not cancel. -/
theorem uncancelled_openRecord (record : SecretRecord) (passphrase : Option Octets)
    (context : AgentKey.Context) : Uncancelled (openRecord record passphrase context) := by
  unfold openRecord
  cases record.format with
  | agent =>
    simp only
    cases AgentKey.load record.material with
    | error e => cases e <;> rfl
    | ok key => exact uncancelled_unlockFile key record.publicKey passphrase context
  | keyring =>
    have hload := uncancelled_loadRing record.material
    simp only
    cases hring : loadRing record.material with
    | error fault =>
      rw [hring] at hload
      exact hload
    | ok ring =>
      simp only
      split
      · exact uncancelled_unlockRing record passphrase ring
      · rfl

end KeyStore

/-! ## Signing -/

namespace Signer

theorem isCancelled_signFault (keyId : String) (e : Transferable.SignError) :
    isCancelled (signFault keyId e) = false := by
  cases e <;> rfl

/-- Signing with an unlocked ring does not cancel. -/
theorem uncancelled_signWith (now : Nat) (payload : Octets) (record : SecretRecord)
    (ring : Transferable.Ring) : Uncancelled (signWith now payload record ring) := by
  unfold signWith
  cases ring.sign now payload with
  | error e => exact isCancelled_signFault record.keyId e
  | ok signature => trivial

/-- Signing with the key of a record does not cancel. -/
theorem uncancelled_signRecord (around : Surroundings) (payload : Octets) (record : SecretRecord)
    (passphrase : Option Octets) : Uncancelled (signRecord around payload record passphrase) := by
  have hopen := KeyStore.uncancelled_openRecord record passphrase around.context
  unfold signRecord
  cases hring : KeyStore.openRecord record passphrase around.context with
  | error fault =>
    rw [hring] at hopen
    exact hopen
  | ok ring => exact uncancelled_signWith around.now payload record ring

end Signer

/-! ## Candidates -/

namespace Resolution

/-- A file is refused as a candidate for one reason only. -/
theorem candidate?_eq_error {publicKey : PublicRecord} {material : Option PublicKey}
    {file : SecretFile} {fault : Fault}
    (hfault : candidate? publicKey material file = .error fault) : fault = .listForKind := by
  unfold candidate? at hfault
  split at hfault
  · exact (Except.error.inj hfault).symm
  · cases hfault
  · split at hfault
    · cases hfault
    · split at hfault <;> cases hfault

/-- The candidates in a directory are collected from its files, held against the key that the
certificate is for. -/
theorem candidates_eq_ok {tree : FileTree} {publicKey : PublicRecord} {directory : Path}
    {found : Listing Fault Candidate} (hfound : candidates tree publicKey directory = .ok found) :
    ∃ material files, publicKey.findMaterial none = .ok material ∧
      KeyStore.secretDirectory tree directory = .ok files ∧
      found = files.filterMapM (candidate? publicKey material) := by
  unfold candidates at hfound
  split at hfound
  · cases hfound
  · rename_i material hmaterial
    split at hfound
    · cases hfound
    · rename_i files hfiles
      exact ⟨material, files, hmaterial, hfiles, (Except.ok.inj hfound).symm⟩

/-- Going through a directory breaks off for two reasons only. -/
theorem candidates_failure {tree : FileTree} {publicKey : PublicRecord} {directory : Path}
    {found : Listing Fault Candidate} {fault : Fault}
    (hfound : candidates tree publicKey directory = .ok found)
    (hfault : found.failure = some fault) : fault = .listForKind ∨ fault = .pathTooLong := by
  obtain ⟨material, files, -, hfiles, rfl⟩ := candidates_eq_ok hfound
  obtain hend | ⟨file, -, hfile⟩ := Listing.failure_collect hfault
  · exact .inr (KeyStore.failure_secretDirectory hfiles hend)
  · exact .inl (candidate?_eq_error hfile)

end Resolution

end CommitSeal
