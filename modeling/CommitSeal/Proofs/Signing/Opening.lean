import CommitSeal.Proofs.Signing.Plan
import CommitSeal.Proofs.Signing.Preview

/-!
# Two ways to an unlocked key

A key from a key file is unlocked while it is resolved, and handed over with its record. A record
that was only found holds the file as it is stored, and is opened when it is needed: the file is
loaded once more, and decrypted with the passphrase (`Resolution.Resolved.opened`).

`Resolution.openings_agree` says that both ways lead to the same key, and that a passphrase which
does not decrypt the file is refused in the same way. The search gives a passphrase to protected
files only, and opening a record gives it to all of them. That makes no difference, since a key in
the clear is not decrypted (`AgentKey.unprotect_of_ne_guarded`).
-/

namespace CommitSeal

/-! ## Keys in the clear -/

namespace AgentKey

variable {key : AgentKey} {context : Context}

/-- A passphrase is of account for a protected key only. -/
theorem secretElements_of_ne_guarded (hkind : key.kind ≠ .guarded)
    (passphrase other : Option Octets) :
    key.secretElements passphrase context = key.secretElements other context := by
  unfold secretElements
  cases hcase : key.kind with
  | plain => rfl
  | shadowed => rfl
  | guarded => exact absurd hcase hkind

theorem unprotect_of_ne_guarded (hkind : key.kind ≠ .guarded)
    (passphrase other : Option Octets) :
    key.unprotect passphrase context = key.unprotect other context := by
  unfold unprotect
  rw [secretElements_of_ne_guarded hkind passphrase other]

end AgentKey

namespace KeyStore

theorem unlockFile_of_ne_guarded {key : AgentKey} (hkind : key.kind ≠ .guarded)
    (record : PublicRecord) (passphrase other : Option Octets) (context : AgentKey.Context) :
    unlockFile key record passphrase context = unlockFile key record other context := by
  unfold unlockFile
  rw [AgentKey.unprotect_of_ne_guarded hkind passphrase other]

end KeyStore

namespace Resolution

variable {σ : Type} {around : Surroundings} {id : KeyId} {publicKey : PublicRecord}
  {file : SecretFile} {key : AgentKey} {context : AgentKey.Context} {passphrase : Option Octets}

/-! ## One file, unlocked in two ways -/

/-- A candidate is unlocked as its key is with the passphrase, though the passphrase may be kept
from it. -/
theorem unlock_candidateOf_eq (publicKey : PublicRecord) (file : SecretFile) (key : AgentKey)
    (passphrase : Option Octets) (context : AgentKey.Context) :
    (candidateOf publicKey file key).unlock context passphrase
      = KeyStore.unlockFile key publicKey passphrase context := by
  show KeyStore.unlockFile key publicKey
    (if key.kind == .guarded then passphrase else none) context = _
  by_cases hkind : key.kind = .guarded
  · rw [if_pos (by rw [hkind]; rfl)]
  · rw [if_neg (by simpa using hkind)]
    exact KeyStore.unlockFile_of_ne_guarded hkind publicKey none passphrase context

theorem load_of_heldKey? {material : PublicKey} {content : Octets}
    (hheld : heldKey? material content = some key) : AgentKey.load content = .ok key := by
  unfold heldKey? at hheld
  split at hheld
  · cases hheld
  · rename_i loaded hload
    split at hheld
    · cases hheld
    · rw [hload, Option.some.inj hheld]

/-- The record of a candidate is opened by loading its file again, which holds the same key. -/
theorem openRecord_candidateOf {material : PublicKey}
    (hheld : heldKey? material file.content = some key) (publicKey : PublicRecord)
    (passphrase : Option Octets) (context : AgentKey.Context) :
    KeyStore.openRecord (candidateOf publicKey file key).record passphrase context
      = KeyStore.unlockFile key publicKey passphrase context := by
  unfold KeyStore.openRecord candidateOf
  simp only [load_of_heldKey? hheld]

/-! ## The first candidate -/

/-- What is found in a directory is the record of the first candidate. -/
theorem exists_firstCandidate_of_find {tree : FileTree} {directory : Path} {record : SecretRecord}
    (hmaterial : publicKey.findMaterial none = .ok (some publicKey.key))
    (hfind : findInDirectory tree id publicKey directory = .ok record) :
    ∃ listing others front file behind key,
      candidates tree publicKey directory = .ok listing ∧
      listing.items = candidateOf publicKey file key :: others ∧
      FirstCandidate tree directory publicKey front file behind key ∧
      record = (candidateOf publicKey file key).record := by
  cases hlisting : candidates tree publicKey directory with
  | error fault =>
    rw [findInDirectory, hlisting] at hfind
    cases hfind
  | ok listing =>
    cases hitems : listing.items with
    | nil =>
      rw [findInDirectory_of_nil hlisting hitems] at hfind
      cases hfind
    | cons first others =>
      obtain ⟨front, file, behind, key, hfirst, rfl, -⟩ :=
        exists_firstCandidate hmaterial hlisting hitems
      rw [findInDirectory_of_items hlisting hitems] at hfind
      exact ⟨listing, others, front, file, behind, key, rfl, hitems, hfirst,
        (Except.ok.inj hfind).symm⟩

/-- The material of the record tells which key the first candidate is. -/
theorem FirstCandidate.key_eq {tree : FileTree} {directory : Path} {front behind : List SecretFile}
    {held : AgentKey} {record : SecretRecord}
    (hfirst : FirstCandidate tree directory publicKey front file behind key)
    (hrecord : record = (candidateOf publicKey file key).record)
    (hheld : heldKey? publicKey.key record.material = some held) : held = key := by
  subst hrecord
  exact Option.some.inj (hheld.symm.trans hfirst.held)

/-- If the first candidate is unlocked with a passphrase at hand, it is resolved. -/
theorem tryCandidates_of_first {provider : Provider σ} {missing : Fault} {failure : Option Fault}
    {state : σ} {candidate : Candidate} {ring : Transferable.Ring}
    (hunlock : candidate.unlock context passphrase = .ok ring) (others : List Candidate) :
    tryCandidates context provider missing failure none (candidate :: others)
        ⟨some passphrase, state⟩
      = (.ok ⟨candidate.record, some ring⟩, ⟨some passphrase, state⟩) := by
  have hfile : KeyStore.unlockFile candidate.key candidate.record.publicKey
      (if candidate.record.isProtected then passphrase else none) context = .ok ring := hunlock
  rw [tryCandidates, passphrase_of_fetched]
  simp only [hfile]

/-! ## Opening -/

/-- Opens a resolved key. What was unlocked is handed over, once; without it, the record is opened
with a passphrase. -/
def Resolved.opened (resolved : Resolved) (passphrase : Option Octets)
    (context : AgentKey.Context) : Except Fault Transferable.Ring × Resolved :=
  match resolved.unlocked with
  | some ring => (.ok ring, { resolved with unlocked := none })
  | none => (KeyStore.openRecord resolved.record passphrase context, resolved)

end Resolution

namespace Signer

open Resolution (Resolved)

/-- Signing opens a resolved key, once a passphrase is at hand if one is needed. -/
theorem signResolved_eq_opened {around : Surroundings} {payload : Octets} {resolved : Resolved}
    {asking : Asking}
    (hready : needsPassphrase resolved.record = false ∨ resolved.unlocked.isSome = true) :
    signResolved around payload resolved asking
      = ((resolved.opened asking.passphrase around.context).1.bind
          (signWith around.now payload resolved.record), asking) := by
  unfold signResolved Resolved.opened
  cases hunlocked : resolved.unlocked with
  | some ring => rfl
  | none =>
    have hneeds : needsPassphrase resolved.record = false := by simpa [hunlocked] using hready
    simp only [hneeds, signRecord, Bool.false_eq_true, if_false]
    cases KeyStore.openRecord resolved.record asking.passphrase around.context <;> rfl

end Signer

namespace Resolution

/-! ## Opened either way -/

variable {σ : Type} {around : Surroundings} {id : KeyId}

/-- Where the file that is found is unlocked with a passphrase at hand, it is resolved. -/
theorem resolve_of_first {path directory : Path} {publicKey : PublicRecord}
    {listing : Listing Fault Candidate} {candidate : Candidate} {others : List Candidate}
    {passphrase : Option Octets} {ring : Transferable.Ring}
    (hplace : place around none = .ok (.keybox path directory))
    (hselect : selectCertificate around.tree id path = .ok publicKey)
    (hlisting : candidates around.tree publicKey directory = .ok listing)
    (hitems : listing.items = candidate :: others)
    (hunlock : candidate.unlock around.context passphrase = .ok ring) (provider : Provider σ)
    (state : σ) :
    resolve around id none provider ⟨some passphrase, state⟩
      = (.ok ⟨candidate.record, some ring⟩, ⟨some passphrase, state⟩) := by
  rw [resolve_of_keybox hplace hselect, resolveInDirectory, hlisting]
  simp only [hitems]
  exact tryCandidates_of_first hunlock others

/-- In a home with a keybox, and without a configured keyring, let a key be found. Its record is
that of a file, the first candidate of the directory. If that file is unlocked with a passphrase,
then the key is resolved with it, to the same record, and the key that was unlocked meanwhile is the
one that the record is opened to with the passphrase; it is handed over once, and then the record is
opened to it again. So a signature is the same either way. If the file is not decrypted with a
passphrase, opening the record with it fails for the same reason. -/
theorem openings_agree (around : Surroundings) {wanted : Wanted} {keybox : Path}
    {record : SecretRecord} (hunset : around.settings.secretKeyPath = none)
    (hkeybox : around.settings.keyboxPath around.environment = .ok keybox)
    (hfile : KeyStore.isFile around.tree keybox = .ok true)
    (hfind : findWanted around wanted none = .ok record) :
    ∃ directory front file behind key,
      around.settings.secretDirectory around.environment = .ok directory ∧
      FirstCandidate around.tree directory record.publicKey front file behind key ∧
      record = (candidateOf record.publicKey file key).record ∧
      ∀ passphrase : Option Octets,
        (∀ ring, KeyStore.unlockFile key record.publicKey passphrase around.context = .ok ring →
          (Resolved.opened ⟨record, none⟩ passphrase around.context).1 = .ok ring ∧
          ∀ (σ : Type) (provider : Provider σ) (state : σ), ∃ resolved : Resolved,
            resolveWanted around wanted none provider ⟨some passphrase, state⟩
              = (.ok resolved, ⟨some passphrase, state⟩) ∧
            resolved.record = record ∧
            (∀ other, (resolved.opened other around.context).1 = .ok ring ∧
              ((resolved.opened other around.context).2.opened passphrase around.context).1
                = .ok ring) ∧
            ∀ (payload : Octets) (asking : Signer.Asking),
              Signer.signResolved around payload resolved asking
                = (Signer.signRecord around payload record passphrase, asking)) ∧
        ∀ reason, KeyStore.unlockFile key record.publicKey passphrase around.context
            = .error (.failed (.undecrypted reason)) →
          (Resolved.opened ⟨record, none⟩ passphrase around.context).1
            = .error (.failed (.undecrypted reason)) := by
  obtain ⟨directory, hdirectory⟩ := exists_secretDirectory hkeybox
  have hplace := place_of_keybox (override?_none rfl hunset) hkeybox hdirectory hfile
  obtain ⟨id, hid, hfind⟩ := exists_keyId_of_findWanted hfind
  rcases find_eq_ok hfind with ⟨path, hkeyring, -⟩ |
    ⟨path, directory', publicKey, hplace', hselect, hin⟩
  · -- No keyring takes the place of the keybox.
    cases hplace.symm.trans hkeyring
  · cases hplace.symm.trans hplace'
    obtain ⟨listing, others, front, file, behind, key, hlisting, hitems, hfirst, rfl⟩ :=
      exists_firstCandidate_of_find (findMaterial_of_located hselect) hin
    refine ⟨directory, front, file, behind, key, hdirectory, hfirst, rfl, ?_⟩
    intro passphrase
    -- The file is loaded again to the key that the search had read from it.
    have hopen : KeyStore.openRecord (candidateOf publicKey file key).record passphrase
        around.context = KeyStore.unlockFile key publicKey passphrase around.context :=
      openRecord_candidateOf hfirst.held publicKey passphrase around.context
    constructor
    · intro ring hring
      have hagain := hopen.trans hring
      refine ⟨hagain, ?_⟩
      intro σ provider state
      -- The search may keep the passphrase from the file, and unlocks it all the same.
      have hunlock := (unlock_candidateOf_eq publicKey file key passphrase around.context).trans
        hring
      have hresolve := resolve_of_first hplace hselect hlisting hitems hunlock provider state
      rw [← resolveWanted_of_keyId hid] at hresolve
      refine ⟨⟨(candidateOf publicKey file key).record, some ring⟩, hresolve, rfl, ?_, ?_⟩
      · intro other
        exact ⟨rfl, hagain⟩
      · intro payload asking
        rw [Signer.signResolved_eq_opened (.inr rfl), Signer.signRecord, hagain]
        rfl
    · intro reason hreason
      exact hopen.trans hreason

/-- The record of a file in the home. -/
def homeRecord (file : String × Octets) (key : AgentKey) : SecretRecord :=
  (candidateOf homeCertificate (homeFile file) key).record

/-- In a home with one file that holds the key, the file is found. -/
theorem findWanted_homeWith {name : String} {content : Octets} {key : AgentKey}
    (htidy : KeyStore.Tidy homeDirectory [(name, content)])
    (hheld : heldKey? homeCertificate.key content = some key) :
    findWanted (homeWith [(name, content)]) (.read tinyId) none
      = .ok (homeRecord (name, content) key) := by
  have hitems : candidatesAmong homeCertificate ([(name, content)].map homeFile)
      = [candidateOf homeCertificate (homeFile (name, content)) key] := by
    simp [candidatesAmong, homeFile, hheld]
  have hloads : ∀ file ∈ [(name, content)].map homeFile,
      AgentKey.Loads file.content ∨ AgentKey.Malformed file.content := by
    intro file hmem
    obtain rfl := List.mem_singleton.mp hmem
    exact .inl ⟨key, load_of_heldKey? hheld⟩
  rw [findWanted_of_keyId rfl]
  exact find_homeWith htidy hloads hitems

/-- A file in the clear is opened either way, with whatever passphrase; a file under protection is
refused without one. -/
theorem openings_agree_small :
    (findWanted (homeWith [("a", wholeTinyFile)]) (.read tinyId) none
        = .ok (homeRecord ("a", wholeTinyFile) wholeTinyKey) ∧
      ∃ ring resolved,
        (Resolved.opened ⟨homeRecord ("a", wholeTinyFile) wholeTinyKey, none⟩ (some []) {}).1
          = .ok ring ∧
        (resolveWanted (homeWith [("a", wholeTinyFile)]) (.read tinyId) none noPassphrase
            ⟨some (some []), ()⟩).1
          = .ok resolved ∧
        resolved.record = homeRecord ("a", wholeTinyFile) wholeTinyKey ∧
        (resolved.opened none {}).1 = .ok ring) ∧
    findWanted (homeWith [("a", guardedTinyFile)]) (.read tinyId) none
      = .ok (homeRecord ("a", guardedTinyFile) guardedTinyKey) ∧
    (Resolved.opened ⟨homeRecord ("a", guardedTinyFile) guardedTinyKey, none⟩ none {}).1
      = .error (.failed (.undecrypted AgentKey.UnprotectError.passphraseRequired.message)) := by
  have hhome : ∀ files, (homeWith files).settings.keyboxPath (homeWith files).environment
      = .ok homeKeybox := fun _ => rfl
  have hfile : ∀ files, KeyStore.isFile (homeWith files).tree homeKeybox = .ok true := fun _ => rfl
  constructor
  · have hfind : findWanted (homeWith [("a", wholeTinyFile)]) (.read tinyId) none
        = .ok (homeRecord ("a", wholeTinyFile) wholeTinyKey) :=
      findWanted_homeWith (by decide) heldKey?_wholeTinyFile
    refine ⟨hfind, ?_⟩
    obtain ⟨directory, front, file, behind, key, -, hfirst, hrecord, hopened⟩ :=
      openings_agree (homeWith [("a", wholeTinyFile)]) rfl (hhome _) (hfile _) hfind
    obtain rfl : wholeTinyKey = key := hfirst.key_eq hrecord heldKey?_wholeTinyFile
    obtain ⟨ring, hring⟩ := exists_unlockFile_wholeTinyKey
    have hkind : wholeTinyKey.kind ≠ .guarded := nofun
    rw [KeyStore.unlockFile_of_ne_guarded hkind homeCertificate none (some [])] at hring
    obtain ⟨hring', hresolve⟩ := (hopened (some [])).1 ring hring
    obtain ⟨resolved, hresolved, hsame, hagain, -⟩ := hresolve Unit noPassphrase ()
    exact ⟨ring, resolved, hring', congrArg Prod.fst hresolved, hsame, (hagain none).1⟩
  · have hfind : findWanted (homeWith [("a", guardedTinyFile)]) (.read tinyId) none
        = .ok (homeRecord ("a", guardedTinyFile) guardedTinyKey) :=
      findWanted_homeWith (by decide) heldKey?_guardedTinyFile
    refine ⟨hfind, ?_⟩
    obtain ⟨directory, front, file, behind, key, -, hfirst, hrecord, hopened⟩ :=
      openings_agree (homeWith [("a", guardedTinyFile)]) rfl (hhome _) (hfile _) hfind
    obtain rfl : guardedTinyKey = key := hfirst.key_eq hrecord heldKey?_guardedTinyFile
    apply (hopened none).2
    show KeyStore.unlockFile guardedTinyKey homeCertificate none {} = _
    rw [KeyStore.unlockFile, findMaterial_homeCertificate]
    rfl

end Resolution

end CommitSeal
