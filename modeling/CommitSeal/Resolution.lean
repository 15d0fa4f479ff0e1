import CommitSeal.KeyStore.Unlocking
import CommitSeal.Settings.Basic
import CommitSeal.Text.CodePoint

/-!
# From an identifier to a secret key

Where a secret key is looked for depends on what there is: a keyring that is named explicitly or
configured; else the keybox together with the secret key directory; else the keyring in the home of
the key stores.

In a keyring the identifier itself selects a key. With a keybox it selects a certificate, and the
files of the directory are gone through for the secret part of its primary key. `Resolution.find`
stops at the first file with it; `Resolution.resolve` stops at the first one that can be unlocked.
A passphrase is fetched when the first protected file is met, and only once. One that is handed over
as a text is put into octets before anything else (`Resolution.resolveGiven`).
-/

namespace CommitSeal

/-- What an operation finds around it. -/
structure Surroundings where
  tree : FileTree
  environment : Environment
  settings : Settings
  /-- The time in seconds. -/
  now : Nat
  /-- Which protections of key files can be undone. -/
  context : AgentKey.Context := {}

/-- The fault of a text that is no identifier. -/
def KeyId.Error.fault (e : KeyId.Error) : Fault := .badField "value" ("Value error, " ++ e.message)

/-- The identifier that a text is. -/
def KeyId.ofText (text : String) : Except Fault KeyId :=
  (KeyId.parse text).mapError KeyId.Error.fault

namespace Resolution

/-! ## Where to look -/

/-- The place where a secret key is looked for. -/
inductive Place where
  /-- A keyring. -/
  | keyring (path : Path)
  /-- A keybox, and the directory of the home it is in. -/
  | keybox (path directory : Path)
  /-- There is none; the path is that of the home. -/
  | nowhere (home : Path)
  deriving DecidableEq, Repr

/-- The keyring that takes the place of all stores: the one named, else the configured one. -/
def override? (around : Surroundings) (explicit : Option Path) : Except Fault (Option Path) :=
  match explicit with
  | some path => (around.environment.expand path).map some
  | none =>
    match around.settings.override around.environment with
    | .error fault => .error fault
    | .ok none => .ok none
    | .ok (some path) => (around.environment.expand path).map some

/-- The place where a secret key is looked for. -/
def place (around : Surroundings) (explicit : Option Path) : Except Fault Place := do
  match ← override? around explicit with
  | some path => .ok (.keyring path)
  | none =>
    let keybox ← around.settings.keyboxPath around.environment
    if ← KeyStore.isFile around.tree keybox then
      .ok (.keybox keybox (← around.settings.secretDirectory around.environment))
    else
      let keyring ← around.settings.keyringPath around.environment
      if ← KeyStore.isFile around.tree keyring then .ok (.keyring keyring)
      else .ok (.nowhere (← around.settings.home around.environment))

/-! ## Public keys -/

/-- The first certificate with a key that an identifier names. -/
def findIn (id : KeyId) (records : Listing Fault PublicRecord) :
    Except Fault (Option PublicRecord) :=
  records.find? fun record => record.answersTo id

/-- The certificate in a keybox that an identifier names. -/
def findInKeybox (tree : FileTree) (id : KeyId) (path : Path) :
    Except Fault (Option PublicRecord) :=
  match KeyStore.keybox tree path with
  | .error fault => .error fault
  | .ok records => findIn id records

/-- The certificate that an identifier is to select. -/
def selectCertificate (tree : FileTree) (id : KeyId) (path : Path) : Except Fault PublicRecord :=
  match findInKeybox tree id path with
  | .error fault => .error fault
  | .ok none =>
    .error (.failed
      (.unresolved .publicKeyMissing "no public key matches" (some id.text) (some path)))
  | .ok (some record) => .ok record

/-! ## Keyrings -/

/-- The secret key of a keyring that an identifier names. -/
def findInKeyring (tree : FileTree) (id : KeyId) (path : Path) : Except Fault SecretRecord :=
  match KeyStore.keyring tree path with
  | .error fault => .error fault
  | .ok records =>
    match records.find? fun record => id.fits record.publicKey.key.fingerprint with
    | .error fault => .error fault
    | .ok none =>
      .error (.failed
        (.unresolved .secretKeyMissing "no secret key matches" (some id.text) (some path)))
    | .ok (some record) => .ok record

/-! ## Key files -/

/-- A key file that holds the secret part of a public key. -/
structure Candidate where
  key : AgentKey
  record : SecretRecord

/-- A file as a candidate. Files that are no key files, keys on smartcards and other keys are passed
over. -/
def candidate? (publicKey : PublicRecord) (material : Option PublicKey) (file : SecretFile) :
    Except Fault (Option Candidate) :=
  match AgentKey.load file.content with
  | .error .listForKind => .error .listForKind
  | .error _ => .ok none
  | .ok key =>
    match material with
    | none => .ok none
    | some material =>
      if key.kind == .shadowed || !key.fits material then .ok none
      else
        .ok (some { key
                    record :=
                      { publicKey, format := .agent, material := file.content, source := file.path
                        isProtected := key.kind == .guarded } })

/-- The files of a directory that hold the secret part of a public key. -/
def candidates (tree : FileTree) (publicKey : PublicRecord) (directory : Path) :
    Except Fault (Listing Fault Candidate) :=
  match publicKey.findMaterial none with
  | .error e => .error e.fault
  | .ok material =>
    match KeyStore.secretDirectory tree directory with
    | .error fault => .error fault
    | .ok files => .ok (files.filterMapM (candidate? publicKey material))

/-- The failure to find the secret part of a public key. -/
def noSecretKey (id : KeyId) (publicKey : PublicRecord) (directory : Path) : Fault :=
  .failed (.unresolved .secretKeyMissing ("no secret key for " ++ publicKey.fingerprintText)
    (some id.text) (some directory))

/-! ## Finding without unlocking -/

/-- The first candidate. -/
def findInDirectory (tree : FileTree) (id : KeyId) (publicKey : PublicRecord) (directory : Path) :
    Except Fault SecretRecord :=
  match candidates tree publicKey directory with
  | .error fault => .error fault
  | .ok candidates =>
    match candidates.head? with
    | .error fault => .error fault
    | .ok none => .error (noSecretKey id publicKey directory)
    | .ok (some candidate) => .ok candidate.record

/-- The failure to find any store. -/
def noStore (id : KeyId) (home : Path) : Fault :=
  .failed (.unresolved .noStore "no keybox or secret keyring found" (some id.text) (some home))

/-- The secret key that an identifier names. Nothing is decrypted. -/
def find (around : Surroundings) (id : KeyId) (explicit : Option Path) :
    Except Fault SecretRecord := do
  match ← place around explicit with
  | .keyring path => findInKeyring around.tree id path
  | .keybox path directory =>
    findInDirectory around.tree id (← selectCertificate around.tree id path) directory
  | .nowhere home => .error (noStore id home)

/-! ## Finding and unlocking -/

/-- Where a passphrase comes from, and what fetching it changes. -/
abbrev Provider (σ : Type) := SecretRecord → σ → Except Fault (Option Octets) × σ

/-- A provider, and the passphrase once it is fetched. -/
structure Fetching (σ : Type) where
  fetched : Option (Option Octets)
  state : σ

/-- The passphrase for a record. -/
def Fetching.get {σ : Type} (provider : Provider σ) (record : SecretRecord)
    (fetching : Fetching σ) : Except Fault (Option Octets) × Fetching σ :=
  match fetching.fetched with
  | some passphrase => (.ok passphrase, fetching)
  | none =>
    match provider record fetching.state with
    | (.ok passphrase, state) => (.ok passphrase, ⟨some passphrase, state⟩)
    | (.error fault, state) => (.error fault, ⟨none, state⟩)

/-- A secret key, unlocked if it came from a key file. -/
structure Resolved where
  record : SecretRecord
  unlocked : Option Transferable.Ring

/-- The passphrase for a candidate; one that is not protected needs none. -/
def Candidate.passphrase {σ : Type} (provider : Provider σ) (candidate : Candidate)
    (fetching : Fetching σ) : Except Fault (Option Octets) × Fetching σ :=
  if candidate.record.isProtected then fetching.get provider candidate.record
  else (.ok none, fetching)

/-- Tries candidates one after the other. A passphrase that does not fit one is no reason to stop;
the first such failure is reported if nothing comes after it. `failure` ended the candidates. -/
def tryCandidates {σ : Type} (context : AgentKey.Context) (provider : Provider σ)
    (missing : Fault) (failure : Option Fault) (first : Option Fault) :
    List Candidate → Fetching σ → Except Fault Resolved × Fetching σ
  | [], fetching => (.error ((failure.or first).getD missing), fetching)
  | candidate :: rest, fetching =>
    match candidate.passphrase provider fetching with
    | (.error fault, fetching) => (.error fault, fetching)
    | (.ok passphrase, fetching) =>
      match KeyStore.unlockFile candidate.key candidate.record.publicKey passphrase context with
      | .ok ring => (.ok ⟨candidate.record, some ring⟩, fetching)
      | .error (.failed (.undecrypted reason)) =>
        tryCandidates context provider missing failure
          (first.or (some (.failed (.undecrypted reason)))) rest fetching
      | .error fault => (.error fault, fetching)

/-- The first candidate that can be unlocked. -/
def resolveInDirectory {σ : Type} (around : Surroundings) (id : KeyId) (publicKey : PublicRecord)
    (directory : Path) (provider : Provider σ) (fetching : Fetching σ) :
    Except Fault Resolved × Fetching σ :=
  match candidates around.tree publicKey directory with
  | .error fault => (.error fault, fetching)
  | .ok candidates =>
    tryCandidates around.context provider (noSecretKey id publicKey directory) candidates.failure
      none candidates.items fetching

/-- The secret key that an identifier names, unlocked if it comes from a key file. -/
def resolve {σ : Type} (around : Surroundings) (id : KeyId) (explicit : Option Path)
    (provider : Provider σ) (fetching : Fetching σ) : Except Fault Resolved × Fetching σ :=
  match place around explicit with
  | .error fault => (.error fault, fetching)
  | .ok (.keyring path) =>
    ((findInKeyring around.tree id path).map fun record => ⟨record, none⟩, fetching)
  | .ok (.keybox path directory) =>
    match selectCertificate around.tree id path with
    | .error fault => (.error fault, fetching)
    | .ok publicKey => resolveInDirectory around id publicKey directory provider fetching
  | .ok (.nowhere home) => (.error (noStore id home), fetching)

/-! ## Identifiers and passphrases as they are handed over -/

/-- An identifier, read already or still a text. -/
inductive Wanted where
  | read (id : KeyId)
  | text (name : String)

/-- The identifier that is meant. -/
def Wanted.keyId : Wanted → Except Fault KeyId
  | .read id => .ok id
  | .text name => KeyId.ofText name

/-- The secret key that is wanted. Nothing is decrypted. -/
def findWanted (around : Surroundings) (wanted : Wanted) (explicit : Option Path) :
    Except Fault SecretRecord :=
  wanted.keyId.bind fun id => find around id explicit

/-- The secret key that is wanted, unlocked if it comes from a key file. -/
def resolveWanted {σ : Type} (around : Surroundings) (wanted : Wanted) (explicit : Option Path)
    (provider : Provider σ) (fetching : Fetching σ) : Except Fault Resolved × Fetching σ :=
  match wanted.keyId with
  | .error fault => (.error fault, fetching)
  | .ok id => resolve around id explicit provider fetching

/-- A passphrase as it is handed over: at hand, or to be fetched. -/
inductive Given (σ : Type) where
  | nothing
  | text (passphrase : List CodePoint)
  | octets (passphrase : Octets)
  | provider (fetch : Provider σ)

namespace Given

variable {σ : Type}

/-- Whether a passphrase is no text, or one that has a UTF-8 form. -/
def isEncodable : Given σ → Bool
  | text passphrase => (Octets.ofPoints? passphrase).isSome
  | _ => true

/-- What is at hand from the start. -/
def fetching (state : σ) : Given σ → Except Fault (Fetching σ)
  | nothing => .ok ⟨some none, state⟩
  | text passphrase =>
    match Octets.ofPoints? passphrase with
    | some encoded => .ok ⟨some (some encoded), state⟩
    | none => .error .unencodable
  | octets passphrase => .ok ⟨some (some passphrase), state⟩
  | provider _ => .ok ⟨none, state⟩

/-- What fetches the passphrase; one that is at hand is not fetched. -/
def fetch : Given σ → Provider σ
  | provider fetch => fetch
  | _ => fun _ state => (.ok none, state)

end Given

/-- The secret key that is wanted, unlocked with a passphrase as it is handed over. A text without a
UTF-8 form is refused before the identifier is read. -/
def resolveGiven {σ : Type} (around : Surroundings) (wanted : Wanted) (explicit : Option Path)
    (given : Given σ) (state : σ) : Except Fault Resolved × σ :=
  match given.fetching state with
  | .error fault => (.error fault, state)
  | .ok fetching =>
    let (answer, fetching) := resolveWanted around wanted explicit given.fetch fetching
    (answer, fetching.state)

end Resolution

end CommitSeal
