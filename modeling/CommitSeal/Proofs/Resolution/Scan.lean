import CommitSeal.Proofs.AgentKey.Loading
import CommitSeal.Proofs.AgentKey.Protection
import CommitSeal.Proofs.KeyStore.Record

/-!
# Which file decides a search

The files of a secret key directory are gone through for the secret part of a public key. A file
that holds it is a candidate (`Resolution.heldKey?`), and candidates are tried in order. The first
one whose unlocking does not end in a failure to decrypt decides the search; if there is none, the
failure of the first candidate is reported, and without candidates there is no secret key. Other
files are of no account, wherever they stand (`Resolution.scan_decided_by_first`).

A passphrase is fetched at the first protected candidate and serves for the later ones too, so all
candidates are tried with one passphrase (`Resolution.Supplies`). `Resolution.tryCandidates_cons`
says what is done with one candidate; what is said of many follows by induction.
-/

namespace CommitSeal.Resolution

variable {σ : Type}

/-! ## Candidates among files -/

/-- The key that a file holds for a public key, if it is a candidate: the file loads to it, it is on
no smartcard, and it has the numbers of the public key. -/
def heldKey? (material : PublicKey) (file : Octets) : Option AgentKey :=
  match AgentKey.load file with
  | .error _ => none
  | .ok key => if key.kind = .shadowed ∨ key.fits material = false then none else some key

theorem heldKey?_of_load {material : PublicKey} {file : Octets} {key : AgentKey}
    (hload : AgentKey.load file = .ok key) (hkind : key.kind ≠ .shadowed)
    (hfits : key.fits material = true) : heldKey? material file = some key := by
  rw [heldKey?, hload]
  exact if_neg (by simp [hkind, hfits])

/-- A file as a candidate with the key that it holds. -/
def candidateOf (publicKey : PublicRecord) (file : SecretFile) (key : AgentKey) : Candidate where
  key
  record :=
    { publicKey, format := .agent, material := file.content, source := file.path
      isProtected := key.kind == .guarded }

/-- The candidates among files, in order. -/
def candidatesAmong (publicKey : PublicRecord) (files : List SecretFile) : List Candidate :=
  files.filterMap fun file => (heldKey? publicKey.key file.content).map (candidateOf publicKey file)

theorem mem_candidatesAmong {publicKey : PublicRecord} {files : List SecretFile}
    {candidate : Candidate} (hmem : candidate ∈ candidatesAmong publicKey files) :
    ∃ file ∈ files, ∃ key, heldKey? publicKey.key file.content = some key ∧
      candidateOf publicKey file key = candidate := by
  obtain ⟨file, hfile, hheld⟩ := List.mem_filterMap.mp hmem
  obtain ⟨key, hkey, hcandidate⟩ := Option.map_eq_some_iff.mp hheld
  exact ⟨file, hfile, key, hkey, hcandidate⟩

/-- A candidate stands between those in front of it and those behind it. -/
theorem candidatesAmong_append (publicKey : PublicRecord) (front behind : List SecretFile)
    {file : SecretFile} {key : AgentKey} (hkey : heldKey? publicKey.key file.content = some key) :
    candidatesAmong publicKey (front ++ file :: behind)
      = candidatesAmong publicKey front
          ++ candidateOf publicKey file key :: candidatesAmong publicKey behind := by
  simp [candidatesAmong, List.filterMap_append, hkey]

theorem candidatesAmong_eq_nil {publicKey : PublicRecord} {files : List SecretFile}
    (hnone : ∀ file ∈ files, heldKey? publicKey.key file.content = none) :
    candidatesAmong publicKey files = [] := by
  refine List.filterMap_eq_nil_iff.mpr fun file hfile => ?_
  rw [hnone file hfile]
  rfl

/-- Files that are no candidates may be left out. -/
theorem candidatesAmong_filter (publicKey : PublicRecord) (files : List SecretFile) :
    candidatesAmong publicKey
        (files.filter fun file => (heldKey? publicKey.key file.content).isSome)
      = candidatesAmong publicKey files := by
  induction files with
  | nil => rfl
  | cons file files ih =>
    unfold candidatesAmong at ih ⊢
    cases hheld : heldKey? publicKey.key file.content with
    | none => simp [hheld, ih]
    | some key => simp [hheld, ih]

/-- A file is found as the candidate that it is. -/
theorem found_eq (publicKey : PublicRecord) (material : PublicKey) (file : SecretFile) :
    found publicKey (some material) file
      = (heldKey? material file.content).map (candidateOf publicKey file) := by
  unfold found candidate? heldKey?
  cases AgentKey.load file.content with
  | error e => cases e <;> rfl
  | ok key =>
    cases hkind : key.kind <;> cases hfits : key.fits material <;>
      simp [hkind, hfits, candidateOf]

/-- What a file is taken for, unless it ends the search, is settled by the key that it holds. -/
theorem held_of_candidate? {publicKey : PublicRecord} {material : PublicKey} {file : SecretFile}
    {answer : Option Candidate}
    (hcandidate : candidate? publicKey (some material) file = .ok answer) :
    (heldKey? material file.content).map (candidateOf publicKey file) = answer := by
  rw [← found_eq, found, hcandidate]

/-- Whatever a certificate is for, a candidate is a file that holds the key of it. -/
theorem exists_of_candidate?_eq_some {publicKey : PublicRecord} {material : Option PublicKey}
    {file : SecretFile} {candidate : Candidate}
    (hcandidate : candidate? publicKey material file = .ok (some candidate)) :
    ∃ key, candidateOf publicKey file key = candidate := by
  cases material with
  | none =>
    unfold candidate? at hcandidate
    split at hcandidate <;> cases hcandidate
  | some material =>
    obtain ⟨key, -, hkey⟩ := Option.map_eq_some_iff.mp (held_of_candidate? hcandidate)
    exact ⟨key, hkey⟩

/-- Files that do not end the search are gone through to their end. -/
theorem collect_candidate? {publicKey : PublicRecord} {files : List SecretFile}
    (hfiles : ∀ file ∈ files, AgentKey.Loads file.content ∨ AgentKey.Malformed file.content) :
    Listing.collect (candidate? publicKey (some publicKey.key)) files none
      = ⟨candidatesAmong publicKey files, none⟩ := by
  have hpass : ∀ file ∈ files, candidate? publicKey (some publicKey.key) file
      = .ok (found publicKey (some publicKey.key) file) := fun file hfile =>
    candidate?_eq_ok (AgentKey.loads_or_malformed_iff.mp (hfiles file hfile))
  have hcollect := Listing.collect_append hpass [] none
  have hfound : found publicKey (some publicKey.key) = fun file =>
      (heldKey? publicKey.key file.content).map (candidateOf publicKey file) :=
    funext fun file => found_eq publicKey publicKey.key file
  rw [List.append_nil, Listing.collect, List.append_nil, hfound] at hcollect
  exact hcollect

/-! ## One candidate -/

/-- What becomes of a candidate when it is unlocked with a passphrase, which one that is not
protected does without. -/
def Candidate.unlock (context : AgentKey.Context) (passphrase : Option Octets)
    (candidate : Candidate) : Except Fault Transferable.Ring :=
  KeyStore.unlockFile candidate.key candidate.record.publicKey
    (if candidate.record.isProtected then passphrase else none) context

/-- A key that yields no secret parameters is not unlocked. -/
theorem unlock_candidateOf {context : AgentKey.Context} {passphrase : Option Octets}
    {publicKey : PublicRecord} (hmaterial : publicKey.findMaterial none = .ok (some publicKey.key))
    (file : SecretFile) {key : AgentKey} {e : AgentKey.UnprotectError}
    (hunprotect : key.unprotect (if key.kind == .guarded then passphrase else none) context
      = .error e) :
    (candidateOf publicKey file key).unlock context passphrase = .error e.fault := by
  show KeyStore.unlockFile key publicKey (if key.kind == .guarded then passphrase else none) context
    = .error e.fault
  rw [KeyStore.unlockFile, hmaterial]
  simp only [hunprotect]

/-- An answer that is a failure to decrypt. -/
def Undecrypted {α : Type} (answer : Except Fault α) : Prop :=
  ∃ reason, answer = .error (.failed (.undecrypted reason))

/-- Whatever passphrase is fetched for candidates, it is the given one: it is fetched for the first
of them that is protected, if it is not at hand already. -/
def Supplies (provider : Provider σ) (fetching : Fetching σ) (passphrase : Option Octets)
    (candidates : List Candidate) : Prop :=
  ∀ candidate, candidates.find? (fun candidate => candidate.record.isProtected) = some candidate →
    (fetching.get provider candidate.record).1 = .ok passphrase

/-- What was fetched is at hand for whatever follows. -/
theorem supplies_of_get {provider : Provider σ} {fetching : Fetching σ} {record : SecretRecord}
    {passphrase : Option Octets} (hget : (fetching.get provider record).1 = .ok passphrase)
    (candidates : List Candidate) :
    Supplies provider (fetching.get provider record).2 passphrase candidates := by
  have hfetched : (fetching.get provider record).2.fetched = some passphrase := by
    unfold Fetching.get at hget ⊢
    split at hget
    · rename_i known hknown
      rw [hknown, Except.ok.inj hget]
    · split at hget
      · rw [Except.ok.inj hget]
      · cases hget
  intro candidate _
  rw [Fetching.get, hfetched]

/-- The passphrase for the first of several candidates, and what is at hand for the others. -/
theorem passphrase_of_supplies {provider : Provider σ} {fetching : Fetching σ}
    {passphrase : Option Octets} {candidate : Candidate} {rest : List Candidate}
    (hsupplies : Supplies provider fetching passphrase (candidate :: rest)) :
    ∃ after, Supplies provider after passphrase rest ∧
      candidate.passphrase provider fetching
        = (.ok (if candidate.record.isProtected then passphrase else none), after) := by
  unfold Candidate.passphrase
  by_cases hprotected : candidate.record.isProtected = true
  · have hget := hsupplies candidate (by simp [hprotected])
    refine ⟨_, supplies_of_get hget rest, ?_⟩
    rw [if_pos hprotected, if_pos hprotected, ← hget]
  · refine ⟨fetching, fun later hlater => hsupplies later ?_, ?_⟩
    · rw [List.find?_cons_of_neg (by simpa using hprotected)]
      exact hlater
    · rw [if_neg hprotected, if_neg hprotected]

section Trying

variable {context : AgentKey.Context} {provider : Provider σ} {missing : Fault}
  {failure : Option Fault} {fetching : Fetching σ} {passphrase : Option Octets}
  {candidate : Candidate} {rest : List Candidate}

/-- One candidate is tried: its unlocking is the answer, or it failed to decrypt and the others are
tried, the failure being kept if it is the first. -/
theorem tryCandidates_cons (first : Option Fault)
    (hsupplies : Supplies provider fetching passphrase (candidate :: rest)) :
    ∃ after, Supplies provider after passphrase rest ∧
      ((¬ Undecrypted (candidate.unlock context passphrase) ∧
          tryCandidates context provider missing failure first (candidate :: rest) fetching
            = ((candidate.unlock context passphrase).map fun ring => ⟨candidate.record, some ring⟩,
                after)) ∨
        ∃ reason, candidate.unlock context passphrase = .error (.failed (.undecrypted reason)) ∧
          tryCandidates context provider missing failure first (candidate :: rest) fetching
            = tryCandidates context provider missing failure
                (first.or (some (.failed (.undecrypted reason)))) rest after) := by
  obtain ⟨after, hafter, hpassphrase⟩ := passphrase_of_supplies hsupplies
  refine ⟨after, hafter, ?_⟩
  rw [tryCandidates, hpassphrase]
  simp only
  rw [show KeyStore.unlockFile candidate.key candidate.record.publicKey
    (if candidate.record.isProtected then passphrase else none) context
      = candidate.unlock context passphrase from rfl]
  split
  · rename_i ring hring
    rw [hring]
    exact .inl ⟨nofun, rfl⟩
  · rename_i reason hreason
    exact .inr ⟨reason, hreason, rfl⟩
  · rename_i fault hother hfault
    rw [hfault]
    refine .inl ⟨?_, rfl⟩
    rintro ⟨reason, hreason⟩
    exact hother reason (Except.error.inj hreason)

/-- Candidates that fail to decrypt lead on to those behind them; a failure kept from before stays
the one that is kept. -/
theorem tryCandidates_append {front : List Candidate}
    (hfront : ∀ candidate ∈ front, Undecrypted (candidate.unlock context passphrase))
    (first : Option Fault) (hsupplies : Supplies provider fetching passphrase (front ++ rest)) :
    ∃ after kept, Supplies provider after passphrase rest ∧
      (∀ fault, first = some fault → kept = some fault) ∧
      tryCandidates context provider missing failure first (front ++ rest) fetching
        = tryCandidates context provider missing failure kept rest after := by
  -- From one candidate to the next both the passphrase at hand and the failure kept may change.
  induction front generalizing first fetching with
  | nil => exact ⟨fetching, first, hsupplies, fun _ h => h, rfl⟩
  | cons candidate front ih =>
    obtain ⟨hcandidate, hothers⟩ := List.forall_mem_cons.mp hfront
    obtain ⟨next, hnext, ⟨hdecided, -⟩ | ⟨reason, -, htry⟩⟩ := tryCandidates_cons first hsupplies
    · exact absurd hcandidate hdecided
    · obtain ⟨after, kept, hafter, hkept, hrest⟩ := ih hothers _ hnext
      refine ⟨after, kept, hafter, ?_, htry.trans hrest⟩
      rintro fault rfl
      exact hkept fault rfl

/-- The first candidate that does not fail to decrypt decides. -/
theorem tryCandidates_decided {front : List Candidate}
    (hfront : ∀ candidate ∈ front, Undecrypted (candidate.unlock context passphrase))
    (hcandidate : ¬ Undecrypted (candidate.unlock context passphrase)) (first : Option Fault)
    (hsupplies : Supplies provider fetching passphrase (front ++ candidate :: rest)) :
    (tryCandidates context provider missing failure first (front ++ candidate :: rest) fetching).1
      = (candidate.unlock context passphrase).map fun ring => ⟨candidate.record, some ring⟩ := by
  obtain ⟨next, kept, hnext, -, hrest⟩ := tryCandidates_append hfront first hsupplies
  obtain ⟨after, -, ⟨-, htry⟩ | ⟨reason, hreason, -⟩⟩ := tryCandidates_cons kept hnext
  · rw [hrest, htry]
  · exact absurd ⟨reason, hreason⟩ hcandidate

/-- If all fail to decrypt, the failure of the first is the answer. -/
theorem tryCandidates_undecrypted {reason : String}
    (hcandidate : candidate.unlock context passphrase = .error (.failed (.undecrypted reason)))
    (hothers : ∀ other ∈ rest, Undecrypted (other.unlock context passphrase))
    (hsupplies : Supplies provider fetching passphrase (candidate :: rest)) :
    (tryCandidates context provider missing none none (candidate :: rest) fetching).1
      = .error (.failed (.undecrypted reason)) := by
  obtain ⟨next, hnext, ⟨hdecided, -⟩ | ⟨same, hsame, htry⟩⟩ := tryCandidates_cons none hsupplies
  · exact absurd ⟨reason, hcandidate⟩ hdecided
  · cases hcandidate.symm.trans hsame
    rw [← List.append_nil rest] at hnext
    obtain ⟨after, kept, -, hkept, hrest⟩ := tryCandidates_append hothers _ hnext
    rw [List.append_nil] at hrest
    rw [htry, hrest, hkept _ rfl]
    rfl

end Trying

/-! ## A sequence of files -/

/-- The search among files, one after the other. -/
def scan (around : Surroundings) (id : KeyId) (publicKey : PublicRecord) (directory : Path)
    (provider : Provider σ) (files : Listing Fault SecretFile) (fetching : Fetching σ) :
    Except Fault Resolved × Fetching σ :=
  match publicKey.findMaterial none with
  | .error e => (.error e.fault, fetching)
  | .ok material =>
    let candidates := files.filterMapM (candidate? publicKey material)
    tryCandidates around.context provider (noSecretKey id publicKey directory) candidates.failure
      none candidates.items fetching

/-- The search of a directory is that among its files. -/
theorem resolveInDirectory_eq_scan {around : Surroundings} {directory : Path}
    {files : Listing Fault SecretFile}
    (hfiles : KeyStore.secretDirectory around.tree directory = .ok files)
    (id : KeyId) (publicKey : PublicRecord) (provider : Provider σ) (fetching : Fetching σ) :
    resolveInDirectory around id publicKey directory provider fetching
      = scan around id publicKey directory provider files fetching := by
  unfold resolveInDirectory candidates scan
  cases publicKey.findMaterial none with
  | error e => rfl
  | ok material => simp only [hfiles]

/-- The search among files tries the candidates among them. -/
theorem scan_eq {publicKey : PublicRecord}
    (hmaterial : publicKey.findMaterial none = .ok (some publicKey.key)) {files : List SecretFile}
    (hfiles : ∀ file ∈ files, AgentKey.Loads file.content ∨ AgentKey.Malformed file.content)
    (around : Surroundings) (id : KeyId) (directory : Path) (provider : Provider σ)
    (fetching : Fetching σ) :
    scan around id publicKey directory provider (.ofList files) fetching
      = tryCandidates around.context provider (noSecretKey id publicKey directory) none none
          (candidatesAmong publicKey files) fetching := by
  unfold scan
  rw [hmaterial]
  simp only [Listing.filterMapM, Listing.ofList, collect_candidate? hfiles]

/-- The search among the files of a directory for the secret part of a located public key, with a
passphrase at hand or a provider that returns one, where each file loads or is malformed. The first
candidate whose unlocking does not end in a failure to decrypt decides the search, with its record
or its own fault; if all end so, the failure of the first candidate is the answer; and without
candidates no secret key is found. Files that are no candidates may be put in, left out and changed:
the search depends on the candidates alone. -/
theorem scan_decided_by_first (around : Surroundings) {id : KeyId} {path : Path}
    {publicKey : PublicRecord}
    (hlocated : selectCertificate around.tree id path = .ok publicKey) (directory : Path)
    {provider : Provider σ} {fetching : Fetching σ}
    (hprovider : ∀ record, ∃ passphrase, (fetching.get provider record).1 = .ok passphrase) :
    (∀ files, KeyStore.secretDirectory around.tree directory = .ok files →
      resolveInDirectory around id publicKey directory provider fetching
        = scan around id publicKey directory provider files fetching) ∧
    ∀ files : List SecretFile,
      (∀ file ∈ files, AgentKey.Loads file.content ∨ AgentKey.Malformed file.content) →
      ∃ passphrase, Supplies provider fetching passphrase (candidatesAmong publicKey files) ∧
        (∀ front file behind key, files = front ++ file :: behind →
          heldKey? publicKey.key file.content = some key →
          (∀ other ∈ front, ∀ held, heldKey? publicKey.key other.content = some held →
            Undecrypted ((candidateOf publicKey other held).unlock around.context passphrase)) →
          ¬ Undecrypted ((candidateOf publicKey file key).unlock around.context passphrase) →
          (scan around id publicKey directory provider (.ofList files) fetching).1
            = ((candidateOf publicKey file key).unlock around.context passphrase).map fun ring =>
                ⟨(candidateOf publicKey file key).record, some ring⟩) ∧
        (∀ front file behind key reason, files = front ++ file :: behind →
          (∀ other ∈ front, heldKey? publicKey.key other.content = none) →
          heldKey? publicKey.key file.content = some key →
          (∀ other ∈ files, ∀ held, heldKey? publicKey.key other.content = some held →
            Undecrypted ((candidateOf publicKey other held).unlock around.context passphrase)) →
          (candidateOf publicKey file key).unlock around.context passphrase
            = .error (.failed (.undecrypted reason)) →
          (scan around id publicKey directory provider (.ofList files) fetching).1
            = .error (.failed (.undecrypted reason))) ∧
        ((∀ file ∈ files, heldKey? publicKey.key file.content = none) →
          (scan around id publicKey directory provider (.ofList files) fetching).1
            = .error (noSecretKey id publicKey directory)) ∧
        (∀ others : List SecretFile,
          (∀ file ∈ others, AgentKey.Loads file.content ∨ AgentKey.Malformed file.content) →
          (others.filter fun file => (heldKey? publicKey.key file.content).isSome)
            = (files.filter fun file => (heldKey? publicKey.key file.content).isSome) →
          scan around id publicKey directory provider (.ofList others) fetching
            = scan around id publicKey directory provider (.ofList files) fetching) := by
  have hmaterial := findMaterial_of_located hlocated
  refine ⟨fun files hfiles => resolveInDirectory_eq_scan hfiles id publicKey provider fetching, ?_⟩
  intro files hfiles
  -- The passphrase is that for the first protected candidate; without one, any will do.
  have hsupplied : ∃ passphrase,
      Supplies provider fetching passphrase (candidatesAmong publicKey files) := by
    unfold Supplies
    cases (candidatesAmong publicKey files).find? fun candidate => candidate.record.isProtected with
    | none => exact ⟨none, nofun⟩
    | some first =>
      obtain ⟨passphrase, hpassphrase⟩ := hprovider first.record
      refine ⟨passphrase, ?_⟩
      rintro candidate hcandidate
      rw [← Option.some.inj hcandidate]
      exact hpassphrase
  obtain ⟨passphrase, hsupplies⟩ := hsupplied
  have hscan := fun fetching => scan_eq hmaterial hfiles around id directory provider fetching
  refine ⟨passphrase, hsupplies, ?_, ?_, ?_, ?_⟩
  · -- The files in front hold only candidates that fail to decrypt.
    rintro front file behind key rfl hkey hfront hdecides
    rw [candidatesAmong_append publicKey front behind hkey] at hsupplies
    rw [hscan, candidatesAmong_append publicKey front behind hkey]
    refine tryCandidates_decided ?_ hdecides none hsupplies
    intro candidate hcandidate
    obtain ⟨other, hother, held, hheld, rfl⟩ := mem_candidatesAmong hcandidate
    exact hfront other hother held hheld
  · -- The file is the first candidate, since those in front of it are none.
    rintro front file behind key reason rfl hfront hkey hall hreason
    have hamong := candidatesAmong_append publicKey front behind hkey
    rw [candidatesAmong_eq_nil hfront, List.nil_append] at hamong
    have hundecrypted : ∀ candidate ∈ candidatesAmong publicKey (front ++ file :: behind),
        Undecrypted (candidate.unlock around.context passphrase) := by
      intro candidate hcandidate
      obtain ⟨other, hother, held, hheld, rfl⟩ := mem_candidatesAmong hcandidate
      exact hall other hother held hheld
    rw [hamong] at hsupplies hundecrypted
    rw [hscan, hamong]
    exact tryCandidates_undecrypted hreason (List.forall_mem_cons.mp hundecrypted).2 hsupplies
  · intro hnone
    rw [hscan, candidatesAmong_eq_nil hnone]
    rfl
  · intro others hothers hsame
    rw [hscan, scan_eq hmaterial hothers, ← candidatesAmong_filter publicKey others, hsame,
      candidatesAmong_filter]

/-! ## Three files -/

section Mixed

open AgentKey (entry)
open SExpr (atom list)

/-- A protection by OCB. -/
def sealedByOcb : AgentKey.Protection where
  mode := .ocb
  salt := Octets.ofText "saltsalt"
  count := 96
  iv := Octets.ofText "twelve bytes"
  ciphertext := Octets.ofText "ciphertext and a tag"

/-- A key with the numbers of the tiny one, under that protection. -/
def guardedTinyKey : AgentKey where
  kind := .guarded
  algorithm := Octets.ofText "rsa"
  elements := [entry .n [0x0F], entry .e [0x03], list (sealedByOcb.items (Octets.ofText "96"))]

/-- Its file. -/
def guardedTinyFile : Octets :=
  SExpr.canonical (list [atom guardedTinyKey.kind.atom,
    list (atom guardedTinyKey.algorithm :: guardedTinyKey.elements)])

/-- The key that the file with the public numbers holds; its secret parameters are missing. -/
def plainTinyKey : AgentKey where
  kind := .plain
  algorithm := Octets.ofText "rsa"
  elements := [entry .n [0x0F], entry .e [0x03]]

/-- A file of the directory. -/
def fileNamed (name : String) (content : Octets) : SecretFile :=
  ⟨⟨.relative, ["keys", name]⟩, content⟩

/-- A file under protection, notes, a file that lacks the secret parameters, and more notes. -/
def mixedFiles : List SecretFile :=
  [fileNamed "a" guardedTinyFile, fileNamed "b" (Octets.ofText "notes"),
    fileNamed "c" smallKeyFile, fileNamed "d" (Octets.ofText "notes")]

/-- A provider that has no passphrase. -/
def noPassphrase : Provider Unit := fun _ state => (.ok none, state)

/-- Surroundings with the keybox of the tiny key. -/
def tinySurroundings : Surroundings where
  tree := tinyTree [tinyFingerprint]
  environment := {}
  settings := {}
  now := 0

theorem load_guardedTinyFile : AgentKey.load guardedTinyFile = .ok guardedTinyKey := by
  have hatoms : SExpr.WithinLimit (list [atom guardedTinyKey.kind.atom,
      list (atom guardedTinyKey.algorithm :: guardedTinyKey.elements)]).atoms := by
    unfold SExpr.WithinLimit
    decide +kernel
  have hkind : AgentKey.Kind.ofAtom? guardedTinyKey.kind.atom = some .guarded := by decide
  rw [AgentKey.load, guardedTinyFile, SExpr.parseKeyFile_canonical hatoms]
  simp only [AgentKey.ofItems, hkind]
  rfl

theorem heldKey?_guardedTinyFile :
    heldKey? (tinyRecord [tinyFingerprint]).key guardedTinyFile = some guardedTinyKey :=
  heldKey?_of_load load_guardedTinyFile nofun (by decide +kernel)

theorem load_smallKeyFile : AgentKey.load smallKeyFile = .ok plainTinyKey := rfl

theorem heldKey?_smallKeyFile :
    heldKey? (tinyRecord [tinyFingerprint]).key smallKeyFile = some plainTinyKey :=
  heldKey?_of_load load_smallKeyFile nofun (by decide +kernel)

theorem load_notes : AgentKey.load (Octets.ofText "notes") = .error (.malformed .badItem) := rfl

theorem loads_or_malformed_mixedFiles :
    ∀ file ∈ mixedFiles, AgentKey.Loads file.content ∨ AgentKey.Malformed file.content := by
  have hnotes : AgentKey.Malformed (Octets.ofText "notes") := ⟨_, _, load_notes, rfl⟩
  simp only [mixedFiles, List.forall_mem_cons, List.not_mem_nil, false_imp_iff, implies_true,
    and_true]
  exact ⟨.inl ⟨_, load_guardedTinyFile⟩, .inr hnotes, .inl ⟨_, load_smallKeyFile⟩, .inr hnotes⟩

/-- Without a passphrase the file under protection is not decrypted. The one behind it decides,
with the parameters that it lacks. -/
theorem scan_mixedFiles :
    selectCertificate tinySurroundings.tree tinyId tinyPath
        = .ok (tinyRecord [tinyFingerprint]) ∧
      (∀ file ∈ mixedFiles, AgentKey.Loads file.content ∨ AgentKey.Malformed file.content) ∧
      (scan tinySurroundings tinyId (tinyRecord [tinyFingerprint]) keysPath
          noPassphrase (.ofList mixedFiles) ⟨none, ()⟩).1
        = .error (.failed (.undecodable "secret key lacks d, p, q, u")) := by
  have hfind : findInKeybox (tinyTree [tinyFingerprint]) tinyId tinyPath
      = .ok (some (tinyRecord [tinyFingerprint])) := eq_ok_of_toOption (by decide +kernel)
  have hlocated : selectCertificate tinySurroundings.tree tinyId tinyPath
      = .ok (tinyRecord [tinyFingerprint]) := by
    rw [selectCertificate, show tinySurroundings.tree = tinyTree [tinyFingerprint] from rfl, hfind]
  have hmaterial := findMaterial_of_located hlocated
  refine ⟨hlocated, loads_or_malformed_mixedFiles, ?_⟩
  have hprovider : ∀ record, ∃ passphrase,
      ((⟨none, ()⟩ : Fetching Unit).get noPassphrase record).1 = .ok passphrase :=
    fun record => ⟨none, rfl⟩
  obtain ⟨-, hdecided⟩ := scan_decided_by_first tinySurroundings hlocated keysPath hprovider
  obtain ⟨passphrase, hsupplies, hfirst, -⟩ := hdecided mixedFiles loads_or_malformed_mixedFiles
  -- The passphrase is the one that was fetched for the first file.
  have hprotected : (candidatesAmong (tinyRecord [tinyFingerprint]) mixedFiles).find?
      (fun candidate => candidate.record.isProtected)
        = some (candidateOf (tinyRecord [tinyFingerprint]) (fileNamed "a" guardedTinyFile)
            guardedTinyKey) := by
    rw [show mixedFiles = [] ++ fileNamed "a" guardedTinyFile :: mixedFiles.tail from rfl,
      candidatesAmong_append _ _ _ heldKey?_guardedTinyFile]
    rfl
  obtain rfl : none = passphrase := Except.ok.inj (hsupplies _ hprotected)
  have hguarded : ∀ file, (candidateOf (tinyRecord [tinyFingerprint]) file guardedTinyKey).unlock
      tinySurroundings.context none = .error AgentKey.UnprotectError.passphraseRequired.fault :=
    fun file => unlock_candidateOf hmaterial file rfl
  have hplain : ∀ file, (candidateOf (tinyRecord [tinyFingerprint]) file plainTinyKey).unlock
      tinySurroundings.context none
        = .error (AgentKey.UnprotectError.missing ["d", "p", "q", "u"]).fault :=
    fun file => unlock_candidateOf hmaterial file rfl
  have hscan := hfirst (mixedFiles.take 2) (fileNamed "c" smallKeyFile) (mixedFiles.drop 3)
    plainTinyKey rfl heldKey?_smallKeyFile ?_ ?_
  · rw [hscan, hplain]
    rfl
  · intro other hother held hheld
    simp only [mixedFiles, List.take, List.mem_cons, List.not_mem_nil, or_false] at hother
    rcases hother with rfl | rfl
    · obtain rfl := Option.some.inj (heldKey?_guardedTinyFile.symm.trans hheld)
      exact ⟨_, hguarded _⟩
    · unfold heldKey? at hheld
      rw [show (fileNamed "b" (Octets.ofText "notes")).content = Octets.ofText "notes" from rfl,
        load_notes] at hheld
      cases hheld
  · rw [hplain]
    rintro ⟨reason, hreason⟩
    cases hreason

end Mixed

end CommitSeal.Resolution
