import CommitSeal.Proofs.Signing.Agreement
import CommitSeal.Proofs.Text.CodePoint

/-!
# Finding foretells resolving

`Resolution.find` and `Resolution.resolve` go the same way and part at the first candidate: the one
returns it, the other unlocks it, and goes on to those behind it if it is not decrypted. So finding
a key says beforehand what resolving it comes to (`Resolution.find_foretells_resolve`). Where it
fails, resolving fails with the same fault, and before any passphrase is fetched. Where resolving
yields a key, finding yields one of the same certificate, and it is the same record of a keyring, or
a file of the directory that is not behind the one unlocked (`Resolution.Foretells`).

Every signature is made by a resolved key, so a key that signs can be located. No passphrase is
needed to say so.
-/

namespace CommitSeal

namespace Resolution

variable {σ : Type} {around : Surroundings} {explicit : Option Path} {id : KeyId}

/-! ## Identifiers as they are handed over -/

section Wanted

variable {wanted : Wanted}

theorem findWanted_of_keyId (hid : wanted.keyId = .ok id) :
    findWanted around wanted explicit = find around id explicit := by
  rw [findWanted, hid]
  rfl

theorem resolveWanted_of_keyId (hid : wanted.keyId = .ok id) (provider : Provider σ)
    (fetching : Fetching σ) :
    resolveWanted around wanted explicit provider fetching
      = resolve around id explicit provider fetching := by
  rw [resolveWanted, hid]

/-- What is found was asked for by an identifier. -/
theorem exists_keyId_of_findWanted {record : SecretRecord}
    (hfind : findWanted around wanted explicit = .ok record) :
    ∃ id, wanted.keyId = .ok id ∧ find around id explicit = .ok record := by
  cases hid : wanted.keyId with
  | error fault =>
    rw [findWanted, hid] at hfind
    cases hfind
  | ok id =>
    rw [findWanted_of_keyId hid] at hfind
    exact ⟨id, rfl, hfind⟩

end Wanted

/-! ## The first candidate -/

/-- The first file of a directory that is a candidate for a public key, between the files in front
of it and those behind it. -/
structure FirstCandidate (tree : FileTree) (directory : Path) (publicKey : PublicRecord)
    (front : List SecretFile) (file : SecretFile) (behind : List SecretFile) (key : AgentKey) :
    Prop where
  files : ∃ failure,
    KeyStore.secretDirectory tree directory = .ok ⟨front ++ file :: behind, failure⟩
  passed : ∀ other ∈ front, heldKey? publicKey.key other.content = none
  held : heldKey? publicKey.key file.content = some key

section Directory

variable {tree : FileTree} {publicKey : PublicRecord} {directory : Path}
  {listing : Listing Fault Candidate}

/-- Where there are candidates, the first is that of the first file that holds one, and the others
are found behind it. -/
theorem exists_firstCandidate
    (hmaterial : publicKey.findMaterial none = .ok (some publicKey.key))
    (hlisting : candidates tree publicKey directory = .ok listing) {first : Candidate}
    {others : List Candidate} (hitems : listing.items = first :: others) :
    ∃ front file behind key, FirstCandidate tree directory publicKey front file behind key ∧
      first = candidateOf publicKey file key ∧
      ∀ other ∈ others, ∃ later ∈ behind, ∃ held,
        heldKey? publicKey.key later.content = some held ∧
        other = candidateOf publicKey later held := by
  obtain ⟨material, files, hfound, hfiles, rfl⟩ := candidates_eq_ok hlisting
  obtain rfl : some publicKey.key = material := Except.ok.inj (hmaterial.symm.trans hfound)
  obtain ⟨listed, failure⟩ := files
  obtain ⟨front, file, behind, rfl, hfront, hfile, rfl⟩ := Listing.exists_split_of_collect hitems
  obtain ⟨key, hkey, rfl⟩ := Option.map_eq_some_iff.mp (held_of_candidate? hfile)
  refine ⟨front, file, behind, key, ⟨⟨failure, hfiles⟩, ?_, hkey⟩, rfl, ?_⟩
  · intro other hother
    exact Option.map_eq_none_iff.mp (held_of_candidate? (hfront other hother))
  · intro other hother
    obtain ⟨later, hlater, hcandidate⟩ := Listing.exists_of_mem_collect hother
    obtain ⟨held, hheld, rfl⟩ := Option.map_eq_some_iff.mp (held_of_candidate? hcandidate)
    exact ⟨later, hlater, held, hheld, rfl⟩

/-- What is found is the first candidate. -/
theorem findInDirectory_of_items (hlisting : candidates tree publicKey directory = .ok listing)
    {first : Candidate} {others : List Candidate} (hitems : listing.items = first :: others) :
    findInDirectory tree id publicKey directory = .ok first.record := by
  rw [findInDirectory, hlisting]
  simp only [Listing.head?_of_cons hitems]

/-- Without candidates, what broke the listing off is the fault, else that the key is missing. -/
theorem findInDirectory_of_nil (hlisting : candidates tree publicKey directory = .ok listing)
    (hitems : listing.items = []) :
    findInDirectory tree id publicKey directory
      = .error (listing.failure.getD (noSecretKey id publicKey directory)) := by
  rw [findInDirectory, hlisting]
  simp only [Listing.head?_of_nil hitems]
  cases listing.failure <;> rfl

/-- What is not found is not tried either: there are no candidates, and the fault is the same. -/
theorem resolveInDirectory_of_error {fault : Fault}
    (hfind : findInDirectory around.tree id publicKey directory = .error fault)
    (provider : Provider σ) (fetching : Fetching σ) :
    resolveInDirectory around id publicKey directory provider fetching
      = (.error fault, fetching) := by
  unfold resolveInDirectory
  cases hlisting : candidates around.tree publicKey directory with
  | error e =>
    rw [findInDirectory, hlisting] at hfind
    obtain rfl : e = fault := Except.error.inj hfind
    rfl
  | ok listing =>
    cases hitems : listing.items with
    | cons first others =>
      rw [findInDirectory_of_items hlisting hitems] at hfind
      cases hfind
    | nil =>
      rw [findInDirectory_of_nil hlisting hitems] at hfind
      obtain rfl := Except.error.inj hfind
      simp only [hitems, tryCandidates, Option.or_none]

end Directory

/-! ## What is found and what is resolved -/

/-- The record that is found, next to the key that is resolved: in a keyring they are one record; in
a directory the first candidate is found, and it or one behind it is unlocked. -/
inductive Foretells (around : Surroundings) (explicit : Option Path) :
    SecretRecord → Resolved → Prop where
  | keyring {path : Path} (record : SecretRecord)
      (hplace : place around explicit = .ok (.keyring path)) :
      Foretells around explicit record ⟨record, none⟩
  | directory {keybox directory : Path} {publicKey : PublicRecord} {front behind : List SecretFile}
      {file later : SecretFile} {key held : AgentKey} (ring : Transferable.Ring)
      (hplace : place around explicit = .ok (.keybox keybox directory))
      (hfirst : FirstCandidate around.tree directory publicKey front file behind key)
      (hlater : later ∈ file :: behind)
      (hheld : heldKey? publicKey.key later.content = some held) :
      Foretells around explicit (candidateOf publicKey file key).record
        ⟨(candidateOf publicKey later held).record, some ring⟩

namespace Foretells

variable {record : SecretRecord} {resolved : Resolved}

theorem publicKey_eq (hforetells : Foretells around explicit record resolved) :
    record.publicKey = resolved.record.publicKey := by
  cases hforetells <;> rfl

theorem format_eq (hforetells : Foretells around explicit record resolved) :
    record.format = resolved.record.format := by
  cases hforetells <;> rfl

end Foretells

section Keybox

variable {path directory : Path} {publicKey : PublicRecord}

theorem find_of_keybox (hplace : place around explicit = .ok (.keybox path directory))
    (hselect : selectCertificate around.tree id path = .ok publicKey) :
    find around id explicit = findInDirectory around.tree id publicKey directory := by
  rw [find_eq, hplace]
  simp only [hselect]
  rfl

theorem resolve_of_keybox (hplace : place around explicit = .ok (.keybox path directory))
    (hselect : selectCertificate around.tree id path = .ok publicKey) (provider : Provider σ)
    (fetching : Fetching σ) :
    resolve around id explicit provider fetching
      = resolveInDirectory around id publicKey directory provider fetching := by
  rw [resolve, hplace]
  simp only [hselect]

end Keybox

/-- What is not found is not resolved, whatever passphrase there is. -/
theorem resolve_of_find_error {fault : Fault} (hfind : find around id explicit = .error fault)
    (provider : Provider σ) (fetching : Fetching σ) :
    resolve around id explicit provider fetching = (.error fault, fetching) := by
  rw [find_eq] at hfind
  cases hplace : place around explicit with
  | error e =>
    rw [hplace] at hfind
    obtain rfl : e = fault := Except.error.inj hfind
    rw [resolve, hplace]
  | ok found =>
    cases found with
    | keyring path =>
      -- In a keyring both searches are one.
      rw [hplace] at hfind
      have hmissed : findInKeyring around.tree id path = .error fault := hfind
      rw [resolve, hplace]
      simp only [hmissed]
      rfl
    | keybox path directory =>
      cases hselect : selectCertificate around.tree id path with
      | error e =>
        rw [hplace] at hfind
        simp only [hselect] at hfind
        obtain rfl : e = fault := Except.error.inj hfind
        rw [resolve, hplace]
        simp only [hselect]
      | ok publicKey =>
        rw [← find_eq, find_of_keybox hplace hselect] at hfind
        rw [resolve_of_keybox hplace hselect]
        exact resolveInDirectory_of_error hfind provider fetching
    | nowhere home =>
      rw [hplace] at hfind
      obtain rfl := Except.error.inj hfind
      rw [resolve, hplace]

/-- In a directory, what is resolved is the first candidate or one behind it. -/
theorem foretells_of_resolveInDirectory {path directory : Path} {publicKey : PublicRecord}
    (hplace : place around explicit = .ok (.keybox path directory))
    (hselect : selectCertificate around.tree id path = .ok publicKey) {provider : Provider σ}
    {fetching : Fetching σ} {resolved : Resolved}
    (hresolve : (resolveInDirectory around id publicKey directory provider fetching).1
      = .ok resolved) :
    ∃ record, findInDirectory around.tree id publicKey directory = .ok record ∧
      Foretells around explicit record resolved := by
  unfold resolveInDirectory at hresolve
  split at hresolve
  · cases hresolve
  · rename_i listing hlisting
    obtain ⟨candidate, hmem, ring, rfl⟩ := exists_of_tryCandidates hresolve
    -- There are candidates, so the first of them is found.
    obtain ⟨first, others, hitems⟩ := List.exists_cons_of_ne_nil (List.ne_nil_of_mem hmem)
    obtain ⟨front, file, behind, key, hfirst, rfl, hothers⟩ :=
      exists_firstCandidate (findMaterial_of_located hselect) hlisting hitems
    refine ⟨_, findInDirectory_of_items hlisting hitems, ?_⟩
    rw [hitems] at hmem
    rcases List.mem_cons.mp hmem with rfl | hmem
    · exact .directory ring hplace hfirst List.mem_cons_self hfirst.held
    · obtain ⟨later, hlater, held, hheld, rfl⟩ := hothers candidate hmem
      exact .directory ring hplace hfirst (List.mem_cons_of_mem _ hlater) hheld

/-- What is resolved was to be found, and not behind it. -/
theorem foretells_of_resolve {provider : Provider σ} {fetching : Fetching σ} {resolved : Resolved}
    (hresolve : (resolve around id explicit provider fetching).1 = .ok resolved) :
    ∃ record, find around id explicit = .ok record ∧
      Foretells around explicit record resolved := by
  rcases resolve_eq_ok hresolve with ⟨path, record, hplace, hkeyring, rfl⟩ |
    ⟨path, directory, publicKey, hplace, hselect, hdirectory⟩
  · refine ⟨record, ?_, .keyring record hplace⟩
    rw [find_eq, hplace]
    exact hkeyring
  · rw [find_of_keybox hplace hselect]
    exact foretells_of_resolveInDirectory hplace hselect hdirectory

end Resolution

namespace Signer

open Transferable (Certification)

variable {around : Surroundings} {explicit : Option Path}

/-- A key that signs is found, by whatever name it was asked for. -/
theorem findSecret_of_sign {name : Option String} {payload : Octets} {asking : Asking}
    {signature : Certification}
    (hsign : (sign around name explicit payload asking).1 = .ok signature) :
    ∃ record, findSecret around name explicit = .ok record := by
  unfold sign at hsign
  split at hsign
  · cases hsign
  · rename_i id hid
    -- Of all attempts the one that signs is enough; it resolved a key.
    obtain ⟨renewed, hattempt⟩ := attempt_of_attempts hsign
    obtain ⟨resolved, fetching, hresolve, -⟩ := resolve_of_attempt hattempt
    obtain ⟨record, hfind, -⟩ := Resolution.foretells_of_resolve (congrArg Prod.fst hresolve)
    refine ⟨record, ?_⟩
    rw [findSecret, hid]
    exact hfind

theorem canLocate_of_findSecret {name : Option String} {record : SecretRecord}
    (hfind : findSecret around name explicit = .ok record) :
    canLocate around name explicit = .ok true := by
  rw [canLocate, hfind]

end Signer

namespace Resolution

/-! ## The search without a passphrase -/

section Given

variable {wanted : Wanted} {given : Given σ} {state : σ}

/-- A passphrase without a UTF-8 form is refused, whatever there is to be found. -/
theorem resolveGiven_of_not_isEncodable (hgiven : given.isEncodable = false) :
    resolveGiven around wanted explicit given state = (.error .unencodable, state) := by
  cases given with
  | text passphrase =>
    have hnone : Octets.ofPoints? passphrase = none := by
      simpa [Given.isEncodable] using hgiven
    simp [resolveGiven, Given.fetching, hnone]
  | _ => cases hgiven

/-- One that is to be fetched is fetched by the search. -/
theorem resolveGiven_provider (fetch : Provider σ) (state : σ) :
    resolveGiven around wanted explicit (.provider fetch) state
      = ((resolveWanted around wanted explicit fetch ⟨none, state⟩).1,
          (resolveWanted around wanted explicit fetch ⟨none, state⟩).2.state) :=
  rfl

/-- Any other is handed on, and the state with it. -/
theorem exists_resolveGiven (around : Surroundings) (wanted : Wanted) (explicit : Option Path)
    (given : Given σ) (state : σ) (hgiven : given.isEncodable = true) :
    ∃ fetching : Fetching σ, fetching.state = state ∧
      resolveGiven around wanted explicit given state
        = ((resolveWanted around wanted explicit given.fetch fetching).1,
            (resolveWanted around wanted explicit given.fetch fetching).2.state) := by
  cases given with
  | nothing => exact ⟨⟨some none, state⟩, rfl, rfl⟩
  | text passphrase =>
    obtain ⟨octets, hoctets⟩ := Option.isSome_iff_exists.mp hgiven
    refine ⟨⟨some (some octets), state⟩, rfl, ?_⟩
    simp only [resolveGiven, Given.fetching, hoctets]
  | octets passphrase => exact ⟨⟨some (some passphrase), state⟩, rfl, rfl⟩
  | provider fetch => exact ⟨⟨none, state⟩, rfl, resolveGiven_provider fetch state⟩

/-- What is not found is not resolved. -/
theorem resolveGiven_of_findWanted_error {fault : Fault}
    (hfind : findWanted around wanted explicit = .error fault)
    (hgiven : given.isEncodable = true) :
    resolveGiven around wanted explicit given state = (.error fault, state) := by
  obtain ⟨fetching, rfl, hresolve⟩ :=
    exists_resolveGiven around wanted explicit given state hgiven
  rw [hresolve]
  cases hid : wanted.keyId with
  | error e =>
    rw [findWanted, hid] at hfind
    obtain rfl : e = fault := Except.error.inj hfind
    rw [resolveWanted, hid]
  | ok id =>
    rw [findWanted_of_keyId hid] at hfind
    rw [resolveWanted_of_keyId hid, resolve_of_find_error hfind]

/-- What is resolved was to be found. -/
theorem foretells_of_resolveGiven {resolved : Resolved}
    (hresolve : (resolveGiven around wanted explicit given state).1 = .ok resolved) :
    ∃ record, findWanted around wanted explicit = .ok record ∧
      Foretells around explicit record resolved := by
  cases hgiven : given.isEncodable with
  | false =>
    rw [resolveGiven_of_not_isEncodable hgiven] at hresolve
    cases hresolve
  | true =>
    obtain ⟨fetching, -, heq⟩ := exists_resolveGiven around wanted explicit given state hgiven
    rw [heq] at hresolve
    cases hid : wanted.keyId with
    | error fault =>
      rw [resolveWanted, hid] at hresolve
      cases hresolve
    | ok id =>
      rw [resolveWanted_of_keyId hid] at hresolve
      rw [findWanted_of_keyId hid]
      exact foretells_of_resolve hresolve

end Given

/-- Finding a key foretells what resolving it comes to, whatever passphrase is handed over. A fault
of the first is the outcome of the second, which then has fetched nothing; only a text without a
UTF-8 form is refused before, and whatever the first comes to. A key that the second yields is one
of a certificate, and in a format, that the first yields too: the same record of a keyring, or a
file of the directory at or behind the first candidate, which is the one found. And a key that signs
can be located. -/
theorem find_foretells_resolve (around : Surroundings) (explicit : Option Path) :
    (∀ (wanted : Wanted) (fault : Fault), findWanted around wanted explicit = .error fault →
      ∀ (σ : Type) (given : Given σ) (state : σ), given.isEncodable = true →
        resolveGiven around wanted explicit given state = (.error fault, state)) ∧
    (∀ (wanted : Wanted) (σ : Type) (given : Given σ) (state : σ), given.isEncodable = false →
      resolveGiven around wanted explicit given state = (.error .unencodable, state)) ∧
    (∀ (wanted : Wanted) (σ : Type) (given : Given σ) (state : σ) (resolved : Resolved),
      (resolveGiven around wanted explicit given state).1 = .ok resolved →
      ∃ record, findWanted around wanted explicit = .ok record ∧
        record.publicKey = resolved.record.publicKey ∧ record.format = resolved.record.format ∧
        Foretells around explicit record resolved) ∧
    ∀ (name : Option String) (payload : Octets) (asking : Signer.Asking)
      (signature : Transferable.Certification),
      (Signer.sign around name explicit payload asking).1 = .ok signature →
      Signer.canLocate around name explicit = .ok true := by
  refine ⟨?_, ?_, ?_, ?_⟩
  · intro wanted fault hfind σ given state hgiven
    exact resolveGiven_of_findWanted_error hfind hgiven
  · intro wanted σ given state hgiven
    exact resolveGiven_of_not_isEncodable hgiven
  · intro wanted σ given state resolved hresolve
    obtain ⟨record, hfind, hforetells⟩ := foretells_of_resolveGiven hresolve
    exact ⟨record, hfind, hforetells.publicKey_eq, hforetells.format_eq, hforetells⟩
  · intro name payload asking signature hsign
    obtain ⟨record, hfind⟩ := Signer.findSecret_of_sign hsign
    exact Signer.canLocate_of_findSecret hfind

/-! ## A home with files -/

open AgentKey (entry)

/-- A home with the keybox of the tiny key, and the given files in the directory. -/
def homeWith (files : List (String × Octets)) : Surroundings :=
  homeSurroundings smallHome none (homeTree
    [("pubring.kbx", .file (tinyKeybox [tinyFingerprint])),
      ("private-keys-v1.d", .directory (files.map fun (name, content) => (name, .file content)))])

/-- The keybox of the home. -/
def homeKeybox : Path := smallHome.child "pubring.kbx"

/-- The directory of the home. -/
def homeDirectory : Path := smallHome.child "private-keys-v1.d"

/-- The certificate in the keybox. -/
def homeCertificate : PublicRecord := { tinyRecord [tinyFingerprint] with source := homeKeybox }

/-- A file of the directory. -/
def homeFile : String × Octets → SecretFile
  | (name, content) => ⟨homeDirectory.child name, content⟩

theorem place_homeWith (files : List (String × Octets)) :
    place (homeWith files) none = .ok (.keybox homeKeybox homeDirectory) :=
  (place_of_home (override?_none rfl rfl) rfl).trans (placeInHome_of_keybox rfl)

theorem selectCertificate_homeWith (files : List (String × Octets)) :
    selectCertificate (homeWith files).tree tinyId homeKeybox = .ok homeCertificate := by
  -- The keybox is the same, whatever files there are.
  have hsame : selectCertificate (homeWith files).tree tinyId homeKeybox
      = selectCertificate (homeWith []).tree tinyId homeKeybox := selectCertificate_congr tinyId rfl
  rw [hsame]
  exact eq_ok_of_toOption (by decide +kernel)

theorem findMaterial_homeCertificate :
    homeCertificate.findMaterial none = .ok (some homeCertificate.key) :=
  findMaterial_of_located (selectCertificate_homeWith [])

theorem secretDirectory_homeWith {files : List (String × Octets)}
    (htidy : KeyStore.Tidy homeDirectory files) :
    KeyStore.secretDirectory (homeWith files).tree homeDirectory
      = .ok (.ofList (files.map homeFile)) :=
  KeyStore.secretDirectory_of_files rfl htidy

section Files

variable {files : List (String × Octets)} (htidy : KeyStore.Tidy homeDirectory files)
  (hfiles : ∀ file ∈ files.map homeFile,
    AgentKey.Loads file.content ∨ AgentKey.Malformed file.content)

include htidy hfiles

theorem candidates_homeWith :
    candidates (homeWith files).tree homeCertificate homeDirectory
      = .ok ⟨candidatesAmong homeCertificate (files.map homeFile), none⟩ := by
  rw [candidates, findMaterial_homeCertificate]
  simp only [secretDirectory_homeWith htidy, Listing.filterMapM, Listing.ofList,
    collect_candidate? hfiles]

/-- Finding the key looks at the first of the candidates in the home. -/
theorem find_homeWith {first : Candidate} {others : List Candidate}
    (hitems : candidatesAmong homeCertificate (files.map homeFile) = first :: others) :
    find (homeWith files) tinyId none = .ok first.record := by
  rw [find_of_keybox (place_homeWith files) (selectCertificate_homeWith files)]
  exact findInDirectory_of_items (candidates_homeWith htidy hfiles) hitems

/-- Resolving the key tries them. -/
theorem resolve_homeWith (provider : Provider σ) (fetching : Fetching σ) :
    resolve (homeWith files) tinyId none provider fetching
      = tryCandidates {} provider (noSecretKey tinyId homeCertificate homeDirectory) none none
          (candidatesAmong homeCertificate (files.map homeFile)) fetching := by
  rw [resolve_of_keybox (place_homeWith files) (selectCertificate_homeWith files),
    resolveInDirectory, candidates_homeWith htidy hfiles]
  rfl

end Files

/-- The tiny key with all its numbers, in the clear. -/
def wholeTinyKey : AgentKey where
  kind := .plain
  algorithm := Octets.ofText "rsa"
  elements := [entry .n [0x0F], entry .e [0x03], entry .d [0x03], entry .p [0x03], entry .q [0x05],
    entry .u [0x02]]

/-- Its file. -/
def wholeTinyFile : Octets :=
  Octets.ofText "(private-key (rsa (n #0F#) (e #03#) (d #03#) (p #03#) (q #05#) (u #02#)))"

theorem load_wholeTinyFile : AgentKey.load wholeTinyFile = .ok wholeTinyKey := by
  rfl

theorem heldKey?_wholeTinyFile :
    heldKey? homeCertificate.key wholeTinyFile = some wholeTinyKey :=
  heldKey?_of_load load_wholeTinyFile nofun (by decide +kernel)

/-- It is unlocked without a passphrase. -/
theorem exists_unlockFile_wholeTinyKey :
    ∃ ring, KeyStore.unlockFile wholeTinyKey homeCertificate none {} = .ok ring := by
  apply exists_eq_ok_of_toOption
  decide +kernel

/-- A file under protection, and behind it one in the clear. -/
def twoFiles : List (String × Octets) := [("a", guardedTinyFile), ("b", wholeTinyFile)]

theorem loads_twoFiles : ∀ file ∈ twoFiles.map homeFile,
    AgentKey.Loads file.content ∨ AgentKey.Malformed file.content := by
  simp only [twoFiles, List.map_cons, List.map_nil, List.forall_mem_cons, List.not_mem_nil,
    false_imp_iff, implies_true, and_true]
  exact ⟨.inl ⟨_, load_guardedTinyFile⟩, .inl ⟨_, load_wholeTinyFile⟩⟩

/-- Without a passphrase the second file is resolved. -/
theorem exists_resolve_twoFiles :
    ∃ ring, (resolve (homeWith twoFiles) tinyId none noPassphrase ⟨none, ()⟩).1
      = .ok ⟨(candidateOf homeCertificate (homeFile ("b", wholeTinyFile)) wholeTinyKey).record,
          some ring⟩ := by
  obtain ⟨ring, hring⟩ := exists_unlockFile_wholeTinyKey
  refine ⟨ring, ?_⟩
  have hfirst : candidatesAmong homeCertificate (twoFiles.map homeFile)
      = [candidateOf homeCertificate (homeFile ("a", guardedTinyFile)) guardedTinyKey]
        ++ candidateOf homeCertificate (homeFile ("b", wholeTinyFile)) wholeTinyKey :: [] := by
    have hguarded : heldKey? homeCertificate.key guardedTinyFile = some guardedTinyKey :=
      heldKey?_guardedTinyFile
    simp [candidatesAmong, twoFiles, homeFile, hguarded, heldKey?_wholeTinyFile]
  have hguarded : ∀ candidate ∈
      [candidateOf homeCertificate (homeFile ("a", guardedTinyFile)) guardedTinyKey],
      Undecrypted (candidate.unlock {} none) := by
    intro candidate hmem
    obtain rfl := List.mem_singleton.mp hmem
    have hlocked : (candidateOf homeCertificate (homeFile ("a", guardedTinyFile))
        guardedTinyKey).unlock {} none = .error AgentKey.UnprotectError.passphraseRequired.fault :=
      unlock_candidateOf findMaterial_homeCertificate _ rfl
    exact ⟨_, hlocked⟩
  have hwhole : (candidateOf homeCertificate (homeFile ("b", wholeTinyFile)) wholeTinyKey).unlock
      {} none = .ok ring := hring
  have hdecides : ¬ Undecrypted ((candidateOf homeCertificate (homeFile ("b", wholeTinyFile))
      wholeTinyKey).unlock {} none) := by
    rw [hwhole]
    rintro ⟨reason, hreason⟩
    cases hreason
  rw [resolve_homeWith (by decide) loads_twoFiles, hfirst,
    tryCandidates_decided hguarded hdecides none fun _ _ => rfl, hwhole]
  rfl

/-! ## What is found and what is not -/

/-- In a home without key files nothing is found. -/
theorem findWanted_homeWith_nil :
    findWanted (homeWith []) (.read tinyId) none
      = .error (noSecretKey tinyId homeCertificate homeDirectory) := by
  rw [findWanted_of_keyId rfl,
    find_of_keybox (place_homeWith []) (selectCertificate_homeWith [])]
  exact findInDirectory_of_nil (candidates_homeWith (by decide) (List.forall_mem_nil _)) rfl

/-- Where the first file is not decrypted it is found, and the second is resolved; in an empty
directory neither comes to anything, with the same fault, unless the passphrase is refused. A key
that makes a signature is located. -/
theorem find_foretells_resolve_small :
    (∃ resolved,
      (resolveGiven (homeWith twoFiles) (.text Signer.tinyName) none (.provider noPassphrase) ()).1
        = .ok resolved ∧
      ∃ record, findWanted (homeWith twoFiles) (.text Signer.tinyName) none = .ok record ∧
        Foretells (homeWith twoFiles) none record resolved) ∧
    (findWanted (homeWith []) (.read tinyId) none
        = .error (noSecretKey tinyId homeCertificate homeDirectory) ∧
      resolveGiven (homeWith []) (.read tinyId) none (.text (Text.points "no")) ()
        = (.error (noSecretKey tinyId homeCertificate homeDirectory), ()) ∧
      resolveGiven (homeWith []) (.read tinyId) none (.text [.surrogate 0]) ()
        = (.error .unencodable, ())) ∧
    (∃ signature,
      (Signer.sign Signer.curveSurroundings (some Signer.curveName) none [] Signer.noAnswer).1
        = .ok signature) ∧
    Signer.canLocate Signer.curveSurroundings (some Signer.curveName) none = .ok true := by
  refine ⟨?_, ?_, ?_⟩
  · obtain ⟨ring, hring⟩ := exists_resolve_twoFiles
    have hid : (Wanted.text Signer.tinyName).keyId = .ok tinyId := Signer.ofText_tinyName
    rw [← resolveWanted_of_keyId hid] at hring
    have hgiven : ∃ resolved, (resolveGiven (homeWith twoFiles) (.text Signer.tinyName) none
        (.provider noPassphrase) ()).1 = .ok resolved := by
      simp only [resolveGiven_provider]
      exact ⟨_, hring⟩
    obtain ⟨resolved, hresolved⟩ := hgiven
    obtain ⟨-, -, hforetells, -⟩ := find_foretells_resolve (homeWith twoFiles) none
    obtain ⟨record, hfind, -, -, hrecord⟩ := hforetells _ _ _ _ _ hresolved
    exact ⟨resolved, hresolved, record, hfind, hrecord⟩
  · obtain ⟨hfails, hrefused, -, -⟩ := find_foretells_resolve (homeWith []) none
    exact ⟨findWanted_homeWith_nil,
      hfails _ _ findWanted_homeWith_nil Unit (.text (Text.points "no")) ()
        (by simp [Given.isEncodable]),
      hrefused _ Unit (.text [.surrogate 0]) () rfl⟩
  · obtain ⟨signature, hsign⟩ := Signer.exists_sign_curveRing
    obtain ⟨-, -, -, hlocated⟩ := find_foretells_resolve Signer.curveSurroundings none
    exact ⟨⟨signature, hsign⟩, hlocated _ _ _ _ hsign⟩

/-- Finding does not foretell what becomes of a passphrase with a surrogate in it. -/
theorem not_forall_resolve_of_find_error :
    ¬ ∀ (around : Surroundings) (explicit : Option Path) (wanted : Wanted) (fault : Fault),
      findWanted around wanted explicit = .error fault →
      ∀ (given : Given Unit), (resolveGiven around wanted explicit given ()).1 = .error fault := by
  intro hforetells
  have hsurrogate := hforetells _ _ _ _ findWanted_homeWith_nil (.text [.surrogate 0])
  cases Except.error.inj hsurrogate

end Resolution

end CommitSeal
