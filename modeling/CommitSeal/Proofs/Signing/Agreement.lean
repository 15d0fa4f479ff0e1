import CommitSeal.Proofs.Resolution.Precedence
import CommitSeal.Proofs.Resolution.Scan
import CommitSeal.Signer

/-!
# The key that signs is the key that verifies

A key to sign with and a certificate to verify with are looked for by two searches, which go through
the stores by themselves. The first settles on a place (`Resolution.place`), and what it finds there
belongs to a public key (`Resolution.Selects`). If the place is one that the second looks into too,
then it finds that public key (`Signer.findPublic_of_selects`).

It does unless a keyring is configured: the first search prefers the keyring to the keybox, the
second the keybox to the keyring. Even where there is no keybox they differ in two ways. The path of
a configured keyring is expanded twice by the first search and once by the second
(`Signer.findPublic_misses_expanded`), and the second needs a home to look for the keybox in.
-/

namespace CommitSeal

namespace Resolution

variable {σ : Type} {around : Surroundings} {explicit : Option Path} {id : KeyId}

/-! ## The public key of a secret key -/

/-- The public key that an identifier selects in a place. -/
inductive Selects (tree : FileTree) (id : KeyId) : Place → PublicRecord → Prop where
  | keyring {path : Path} {record : SecretRecord}
      (hfind : findInKeyring tree id path = .ok record) :
      Selects tree id (.keyring path) record.publicKey
  | keybox {path directory : Path} {publicKey : PublicRecord}
      (hselect : selectCertificate tree id path = .ok publicKey) :
      Selects tree id (.keybox path directory) publicKey

/-- All candidates for a public key belong to it. -/
theorem publicKey_of_mem_candidates {tree : FileTree} {publicKey : PublicRecord} {directory : Path}
    {listing : Listing Fault Candidate}
    (hlisting : candidates tree publicKey directory = .ok listing) {candidate : Candidate}
    (hmem : candidate ∈ listing.items) :
    candidate.record.publicKey = publicKey := by
  obtain ⟨material, files, -, -, rfl⟩ := candidates_eq_ok hlisting
  obtain ⟨file, -, hcandidate⟩ := Listing.exists_of_mem_collect hmem
  obtain ⟨key, rfl⟩ := exists_of_candidate?_eq_some hcandidate
  rfl

theorem publicKey_of_findInDirectory {tree : FileTree} {publicKey : PublicRecord}
    {directory : Path} {record : SecretRecord}
    (hfind : findInDirectory tree id publicKey directory = .ok record) :
    record.publicKey = publicKey := by
  unfold findInDirectory at hfind
  split at hfind
  · cases hfind
  · rename_i listing hlisting
    split at hfind
    · cases hfind
    · cases hfind
    · rename_i candidate hhead
      rw [← Except.ok.inj hfind]
      exact publicKey_of_mem_candidates hlisting (Listing.of_find?_eq_some hhead).1

/-- What comes of candidates is one of them, unlocked. -/
theorem exists_of_tryCandidates {context : AgentKey.Context} {provider : Provider σ}
    {missing : Fault} {failure first : Option Fault} {candidates : List Candidate}
    {fetching : Fetching σ} {resolved : Resolved}
    (htry : (tryCandidates context provider missing failure first candidates fetching).1
      = .ok resolved) :
    ∃ candidate ∈ candidates, ∃ ring, resolved = ⟨candidate.record, some ring⟩ := by
  induction candidates generalizing first fetching with
  | nil => cases htry
  | cons candidate rest ih =>
    unfold tryCandidates at htry
    split at htry
    · cases htry
    · split at htry
      · rename_i ring hring
        exact ⟨candidate, List.mem_cons_self, ring, (Except.ok.inj htry).symm⟩
      · -- It is not decrypted, and those behind it are tried.
        obtain ⟨later, hlater, hresolved⟩ := ih htry
        exact ⟨later, List.mem_cons_of_mem _ hlater, hresolved⟩
      · cases htry

theorem publicKey_of_resolveInDirectory {publicKey : PublicRecord} {directory : Path}
    {provider : Provider σ} {fetching : Fetching σ} {resolved : Resolved}
    (hresolve : (resolveInDirectory around id publicKey directory provider fetching).1
      = .ok resolved) : resolved.record.publicKey = publicKey := by
  unfold resolveInDirectory at hresolve
  split at hresolve
  · cases hresolve
  · rename_i listing hlisting
    obtain ⟨candidate, hmem, ring, rfl⟩ := exists_of_tryCandidates hresolve
    exact publicKey_of_mem_candidates hlisting hmem

/-- A key that is found is found in a keyring, or in the directory of a home with a keybox. -/
theorem find_eq_ok {record : SecretRecord} (hfind : find around id explicit = .ok record) :
    (∃ path, place around explicit = .ok (.keyring path) ∧
        findInKeyring around.tree id path = .ok record) ∨
      ∃ path directory publicKey, place around explicit = .ok (.keybox path directory) ∧
        selectCertificate around.tree id path = .ok publicKey ∧
        findInDirectory around.tree id publicKey directory = .ok record := by
  rw [find_eq] at hfind
  cases hplace : place around explicit with
  | error fault =>
    rw [hplace] at hfind
    cases hfind
  | ok found =>
    rw [hplace] at hfind
    cases found with
    | keyring path => exact .inl ⟨path, rfl, hfind⟩
    | keybox path directory =>
      cases hselect : selectCertificate around.tree id path with
      | error fault =>
        simp only [hselect] at hfind
        cases hfind
      | ok publicKey =>
        simp only [hselect] at hfind
        exact .inr ⟨path, directory, publicKey, rfl, hselect, hfind⟩
    | nowhere home => cases hfind

/-- So is a key that is resolved, whatever passphrase is fetched. -/
theorem resolve_eq_ok {provider : Provider σ} {fetching : Fetching σ} {resolved : Resolved}
    (hresolve : (resolve around id explicit provider fetching).1 = .ok resolved) :
    (∃ path record, place around explicit = .ok (.keyring path) ∧
        findInKeyring around.tree id path = .ok record ∧ resolved = ⟨record, none⟩) ∨
      ∃ path directory publicKey, place around explicit = .ok (.keybox path directory) ∧
        selectCertificate around.tree id path = .ok publicKey ∧
        (resolveInDirectory around id publicKey directory provider fetching).1 = .ok resolved := by
  unfold resolve at hresolve
  cases hplace : place around explicit with
  | error fault =>
    rw [hplace] at hresolve
    cases hresolve
  | ok found =>
    rw [hplace] at hresolve
    cases found with
    | keyring path =>
      cases hfind : findInKeyring around.tree id path with
      | error fault =>
        simp only [hfind] at hresolve
        cases hresolve
      | ok record =>
        simp only [hfind] at hresolve
        exact .inl ⟨path, record, rfl, hfind, (Except.ok.inj hresolve).symm⟩
    | keybox path directory =>
      cases hselect : selectCertificate around.tree id path with
      | error fault =>
        simp only [hselect] at hresolve
        cases hresolve
      | ok publicKey =>
        simp only [hselect] at hresolve
        exact .inr ⟨path, directory, publicKey, rfl, hselect, hresolve⟩
    | nowhere home => cases hresolve

/-- A key that is found belongs to the public key that is selected where it is looked for. -/
theorem selects_of_find {record : SecretRecord} (hfind : find around id explicit = .ok record) :
    ∃ found, place around explicit = .ok found ∧
      Selects around.tree id found record.publicKey := by
  rcases find_eq_ok hfind with ⟨path, hplace, hkeyring⟩ |
    ⟨path, directory, publicKey, hplace, hselect, hdirectory⟩
  · exact ⟨_, hplace, .keyring hkeyring⟩
  · refine ⟨_, hplace, ?_⟩
    rw [publicKey_of_findInDirectory hdirectory]
    exact .keybox hselect

/-- So does a key that is resolved. -/
theorem selects_of_resolve {provider : Provider σ} {fetching : Fetching σ} {resolved : Resolved}
    (hresolve : (resolve around id explicit provider fetching).1 = .ok resolved) :
    ∃ found, place around explicit = .ok found ∧
      Selects around.tree id found resolved.record.publicKey := by
  rcases resolve_eq_ok hresolve with ⟨path, record, hplace, hkeyring, rfl⟩ |
    ⟨path, directory, publicKey, hplace, hselect, hdirectory⟩
  · exact ⟨_, hplace, .keyring hkeyring⟩
  · refine ⟨_, hplace, ?_⟩
    rw [publicKey_of_resolveInDirectory hdirectory]
    exact .keybox hselect

end Resolution

namespace Signer

open Resolution (Place Selects Resolved Provider Fetching place override? selectCertificate
  findInKeyring findInKeybox)
open Transferable (Certification)

variable {around : Surroundings} {id : KeyId} {name : String}

/-! ## Looking up a certificate -/

theorem findPublic_of_keybox {keybox : Path} (hid : KeyId.ofText name = .ok id)
    (hkeybox : around.settings.keyboxPath around.environment = .ok keybox)
    (hfile : KeyStore.isFile around.tree keybox = .ok true) :
    findPublic around name = findInKeybox around.tree id keybox := by
  unfold findPublic
  rw [hid, hkeybox]
  show (KeyStore.isFile around.tree keybox >>= _) = _
  rw [hfile]
  rfl

/-- Without a keybox the keyring is looked into, the configured one or that in the home. -/
theorem findPublic_of_no_keybox {keybox path : Path} (hid : KeyId.ofText name = .ok id)
    (hkeybox : around.settings.keyboxPath around.environment = .ok keybox)
    (hfile : KeyStore.isFile around.tree keybox = .ok false)
    (hpath : around.settings.override around.environment = .ok (some path) ∨
      around.settings.override around.environment = .ok none ∧
        around.settings.keyringPath around.environment = .ok path) :
    findPublic around name = findPublicInKeyring around.tree id path := by
  unfold findPublic
  rw [hid, hkeybox]
  show (KeyStore.isFile around.tree keybox >>= _) = _
  rw [hfile]
  rcases hpath with hconfigured | ⟨hnone, hkeyring⟩
  · rw [hconfigured]
    rfl
  · rw [hnone, hkeyring]
    rfl

theorem findInKeybox_of_selectCertificate {tree : FileTree} {path : Path}
    {publicKey : PublicRecord} (hselect : selectCertificate tree id path = .ok publicKey) :
    findInKeybox tree id path = .ok (some publicKey) := by
  unfold selectCertificate at hselect
  split at hselect
  · cases hselect
  · cases hselect
  · rename_i record hfind
    rw [hfind, Except.ok.inj hselect]

/-- A keyring with the secret key that an identifier names is there, and yields its public key. -/
theorem findPublicInKeyring_of_findInKeyring {tree : FileTree} {path : Path}
    {record : SecretRecord} (hfind : findInKeyring tree id path = .ok record) :
    findPublicInKeyring tree id path = .ok (some record.publicKey) := by
  unfold findInKeyring at hfind
  split at hfind
  · cases hfind
  · rename_i records hrecords
    split at hfind
    · cases hfind
    · cases hfind
    · rename_i found hfound
      rw [← Except.ok.inj hfind]
      -- What was read is there, so that the keyring is not passed over.
      have hfile : KeyStore.isFile tree path = .ok true := by
        rw [KeyStore.isFile_eq_true_iff]
        cases hread : tree.read path with
        | ok content => exact ⟨content, rfl⟩
        | error e =>
          rw [KeyStore.keyring, KeyStore.readKeyring, hread] at hrecords
          cases e <;> cases hrecords
      unfold findPublicInKeyring
      rw [hfile]
      show (KeyStore.keyring tree path >>= _) = _
      rw [hrecords]
      show (records.find? _ >>= _) = _
      rw [hfound]
      rfl

theorem override?_eq_some {path : Path} (hoverride : override? around none = .ok (some path)) :
    ∃ configured, around.settings.override around.environment = .ok (some configured) ∧
      around.environment.expand configured = .ok path := by
  unfold override? at hoverride
  simp only at hoverride
  split at hoverride
  · cases hoverride
  · cases hoverride
  · rename_i configured hconfigured
    refine ⟨configured, hconfigured, ?_⟩
    cases hexpand : around.environment.expand configured with
    | error fault =>
      rw [hexpand] at hoverride
      cases hoverride
    | ok expanded =>
      rw [hexpand] at hoverride
      cases hoverride
      rfl

/-- The certificate that is looked up is that of the public key which is selected where a secret key
is looked for: if no keyring is configured, or there is no keybox and expanding the path of the
keyring once is enough. -/
theorem findPublic_of_selects (hid : KeyId.ofText name = .ok id)
    (hlayout : around.settings.secretKeyPath = none ∨
      ∃ keybox, around.settings.keyboxPath around.environment = .ok keybox ∧
        KeyStore.isFile around.tree keybox = .ok false)
    (hexpanded : ∀ path, around.settings.override around.environment = .ok (some path) →
      around.environment.expand path = .ok path)
    {found : Place} (hplace : place around none = .ok found) {publicKey : PublicRecord}
    (hselects : Selects around.tree id found publicKey) :
    findPublic around name = .ok (some publicKey) := by
  rcases Resolution.place_eq_ok hplace with ⟨path, hoverride, rfl⟩ | ⟨hnone, home, hhome, hin⟩
  · -- A keyring is configured, so there is no keybox.
    obtain ⟨configured, hconfigured, hexpand⟩ := override?_eq_some hoverride
    obtain rfl : configured = path :=
      Except.ok.inj ((hexpanded configured hconfigured).symm.trans hexpand)
    rcases hlayout with hunset | ⟨keybox, hkeybox, hfile⟩
    · rw [Resolution.override?_none rfl hunset] at hoverride
      cases hoverride
    · cases hselects with
      | keyring hfind =>
        rw [findPublic_of_no_keybox hid hkeybox hfile (.inl hconfigured)]
        exact findPublicInKeyring_of_findInKeyring hfind
  · -- None is, and both searches go by the home.
    have hunset : around.settings.secretKeyPath = none :=
      Classical.byContradiction fun hset => Resolution.override?_ne_none (.inr hset) hnone
    have hconfigured : around.settings.override around.environment = .ok none := by
      rw [Settings.override, hunset]
    have hkeybox : around.settings.keyboxPath around.environment
        = .ok (home.child "pubring.kbx") := by
      rw [Settings.keyboxPath, hhome]
      rfl
    have hkeyring : around.settings.keyringPath around.environment
        = .ok (home.child "secring.gpg") := by
      rw [Settings.keyringPath, hhome]
      rfl
    rcases Resolution.placeInHome_eq_ok hin with ⟨hfile, rfl⟩ | ⟨hfile, rfl | rfl⟩
    · cases hselects with
      | keybox hselect =>
        rw [findPublic_of_keybox hid hkeybox hfile]
        exact findInKeybox_of_selectCertificate hselect
    · cases hselects with
      | keyring hfind =>
        rw [findPublic_of_no_keybox hid hkeybox hfile (.inr ⟨hconfigured, hkeyring⟩)]
        exact findPublicInKeyring_of_findInKeyring hfind
    · cases hselects

/-! ## The key of a signature -/

/-- A resolved key makes a signature, in one of the attempts to sign a payload. -/
def Makes (around : Surroundings) (id : KeyId) (payload : Octets) (resolved : Resolved)
    (signature : Certification) : Prop :=
  ∃ asking fetching,
    Resolution.resolve around id none Asking.ask ⟨none, asking⟩ = (.ok resolved, fetching) ∧
    (signResolved around payload resolved fetching.state).1 = .ok signature

/-- A round that ends with a signature is one whose attempt made it. -/
theorem attempt_of_round {explicit : Option Path} {payload : Octets} {asking after : Asking}
    {signature : Certification}
    (hround : round around id explicit payload asking = .ended (.ok signature) after) :
    (attempt around id explicit payload asking.renew).1 = .ok signature := by
  unfold round at hround
  split at hround
  · rename_i made attempted hattempt
    rw [hattempt]
    split at hround
    · cases hround
    · cases hround
      rfl
  · split at hround
    · cases hround
    · split at hround <;> cases hround

/-- However many rounds it takes: a signature is made in one attempt. -/
theorem attempt_of_attempts {explicit : Option Path} {payload : Octets} {fuel : Nat}
    {asking : Asking} {signature : Certification}
    (hattempts : (attempts around id explicit payload fuel asking).1 = .ok signature) :
    ∃ renewed, (attempt around id explicit payload renewed).1 = .ok signature := by
  induction fuel generalizing asking with
  | zero => cases hattempts
  | succ fuel ih =>
    -- A round that another follows leaves no signature behind; the last one made it.
    unfold attempts at hattempts
    split at hattempts
    · exact ih hattempts
    · rename_i answer after hround
      obtain rfl : answer = .ok signature := hattempts
      exact ⟨_, attempt_of_round hround⟩

/-- An attempt that makes a signature resolves a key first. -/
theorem resolve_of_attempt {explicit : Option Path} {payload : Octets} {asking : Asking}
    {signature : Certification}
    (hattempt : (attempt around id explicit payload asking).1 = .ok signature) :
    ∃ resolved fetching,
      Resolution.resolve around id explicit Asking.ask ⟨none, asking⟩ = (.ok resolved, fetching) ∧
      (signResolved around payload resolved fetching.state).1 = .ok signature := by
  unfold attempt at hattempt
  split at hattempt
  · cases hattempt
  · rename_i resolved fetching hresolve
    exact ⟨resolved, fetching, hresolve, hattempt⟩

/-- A signature is made by a resolved key. -/
theorem exists_of_attempts {payload : Octets} {fuel : Nat} {asking : Asking}
    {signature : Certification}
    (hattempts : (attempts around id none payload fuel asking).1 = .ok signature) :
    ∃ resolved, Makes around id payload resolved signature := by
  obtain ⟨renewed, hattempt⟩ := attempt_of_attempts hattempts
  obtain ⟨resolved, fetching, hresolve, hsigned⟩ := resolve_of_attempt hattempt
  exact ⟨resolved, renewed, fetching, hresolve, hsigned⟩

/-- A text that is an identifier stands for itself. -/
theorem keyIdOf_of_ofText (hid : KeyId.ofText name = .ok id) :
    keyIdOf around (some name) = .ok id := by
  -- Neither the word for the configured key nor the empty text is an identifier.
  have hne : ∀ other, (KeyId.ofText other).toOption.isSome = false → name ≠ other := by
    rintro other hother rfl
    rw [hid] at hother
    cases hother
  have hdefault : name ≠ defaultName := hne _ (by decide +kernel)
  have hempty : name ≠ "" := hne _ (by decide +kernel)
  unfold keyIdOf keyName
  simpa only [if_neg hdefault, Option.getD_some, Except.bind] using hid

/-- The key that is found for an identifier, or resolved with whatever passphrase, belongs to the
certificate that is looked up for it: if no keyring is configured, or there is no keybox and
expanding the path of the keyring once is enough. So a signature is checked against the certificate
of the key that made it, whatever is signed and whatever is checked. -/
theorem findPublic_agrees (around : Surroundings) {name : String} {id : KeyId}
    (hid : KeyId.ofText name = .ok id)
    (hlayout : around.settings.secretKeyPath = none ∨
      ∃ keybox, around.settings.keyboxPath around.environment = .ok keybox ∧
        KeyStore.isFile around.tree keybox = .ok false)
    (hexpanded : ∀ path, around.settings.override around.environment = .ok (some path) →
      around.environment.expand path = .ok path) :
    (∀ record, Resolution.find around id none = .ok record →
      findPublic around name = .ok (some record.publicKey)) ∧
    (∀ (σ : Type) (provider : Provider σ) (fetching : Fetching σ) (resolved : Resolved),
      (Resolution.resolve around id none provider fetching).1 = .ok resolved →
      findPublic around name = .ok (some resolved.record.publicKey)) ∧
    ∀ (payload : Octets) (asking : Asking) (signature : Certification),
      (sign around (some name) none payload asking).1 = .ok signature →
      ∃ resolved, Makes around id payload resolved signature ∧
        ∀ (checked : Octets) (text : String), verify around name checked text
          = .ok (verifyRecord around.now text resolved.record.publicKey checked) := by
  have hresolved : ∀ (σ : Type) (provider : Provider σ) (fetching : Fetching σ)
      (resolved : Resolved),
      (Resolution.resolve around id none provider fetching).1 = .ok resolved →
      findPublic around name = .ok (some resolved.record.publicKey) := by
    intro σ provider fetching resolved hresolve
    obtain ⟨found, hplace, hselects⟩ := Resolution.selects_of_resolve hresolve
    exact findPublic_of_selects hid hlayout hexpanded hplace hselects
  refine ⟨?_, hresolved, ?_⟩
  · intro record hfind
    obtain ⟨found, hplace, hselects⟩ := Resolution.selects_of_find hfind
    exact findPublic_of_selects hid hlayout hexpanded hplace hselects
  · intro payload asking signature hsign
    rw [sign, keyIdOf_of_ofText hid] at hsign
    obtain ⟨resolved, asking, fetching, hresolve, hsigned⟩ := exists_of_attempts hsign
    refine ⟨resolved, ⟨asking, fetching, hresolve, hsigned⟩, ?_⟩
    have hpublic := hresolved Asking Asking.ask ⟨none, asking⟩ resolved (congrArg Prod.fst hresolve)
    intro checked text
    unfold verify
    rw [hpublic]

/-! ## A small keyring -/

/-- A keyring with the tiny key, its secret part in the clear. -/
def tinyRing : Octets :=
  [0xC5, 0x1B] ++ Resolution.tinyCertificate.drop 2
    ++ [0x00, 0x00, 0x02, 0x03, 0x00, 0x02, 0x03, 0x00, 0x03, 0x05, 0x00, 0x02, 0x02, 0x00, 0x16]

/-- The record of the key in a keyring at a path. -/
def tinyRingRecord (path : Path) : SecretRecord where
  publicKey := { Resolution.tinyRecord [Resolution.tinyFingerprint] with source := path }
  format := .keyring
  material := tinyRing
  source := path
  isProtected := false

/-- The identifier of the key, as it is written. -/
def tinyName : String := "18F03ACF8F363F35"

theorem ofText_tinyName : KeyId.ofText tinyName = .ok Resolution.tinyId := by
  rfl

/-- A configured keyring next to an empty home. -/
def ringSurroundings : Surroundings :=
  Resolution.homeSurroundings Resolution.smallHome (some (Path.here.child "ring"))
    (.directory [("ring", .file tinyRing), ("home", .directory [])])

/-- A home with a keybox and a file for the key in it. -/
def keyboxSurroundings : Surroundings :=
  Resolution.homeSurroundings Resolution.smallHome none (Resolution.homeTree
    [("pubring.kbx", .file (Resolution.tinyKeybox [Resolution.tinyFingerprint])),
      ("private-keys-v1.d", .directory [("a", .file Resolution.smallKeyFile)])])

/-- The record of the key in the home. -/
def keyboxRecord : SecretRecord where
  publicKey := { Resolution.tinyRecord [Resolution.tinyFingerprint] with
    source := Resolution.smallHome.child "pubring.kbx" }
  format := .agent
  material := Resolution.smallKeyFile
  source := (Resolution.smallHome.child "private-keys-v1.d").child "a"
  isProtected := false

/-! ## A key that signs -/

/-- A keyring with a key on a curve. -/
def curveRing : Octets :=
  -- The key, and its secret part in the clear.
  [0xC5, 0x58, 0x04, 0x5F, 0x5E, 0x10, 0x00, 0x16, 0x09, 0x2B, 0x06, 0x01, 0x04, 0x01, 0xDA,
    0x47, 0x0F, 0x01, 0x01, 0x07, 0x40]
    ++ Octets.ofNat 32 0xED75ADF92762301247705BFB51761F4E66D7747C529CC3A38CFD0DDCB056FC9C
    ++ [0x00, 0x01, 0x00]
    ++ Octets.ofNat 32 0x8ED3F6AD685B959EAD7022518E1AF76CD816F8E8EC7CCDDA1ED4018E8F2223F8
    ++ [0x11, 0xC0]
  -- Its user.
    ++ [0xCD, 0x14] ++ Octets.ofText "Test <t@example.org>"
  -- Its signature on the user, which says that it is meant for signing.
    ++ [0xC2, 0x3B, 0x04, 0x13, 0x16, 0x08, 0x00, 0x20, 0x05, 0x02, 0x5F, 0x5E, 0x10, 0x0A, 0x02,
      0x1B, 0x03, 0x16, 0x21, 0x04, 0xDC, 0xDD, 0xD3, 0xF6, 0xF7, 0xF6, 0xC4, 0xB9, 0x67, 0x13,
      0x41, 0x72, 0x2F, 0x69, 0x1A, 0x5D, 0x78, 0xD4, 0x05, 0x1D, 0x00, 0x0A, 0x09, 0x10, 0x2F,
      0x69, 0x1A, 0x5D, 0x78, 0xD4, 0x05, 0x1D, 0xAB, 0xCD, 0x00, 0x0D, 0x12, 0x34, 0x00, 0x07,
      0x77]

/-- The identifier of the key, as it is written. -/
def curveName : String := "2F691A5D78D4051D"

/-- The identifier as it is read. -/
def curveId : KeyId where
  digits := ['2', 'F', '6', '9', '1', 'A', '5', 'D', '7', '8', 'D', '4', '0', '5', '1', 'D']
  length_ge := by decide
  length_le := by decide
  allDigits := List.all_eq_true.mp (by decide)

theorem ofText_curveName : KeyId.ofText curveName = .ok curveId := by
  rfl

/-- A configured keyring with the key. -/
def curveSurroundings : Surroundings :=
  Resolution.homeSurroundings Resolution.smallHome (some (Path.here.child "ring"))
    (.directory [("ring", .file curveRing), ("home", .directory [])])

/-- A source that has no passphrase. -/
def noAnswer : Asking where
  coordinator := .start 1
  credentials.source := .fixed none

theorem exists_sign_curveRing :
    ∃ signature, (sign curveSurroundings (some curveName) none [] noAnswer).1
      = .ok signature := by
  apply Resolution.exists_eq_ok_of_toOption
  decide +kernel

/-- In surroundings with a configured keyring the path of it is expanded already. -/
theorem expand_ring {tree : FileTree} {path : Path}
    (hpath : (Resolution.homeSurroundings Resolution.smallHome (some (Path.here.child "ring"))
      tree).settings.override {} = .ok (some path)) :
    Environment.expand {} path = .ok path := by
  obtain rfl : Path.here.child "ring" = path := Option.some.inj (Except.ok.inj hpath)
  rfl

/-- Of a key in a configured keyring, found or resolved, and of one in a file that belongs to a
keybox, the certificate is found too. What a key in a keyring signs is checked against its
certificate. -/
theorem findPublic_agrees_small :
    KeyId.ofText tinyName = .ok Resolution.tinyId ∧
    (Resolution.find ringSurroundings Resolution.tinyId none
        = .ok (tinyRingRecord (Path.here.child "ring")) ∧
      (Resolution.resolve ringSurroundings Resolution.tinyId none
          (fun _ state => (.ok none, state)) ⟨none, ()⟩).1
        = .ok ⟨tinyRingRecord (Path.here.child "ring"), none⟩ ∧
      findPublic ringSurroundings tinyName
        = .ok (some (tinyRingRecord (Path.here.child "ring")).publicKey)) ∧
    (Resolution.find keyboxSurroundings Resolution.tinyId none = .ok keyboxRecord ∧
      findPublic keyboxSurroundings tinyName = .ok (some keyboxRecord.publicKey)) ∧
    ∃ signature, (sign curveSurroundings (some curveName) none [] noAnswer).1 = .ok signature ∧
      ∃ resolved, Makes curveSurroundings curveId [] resolved signature ∧
        ∀ (checked : Octets) (text : String), verify curveSurroundings curveName checked text
          = .ok (verifyRecord curveSurroundings.now text resolved.record.publicKey checked) := by
  have hplace : place ringSurroundings none = .ok (.keyring (Path.here.child "ring")) :=
    Resolution.place_of_override rfl
  have hring : findInKeyring ringSurroundings.tree Resolution.tinyId (Path.here.child "ring")
      = .ok (tinyRingRecord (Path.here.child "ring")) :=
    Resolution.eq_ok_of_toOption (by decide +kernel)
  have hfind : Resolution.find ringSurroundings Resolution.tinyId none
      = .ok (tinyRingRecord (Path.here.child "ring")) := by
    rw [Resolution.find_eq, hplace]
    exact hring
  have hresolve : (Resolution.resolve ringSurroundings Resolution.tinyId none
      (fun _ state => (.ok none, state)) ⟨none, ()⟩).1
        = .ok ⟨tinyRingRecord (Path.here.child "ring"), none⟩ := by
    rw [Resolution.resolve, hplace]
    simp only [hring]
    rfl
  have hkeybox : Resolution.find keyboxSurroundings Resolution.tinyId none = .ok keyboxRecord :=
    Resolution.eq_ok_of_toOption (by decide +kernel)
  obtain ⟨signature, hsign⟩ := exists_sign_curveRing
  obtain ⟨-, hagrees, -⟩ := findPublic_agrees ringSurroundings ofText_tinyName
    (.inr ⟨Resolution.smallHome.child "pubring.kbx", rfl, rfl⟩) fun _ => expand_ring
  obtain ⟨hagrees', -, -⟩ := findPublic_agrees keyboxSurroundings ofText_tinyName (.inl rfl) nofun
  obtain ⟨-, -, hsigned⟩ := findPublic_agrees curveSurroundings ofText_curveName
    (.inr ⟨Resolution.smallHome.child "pubring.kbx", rfl, rfl⟩) fun _ => expand_ring
  exact ⟨ofText_tinyName, ⟨hfind, hresolve, hagrees _ _ _ _ hresolve⟩, ⟨hkeybox,
    hagrees' _ hkeybox⟩, signature, hsign, hsigned _ _ _ hsign⟩

/-! ## A keyring that is expanded twice -/

/-- A home directory below one that is named like a tilde, and a keyring in it. -/
def tildeSurroundings : Surroundings where
  tree := .directory [("~", .directory [("x", .directory [("x", .directory
    [("ring", .file tinyRing)])])])]
  environment := { bindings := [("HOME", "./~/x")] }
  settings := { gnupgHome := some (Path.here.child "home")
                secretKeyPath := some ((Path.here.child "~").child "ring") }
  now := 0

/-- Where the home directory is itself below a tilde, the two searches go to different keyrings: a
secret key is found, and no certificate. -/
theorem findPublic_misses_expanded :
    ¬ ∀ (around : Surroundings) (name : String) (id : KeyId) (record : SecretRecord),
      KeyId.ofText name = .ok id →
      (around.settings.secretKeyPath = none ∨
        ∀ keybox, around.settings.keyboxPath around.environment = .ok keybox →
          KeyStore.isFile around.tree keybox ≠ .ok true) →
      Resolution.find around id none = .ok record →
      findPublic around name = .ok (some record.publicKey) := by
  intro hall
  have hfind : Resolution.find tildeSurroundings Resolution.tinyId none
      = .ok (tinyRingRecord ⟨.relative, ["~", "x", "x", "ring"]⟩) :=
    Resolution.eq_ok_of_toOption (by decide +kernel)
  have hmissed : findPublic tildeSurroundings tinyName = .ok none := rfl
  have hfound := hall tildeSurroundings tinyName Resolution.tinyId _ ofText_tinyName
    (.inr fun keybox hkeybox => by cases hkeybox; nofun) hfind
  rw [hmissed] at hfound
  cases hfound

end Signer

end CommitSeal
