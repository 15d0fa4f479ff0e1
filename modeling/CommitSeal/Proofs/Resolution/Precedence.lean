import CommitSeal.Proofs.KeyStore.Lookup
import CommitSeal.Proofs.KeyStore.SecretDirectory

/-!
# One key store decides

Of the places where a secret key can be, a resolution looks into one only: a keyring that is passed
or configured, else the keybox with the secret key directory, else the keyring in the home. Whatever
comes of it, the others are of no account, so that a search that fails in one place is not continued
in another.

That is a statement about two trees. If they agree on the place that is looked into
(`Resolution.SameStore`), then the search has the same outcome in both, success or failure, and asks
for the same passphrases (`Resolution.one_store_decides`). `Resolution.place_eq_of_sameStore` says
that the place is the same; the readers of a store depend on that store alone.

That there is no store is the outcome only where stores can be looked for. If the path of the home
is too long, the search ends before it comes to that (`Resolution.not_noStore_of_long_home`).
-/

namespace CommitSeal

/-- The same surroundings with another tree. -/
def Surroundings.inTree (around : Surroundings) (tree : FileTree) : Surroundings :=
  { around with tree }

/-! ## Readers of one store -/

namespace KeyStore

variable {tree other : FileTree} {path : Path}

theorem isFile_eq_true_iff :
    isFile tree path = .ok true ↔ ∃ content, tree.read path = .ok content := by
  rw [← FileTree.isFile_eq_true_iff, isFile]
  cases tree.isFile path <;> simp [Except.mapError]

theorem isFile_of_tooLong (hfind : tree.find path = .error .tooLong) :
    isFile tree path = .error .pathTooLong := by
  rw [isFile, FileTree.isFile_eq_error_iff.mpr ⟨hfind, rfl⟩]
  rfl

theorem isFile_of_lookedUp (hfind : tree.find path ≠ .error .tooLong)
    (hfile : isFile tree path ≠ .ok true) : isFile tree path = .ok false := by
  unfold isFile at hfile ⊢
  cases hlooked : tree.isFile path with
  | error e => exact absurd (FileTree.isFile_eq_error_iff.mp hlooked).1 hfind
  | ok found =>
    rw [hlooked] at hfile
    cases found with
    | false => rfl
    | true => exact absurd rfl hfile

theorem keybox_congr (hread : tree.read path = other.read path) :
    keybox tree path = keybox other path := by
  rw [keybox, keybox, hread]

theorem keyring_congr (hread : tree.read path = other.read path) :
    keyring tree path = keyring other path := by
  rw [keyring, keyring, readKeyring, readKeyring, hread]

end KeyStore

namespace Resolution

variable {around : Surroundings} {explicit : Option Path} {other : FileTree}

/-! ## Where it is looked -/

theorem place_of_override {path : Path} (hoverride : override? around explicit = .ok (some path)) :
    place around explicit = .ok (.keyring path) := by
  unfold place
  rw [hoverride]
  rfl

theorem place_of_error {fault : Fault} (hoverride : override? around explicit = .error fault) :
    place around explicit = .error fault := by
  unfold place
  rw [hoverride]
  rfl

theorem override?_none (hexplicit : explicit = none)
    (hconfigured : around.settings.secretKeyPath = none) :
    override? around explicit = .ok none := by
  unfold override? Settings.override
  rw [hexplicit, hconfigured]

/-- A keyring that is passed or configured is looked into, unless its path cannot be expanded. -/
theorem override?_ne_none
    (hgiven : explicit ≠ none ∨ around.settings.secretKeyPath ≠ none) :
    override? around explicit ≠ .ok none := by
  have hmap : ∀ (expanded : Except Fault Path), expanded.map some ≠ .ok none := by
    intro expanded
    cases expanded <;> simp [Except.map]
  unfold override? Settings.override
  cases explicit with
  | some path => exact hmap _
  | none =>
    rcases hgiven with hexplicit | hconfigured
    · exact absurd rfl hexplicit
    · -- A configured path is expanded with the settings, and then once more.
      obtain ⟨path, hpath⟩ := Option.ne_none_iff_exists'.mp hconfigured
      simp only [hpath]
      cases around.environment.expand path with
      | error fault => nofun
      | ok expanded => exact hmap (around.environment.expand expanded)

section Home

variable {home : Path}

theorem place_of_homeless {fault : Fault} (hnone : override? around explicit = .ok none)
    (hhome : around.settings.home around.environment = .error fault) :
    place around explicit = .error fault := by
  unfold place Settings.keyboxPath
  rw [hnone, hhome]
  rfl

/-- Where is looked in a home: the keybox comes first. -/
def placeInHome (tree : FileTree) (home : Path) : Except Fault Place :=
  match KeyStore.isFile tree (home.child "pubring.kbx") with
  | .error fault => .error fault
  | .ok true => .ok (.keybox (home.child "pubring.kbx") (home.child "private-keys-v1.d"))
  | .ok false =>
    match KeyStore.isFile tree (home.child "secring.gpg") with
    | .error fault => .error fault
    | .ok true => .ok (.keyring (home.child "secring.gpg"))
    | .ok false => .ok (.nowhere home)

theorem place_of_home (hnone : override? around explicit = .ok none)
    (hhome : around.settings.home around.environment = .ok home) :
    place around explicit = placeInHome around.tree home := by
  unfold place placeInHome Settings.keyboxPath Settings.secretDirectory Settings.keyringPath
  rw [hnone, hhome]
  show (KeyStore.isFile around.tree (home.child "pubring.kbx") >>= _) = _
  cases KeyStore.isFile around.tree (home.child "pubring.kbx") with
  | error fault => rfl
  | ok found =>
    cases found with
    | true => rfl
    | false =>
      show (KeyStore.isFile around.tree (home.child "secring.gpg") >>= _) = _
      cases KeyStore.isFile around.tree (home.child "secring.gpg") with
      | error fault => rfl
      | ok found => cases found <;> rfl

/-- The keyring in a home is looked up if its keybox is. -/
theorem find_keyring_tooLong_iff (tree : FileTree) (home : Path) :
    tree.find (home.child "secring.gpg") = .error .tooLong
      ↔ tree.find (home.child "pubring.kbx") = .error .tooLong := by
  apply FileTree.find_child_eq_tooLong_iff tree home <;> decide

theorem placeInHome_of_keybox {tree : FileTree} {content : Octets}
    (hkeybox : tree.read (home.child "pubring.kbx") = .ok content) :
    placeInHome tree home
      = .ok (.keybox (home.child "pubring.kbx") (home.child "private-keys-v1.d")) := by
  rw [placeInHome, KeyStore.isFile_eq_true_iff.mpr ⟨content, hkeybox⟩]

theorem placeInHome_of_keyring {tree : FileTree} {content : Octets}
    (hkeybox : KeyStore.isFile tree (home.child "pubring.kbx") = .ok false)
    (hkeyring : tree.read (home.child "secring.gpg") = .ok content) :
    placeInHome tree home = .ok (.keyring (home.child "secring.gpg")) := by
  rw [placeInHome, hkeybox]
  simp only [KeyStore.isFile_eq_true_iff.mpr ⟨content, hkeyring⟩]

/-- A home that can be looked into and has neither store leads nowhere. -/
theorem placeInHome_of_nothing {tree : FileTree}
    (hkeybox : KeyStore.isFile tree (home.child "pubring.kbx") = .ok false)
    (hkeyring : KeyStore.isFile tree (home.child "secring.gpg") ≠ .ok true) :
    placeInHome tree home = .ok (.nowhere home) := by
  -- The names have one size: the keyring can be looked for, since the keybox could.
  have hfind : tree.find (home.child "secring.gpg") ≠ .error .tooLong := by
    intro htooLong
    rw [find_keyring_tooLong_iff] at htooLong
    rw [KeyStore.isFile_of_tooLong htooLong] at hkeybox
    cases hkeybox
  rw [placeInHome, hkeybox]
  simp only [KeyStore.isFile_of_lookedUp hfind hkeyring]

theorem placeInHome_of_fault {tree : FileTree} {fault : Fault}
    (hkeybox : KeyStore.isFile tree (home.child "pubring.kbx") = .error fault) :
    placeInHome tree home = .error fault := by
  rw [placeInHome, hkeybox]

/-- Where a search goes in a home. -/
theorem placeInHome_eq_ok {tree : FileTree} {found : Place}
    (hplace : placeInHome tree home = .ok found) :
    KeyStore.isFile tree (home.child "pubring.kbx") = .ok true ∧
        found = .keybox (home.child "pubring.kbx") (home.child "private-keys-v1.d") ∨
      KeyStore.isFile tree (home.child "pubring.kbx") = .ok false ∧
        (found = .keyring (home.child "secring.gpg") ∨ found = .nowhere home) := by
  unfold placeInHome at hplace
  split at hplace
  · cases hplace
  · rename_i hkeybox
    exact .inl ⟨hkeybox, (Except.ok.inj hplace).symm⟩
  · rename_i hkeybox
    refine .inr ⟨hkeybox, ?_⟩
    split at hplace
    · cases hplace
    · exact .inl (Except.ok.inj hplace).symm
    · exact .inr (Except.ok.inj hplace).symm

end Home

/-- The directory is in the home, as the keybox is. -/
theorem exists_secretDirectory {keybox : Path}
    (hkeybox : around.settings.keyboxPath around.environment = .ok keybox) :
    ∃ directory, around.settings.secretDirectory around.environment = .ok directory := by
  unfold Settings.keyboxPath at hkeybox
  unfold Settings.secretDirectory
  cases hhome : around.settings.home around.environment with
  | error fault =>
    rw [hhome] at hkeybox
    cases hkeybox
  | ok home => exact ⟨_, rfl⟩

/-- A keybox in the home is where a search goes, unless a keyring takes its place. -/
theorem place_of_keybox {keybox directory : Path} (hnone : override? around explicit = .ok none)
    (hkeybox : around.settings.keyboxPath around.environment = .ok keybox)
    (hdirectory : around.settings.secretDirectory around.environment = .ok directory)
    (hfile : KeyStore.isFile around.tree keybox = .ok true) :
    place around explicit = .ok (.keybox keybox directory) := by
  unfold Settings.keyboxPath at hkeybox
  unfold Settings.secretDirectory at hdirectory
  cases hhome : around.settings.home around.environment with
  | error fault =>
    rw [hhome] at hkeybox
    cases hkeybox
  | ok home =>
    rw [hhome] at hkeybox hdirectory
    cases hkeybox
    cases hdirectory
    obtain ⟨content, hread⟩ := KeyStore.isFile_eq_true_iff.mp hfile
    rw [place_of_home hnone hhome]
    exact placeInHome_of_keybox hread

/-- Where a search goes: to a keyring that takes the place of all stores, or into the home. -/
theorem place_eq_ok {found : Place} (hplace : place around explicit = .ok found) :
    (∃ path, override? around explicit = .ok (some path) ∧ found = .keyring path) ∨
      override? around explicit = .ok none ∧
        ∃ home, around.settings.home around.environment = .ok home ∧
          placeInHome around.tree home = .ok found := by
  cases hoverride : override? around explicit with
  | error fault =>
    rw [place_of_error hoverride] at hplace
    cases hplace
  | ok path? =>
    cases path? with
    | some path =>
      rw [place_of_override hoverride] at hplace
      exact .inl ⟨path, rfl, (Except.ok.inj hplace).symm⟩
    | none =>
      cases hhome : around.settings.home around.environment with
      | error fault =>
        rw [place_of_homeless hoverride hhome] at hplace
        cases hplace
      | ok home =>
        rw [place_of_home hoverride hhome] at hplace
        exact .inr ⟨rfl, home, rfl, hplace⟩

/-! ## What is found there -/

theorem find_eq (around : Surroundings) (id : KeyId) (explicit : Option Path) :
    find around id explicit =
      match place around explicit with
      | .error fault => .error fault
      | .ok (.keyring path) => findInKeyring around.tree id path
      | .ok (.keybox path directory) =>
        (selectCertificate around.tree id path).bind fun publicKey =>
          findInDirectory around.tree id publicKey directory
      | .ok (.nowhere home) => .error (noStore id home) := by
  unfold find
  cases place around explicit with
  | error fault => rfl
  | ok found => cases found <;> rfl

theorem findInKeyring_congr {tree other : FileTree} {path : Path} (id : KeyId)
    (hread : tree.read path = other.read path) :
    findInKeyring tree id path = findInKeyring other id path := by
  unfold findInKeyring
  rw [KeyStore.keyring_congr hread]

theorem selectCertificate_congr {tree other : FileTree} {path : Path} (id : KeyId)
    (hread : tree.read path = other.read path) :
    selectCertificate tree id path = selectCertificate other id path := by
  unfold selectCertificate findInKeybox
  rw [KeyStore.keybox_congr hread]

theorem candidates_congr {tree other : FileTree} {directory : Path} (publicKey : PublicRecord)
    (hsame : tree.SameAt other directory) :
    candidates tree publicKey directory = candidates other publicKey directory := by
  unfold candidates
  rw [KeyStore.secretDirectory_congr hsame]

theorem findInDirectory_congr {tree other : FileTree} {directory : Path} (id : KeyId)
    (publicKey : PublicRecord) (hsame : tree.SameAt other directory) :
    findInDirectory tree id publicKey directory = findInDirectory other id publicKey directory := by
  unfold findInDirectory
  rw [candidates_congr publicKey hsame]

theorem resolveInDirectory_congr {σ : Type} {directory : Path} (id : KeyId)
    (publicKey : PublicRecord) (provider : Provider σ) (fetching : Fetching σ)
    (hsame : around.tree.SameAt other directory) :
    resolveInDirectory around id publicKey directory provider fetching
      = resolveInDirectory (around.inTree other) id publicKey directory provider fetching := by
  unfold resolveInDirectory
  rw [candidates_congr publicKey hsame]
  rfl

/-- Two trees in which a search goes to the same place, and finds the same there. -/
structure SharedPlace (around : Surroundings) (explicit : Option Path) (other : FileTree) :
    Prop where
  place : place (around.inTree other) explicit = Resolution.place around explicit
  keyring : ∀ path, Resolution.place around explicit = .ok (.keyring path) →
    around.tree.read path = other.read path
  keybox : ∀ path directory, Resolution.place around explicit = .ok (.keybox path directory) →
    around.tree.read path = other.read path ∧ around.tree.SameAt other directory

namespace SharedPlace

theorem find_eq (hshared : SharedPlace around explicit other) (id : KeyId) :
    find (around.inTree other) id explicit = find around id explicit := by
  rw [Resolution.find_eq, Resolution.find_eq, hshared.place]
  cases hplace : Resolution.place around explicit with
  | error fault => rfl
  | ok found =>
    cases found with
    | keyring path => exact (findInKeyring_congr id (hshared.keyring path hplace)).symm
    | keybox path directory =>
      obtain ⟨hread, hsame⟩ := hshared.keybox path directory hplace
      have hselect : selectCertificate (around.inTree other).tree id path
          = selectCertificate around.tree id path := (selectCertificate_congr id hread).symm
      simp only [hselect]
      cases selectCertificate around.tree id path with
      | error fault => rfl
      | ok publicKey => exact (findInDirectory_congr id publicKey hsame).symm
    | nowhere home => rfl

theorem resolve_eq {σ : Type} (hshared : SharedPlace around explicit other) (id : KeyId)
    (provider : Provider σ) (fetching : Fetching σ) :
    resolve (around.inTree other) id explicit provider fetching
      = resolve around id explicit provider fetching := by
  unfold resolve
  rw [hshared.place]
  cases hplace : Resolution.place around explicit with
  | error fault => rfl
  | ok found =>
    cases found with
    | keyring path =>
      have hfind : findInKeyring (around.inTree other).tree id path
          = findInKeyring around.tree id path :=
        (findInKeyring_congr id (hshared.keyring path hplace)).symm
      simp only [hfind]
    | keybox path directory =>
      obtain ⟨hread, hsame⟩ := hshared.keybox path directory hplace
      have hselect : selectCertificate (around.inTree other).tree id path
          = selectCertificate around.tree id path := (selectCertificate_congr id hread).symm
      simp only [hselect]
      cases selectCertificate around.tree id path with
      | error fault => rfl
      | ok publicKey =>
        exact (resolveInDirectory_congr id publicKey provider fetching hsame).symm
    | nowhere home => rfl

end SharedPlace

/-! ## Agreement on one store -/

/-- Two trees that agree on the store that decides a search. -/
inductive SameStore (around : Surroundings) (explicit : Option Path) (other : FileTree) :
    Prop where
  /-- A keyring is passed or configured, and is the same in both. -/
  | given (hgiven : explicit ≠ none ∨ around.settings.secretKeyPath ≠ none)
      (hread : ∀ path, override? around explicit = .ok (some path) →
        around.tree.read path = other.read path)
  /-- None is, and both have a keybox, with the same content and the same secret key directory. -/
  | keybox (keybox directory : Path) (content : Octets) (hexplicit : explicit = none)
      (hconfigured : around.settings.secretKeyPath = none)
      (hkeybox : around.settings.keyboxPath around.environment = .ok keybox)
      (hdirectory : around.settings.secretDirectory around.environment = .ok directory)
      (hread : around.tree.read keybox = .ok content) (hread' : other.read keybox = .ok content)
      (hsame : around.tree.SameAt other directory)
  /-- None is, and neither has a keybox, but the keyring in the home is the same. -/
  | home (hexplicit : explicit = none) (hconfigured : around.settings.secretKeyPath = none)
      (hkeybox : ∀ keybox, around.settings.keyboxPath around.environment = .ok keybox →
        KeyStore.isFile around.tree keybox ≠ .ok true ∧
        KeyStore.isFile other keybox = KeyStore.isFile around.tree keybox)
      (hkeyring : ∀ keyring, around.settings.keyringPath around.environment = .ok keyring →
        around.tree.SameFile other keyring)

/-- Where no store is looked into, trees need not agree on any. -/
theorem sharedPlace_of_storeless {answer : Except Fault Place}
    (hplace : place around explicit = answer)
    (hplace' : place (around.inTree other) explicit = answer)
    (hkeyring : ∀ path, answer ≠ .ok (.keyring path))
    (hkeybox : ∀ path directory, answer ≠ .ok (.keybox path directory)) :
    SharedPlace around explicit other where
  place := hplace'.trans hplace.symm
  keyring := fun path hpath => absurd (hplace.symm.trans hpath) (hkeyring path)
  keybox := fun path directory hpath => absurd (hplace.symm.trans hpath) (hkeybox path directory)

theorem sharedPlace_of_keyring {path : Path} (hplace : place around explicit = .ok (.keyring path))
    (hplace' : place (around.inTree other) explicit = .ok (.keyring path))
    (hread : around.tree.read path = other.read path) : SharedPlace around explicit other where
  place := hplace'.trans hplace.symm
  keyring := by
    intro path' hpath
    rw [hplace] at hpath
    cases hpath
    exact hread
  keybox := by
    intro path' directory hpath
    rw [hplace] at hpath
    cases hpath

theorem SameStore.sharedPlace (hsame : SameStore around explicit other) :
    SharedPlace around explicit other := by
  cases hsame with
  | given hgiven hread =>
    -- The keyring is looked into unless its path cannot be expanded, and nothing else is.
    cases hoverride : override? around explicit with
    | error fault =>
      exact sharedPlace_of_storeless (place_of_error hoverride) (place_of_error hoverride)
        nofun nofun
    | ok path? =>
      cases path? with
      | none => exact absurd hoverride (override?_ne_none hgiven)
      | some path =>
        exact sharedPlace_of_keyring (place_of_override hoverride) (place_of_override hoverride)
          (hread path hoverride)
  | keybox keybox directory content hexplicit hconfigured hkeybox hdirectory hread hread' hsame =>
    have hnone := override?_none hexplicit hconfigured
    have hplace := place_of_keybox hnone hkeybox hdirectory
      (KeyStore.isFile_eq_true_iff.mpr ⟨content, hread⟩)
    have hplace' : place (around.inTree other) explicit = .ok (.keybox keybox directory) :=
      place_of_keybox hnone hkeybox hdirectory (KeyStore.isFile_eq_true_iff.mpr ⟨content, hread'⟩)
    refine ⟨hplace'.trans hplace.symm, ?_, ?_⟩
    · intro path hpath
      rw [hplace] at hpath
      cases hpath
    · intro path directory hpath
      rw [hplace] at hpath
      cases hpath
      exact ⟨hread.trans hread'.symm, hsame⟩
  | home hexplicit hconfigured hkeybox hkeyring =>
    -- No keybox is found in either tree, so the keyring in the home comes next in both.
    have hnone := override?_none hexplicit hconfigured
    cases hhome : around.settings.home around.environment with
    | error fault =>
      have hplace' : place (around.inTree other) explicit = .error fault :=
        place_of_homeless hnone hhome
      exact sharedPlace_of_storeless (place_of_homeless hnone hhome) hplace' nofun nofun
    | ok home =>
      obtain ⟨hfile, hsame⟩ := hkeybox (home.child "pubring.kbx")
        (by rw [Settings.keyboxPath, hhome]; rfl)
      have hring := hkeyring (home.child "secring.gpg")
        (by rw [Settings.keyringPath, hhome]; rfl)
      have hplace := place_of_home hnone hhome
      have hplace' : place (around.inTree other) explicit = placeInHome other home :=
        place_of_home hnone hhome
      cases hfound : KeyStore.isFile around.tree (home.child "pubring.kbx") with
      | error fault =>
        exact sharedPlace_of_storeless (hplace.trans (placeInHome_of_fault hfound))
          (hplace'.trans (placeInHome_of_fault (hsame.trans hfound))) nofun nofun
      | ok found =>
        cases found with
        | true => exact absurd hfound hfile
        | false =>
          by_cases hcontent : ∃ content, around.tree.read (home.child "secring.gpg") = .ok content
          · obtain ⟨content, hread⟩ := hcontent
            have hread' := (hring content).mp hread
            exact sharedPlace_of_keyring (hplace.trans (placeInHome_of_keyring hfound hread))
              (hplace'.trans (placeInHome_of_keyring (hsame.trans hfound) hread'))
              (hread.trans hread'.symm)
          · have hring' : ¬ ∃ content, other.read (home.child "secring.gpg") = .ok content :=
              fun ⟨content, hread⟩ => hcontent ⟨content, (hring content).mpr hread⟩
            have hnowhere := placeInHome_of_nothing hfound
              (fun hfile => hcontent (KeyStore.isFile_eq_true_iff.mp hfile))
            have hnowhere' := placeInHome_of_nothing (hsame.trans hfound)
              (fun hfile => hring' (KeyStore.isFile_eq_true_iff.mp hfile))
            exact sharedPlace_of_storeless (hplace.trans hnowhere) (hplace'.trans hnowhere')
              nofun nofun

/-! ## One store -/

/-- One store decides a search: in two trees that agree on it, the outcome is the same, be it a key,
unlocked or not, or a failure of whatever kind. Where a keybox is looked for and not there, and no
keyring either, the failure is that there is no store. -/
theorem one_store_decides (around : Surroundings) (id : KeyId) (explicit : Option Path) :
    (∀ other, SameStore around explicit other →
      find (around.inTree other) id explicit = find around id explicit ∧
      ∀ (σ : Type) (provider : Provider σ) (fetching : Fetching σ),
        resolve (around.inTree other) id explicit provider fetching
          = resolve around id explicit provider fetching) ∧
    ∀ home, explicit = none → around.settings.secretKeyPath = none →
      around.settings.home around.environment = .ok home →
      KeyStore.isFile around.tree (home.child "pubring.kbx") = .ok false →
      KeyStore.isFile around.tree (home.child "secring.gpg") ≠ .ok true →
      find around id explicit = .error (noStore id home) ∧
      ∀ (σ : Type) (provider : Provider σ) (fetching : Fetching σ),
        resolve around id explicit provider fetching = (.error (noStore id home), fetching) := by
  constructor
  · intro other hsame
    have hshared := hsame.sharedPlace
    exact ⟨hshared.find_eq id, fun σ provider fetching => hshared.resolve_eq id provider fetching⟩
  · intro home hexplicit hconfigured hhome hkeybox hkeyring
    have hplace := place_of_home (override?_none hexplicit hconfigured) hhome
    rw [placeInHome_of_nothing hkeybox hkeyring] at hplace
    constructor
    · rw [find_eq, hplace]
    · intro σ provider fetching
      rw [resolve, hplace]

/-! ## A small home -/

/-- A home below the working directory. -/
def smallHome : Path := Path.here.child "home"

/-- The home with the given entries, next to a keyring without keys. -/
def homeTree (entries : List (String × FileTree)) : FileTree :=
  .directory [("ring", .file []), ("home", .directory entries)]

/-- Surroundings with the given home and, possibly, a configured keyring. -/
def homeSurroundings (home : Path) (configured : Option Path) (tree : FileTree) :
    Surroundings where
  tree
  environment := {}
  settings := { gnupgHome := some home, secretKeyPath := configured }
  now := 0

theorem home_homeSurroundings {home : Path} (configured : Option Path) (tree : FileTree)
    (hexpand : Environment.expand {} home = .ok home) :
    (homeSurroundings home configured tree).settings.home
      (homeSurroundings home configured tree).environment = .ok home :=
  hexpand

/-- Each store in turn decides, whatever is in the others: a configured keyring, a keybox with a
directory in any order, a keyring in the home. An empty home has none. -/
theorem one_store_decides_small :
    find (homeSurroundings smallHome (some (Path.here.child "ring"))
        (homeTree [("pubring.kbx", .file [0])])) tinyId none
      = find (homeSurroundings smallHome (some (Path.here.child "ring")) (homeTree []))
          tinyId none ∧
    find (homeSurroundings smallHome none (homeTree [("secring.gpg", .file [0]),
        ("private-keys-v1.d", .directory [("b", .file [2]), ("a", .file [1])]),
        ("pubring.kbx", .file (tinyKeybox [tinyFingerprint]))])) tinyId none
      = find (homeSurroundings smallHome none (homeTree
          [("pubring.kbx", .file (tinyKeybox [tinyFingerprint])),
            ("private-keys-v1.d", .directory [("a", .file [1]), ("b", .file [2])])])) tinyId none ∧
    find (homeSurroundings smallHome none (homeTree [("private-keys-v1.d", .directory []),
        ("secring.gpg", .file [0])])) tinyId none
      = find (homeSurroundings smallHome none (homeTree [("secring.gpg", .file [0])])) tinyId none ∧
    find (homeSurroundings smallHome none (homeTree [])) tinyId none
      = .error (noStore tinyId smallHome) := by
  refine ⟨?_, ?_, ?_, ?_⟩
  · have hsame : SameStore
        (homeSurroundings smallHome (some (Path.here.child "ring")) (homeTree [])) none
        (homeTree [("pubring.kbx", .file [0])]) := by
      refine .given (.inr nofun) ?_
      intro path hpath
      obtain rfl : Path.here.child "ring" = path := Option.some.inj (Except.ok.inj hpath)
      rfl
    exact ((one_store_decides _ tinyId none).1 _ hsame).1
  · have hsame : SameStore (homeSurroundings smallHome none (homeTree
          [("pubring.kbx", .file (tinyKeybox [tinyFingerprint])),
            ("private-keys-v1.d", .directory [("a", .file [1]), ("b", .file [2])])])) none
        (homeTree [("secring.gpg", .file [0]),
          ("private-keys-v1.d", .directory [("b", .file [2]), ("a", .file [1])]),
          ("pubring.kbx", .file (tinyKeybox [tinyFingerprint]))]) := by
      refine .keybox (smallHome.child "pubring.kbx") (smallHome.child "private-keys-v1.d")
        (tinyKeybox [tinyFingerprint]) rfl rfl rfl rfl rfl rfl (.inr ⟨_, _, rfl, rfl, ?_⟩)
      exact .entries (by decide) (.swap _ _ _)
    exact ((one_store_decides _ tinyId none).1 _ hsame).1
  · have hsame : SameStore
        (homeSurroundings smallHome none (homeTree [("secring.gpg", .file [0])])) none
        (homeTree [("private-keys-v1.d", .directory []), ("secring.gpg", .file [0])]) := by
      refine .home rfl rfl ?_ ?_
      · intro keybox hkeybox
        obtain rfl : smallHome.child "pubring.kbx" = keybox := Except.ok.inj hkeybox
        exact ⟨nofun, rfl⟩
      · intro keyring hkeyring content
        obtain rfl : smallHome.child "secring.gpg" = keyring := Except.ok.inj hkeyring
        exact Iff.rfl
    exact ((one_store_decides _ tinyId none).1 _ hsame).1
  · exact ((one_store_decides (homeSurroundings smallHome none (homeTree [])) tinyId none).2
      smallHome rfl rfl rfl rfl nofun).1

/-! ## A home that is not looked up -/

/-- In a directory with a name that is too long no keybox can be looked for. -/
theorem find_child_of_long_name {name : String}
    (hlong : FileTree.maxNameLength < name.utf8ByteSize) (hname : name ≠ "..")
    (hpossible : '\x00' ∉ name.toList) :
    FileTree.empty.find ((Path.here.child name).child "pubring.kbx") = .error .tooLong := by
  have himpossible : ((Path.here.child name).child "pubring.kbx").isImpossible = false := by
    have hkeybox : "pubring.kbx".toList.contains '\x00' = false := by decide
    show [name, "pubring.kbx"].any (fun name => name.toList.contains '\x00') = false
    rw [List.any_cons, List.any_cons, hkeybox]
    simpa using hpossible
  have hfollow : FileTree.empty.follow ((Path.here.child name).child "pubring.kbx")
      = .error .tooLong := by
    rw [FileTree.follow_child _ _ (by decide), FileTree.follow_child _ _ hname]
    show ((FileTree.directory []).under name).bind _ = _
    rw [(FileTree.under_eq_tooLong_iff _ _).mpr ⟨⟨[], rfl⟩, hlong⟩]
    rfl
  rw [FileTree.find, himpossible, hfollow, if_neg Bool.false_ne_true, ite_self]

theorem expand_of_head_ne_tilde (environment : Environment) {name : String} {first : Char}
    {rest : List Char} (hletters : name.toList = first :: rest) (hfirst : first ≠ '~') :
    environment.expand (Path.here.child name) = .ok (Path.here.child name) := by
  have hplain : Path.expandHome environment.homes ⟨.relative, [name]⟩
      = .ok ⟨.relative, [name]⟩ := by
    unfold Path.expandHome
    simp only [hletters]
    split
    · rename_i letters hcons
      cases hcons
      exact absurd rfl hfirst
    · rfl
  show environment.expand ⟨.relative, [name]⟩ = .ok ⟨.relative, [name]⟩
  rw [Environment.expand, hplain]

/-- A name that is longer than any can be. -/
def longName : String := String.ofList ('a' :: List.replicate 255 'a')

/-- Where the name of the home is too long, that no store is there is not the outcome, though none
is. -/
theorem not_noStore_of_long_home :
    ¬ ∀ (around : Surroundings) (id : KeyId) (home : Path),
      around.settings.secretKeyPath = none →
      around.settings.home around.environment = .ok home →
      KeyStore.isFile around.tree (home.child "pubring.kbx") ≠ .ok true →
      KeyStore.isFile around.tree (home.child "secring.gpg") ≠ .ok true →
      find around id none = .error (noStore id home) := by
  intro hall
  have hletters : longName.toList = 'a' :: List.replicate 255 'a' := String.toList_ofList
  have hpossible : '\x00' ∉ longName.toList := by
    rw [hletters, List.mem_cons, List.mem_replicate]
    rintro (hnul | ⟨-, hnul⟩) <;> exact absurd hnul (by decide)
  have hlong : FileTree.maxNameLength < longName.utf8ByteSize := by decide +kernel
  have hname : longName ≠ ".." := by
    intro hdots
    rw [hdots] at hlong
    exact absurd hlong (by decide)
  have hfind := find_child_of_long_name hlong hname hpossible
  have hhome := home_homeSurroundings none .empty
    (expand_of_head_ne_tilde {} hletters (by decide))
  have hkeybox := KeyStore.isFile_of_tooLong hfind
  have hkeyring := KeyStore.isFile_of_tooLong ((find_keyring_tooLong_iff _ _).mpr hfind)
  have hnoStore := hall (homeSurroundings (Path.here.child longName) none .empty) tinyId _ rfl hhome
    (fun hfile => by cases hkeybox.symm.trans hfile)
    (fun hfile => by cases hkeyring.symm.trans hfile)
  have hplace := (place_of_home (override?_none rfl rfl) hhome).trans (placeInHome_of_fault hkeybox)
  rw [find_eq, hplace] at hnoStore
  cases hnoStore

end Resolution

end CommitSeal
