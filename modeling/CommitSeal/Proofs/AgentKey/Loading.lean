import CommitSeal.Proofs.KeyStore.Lookup
import CommitSeal.Proofs.Signing.Faults

/-!
# Files that are no key files

A secret key directory may hold files of any content. Loading such a file ends in one of three ways:
with a key, with the fault of a malformed expression, and, if its expression is headed by a list
(`AgentKey.ListHeaded`), with a fault of another kind, since a list is nothing that a kind can be
looked up by.

The search of a directory passes over the malformed ones and breaks off at the first one that is
headed by a list, so that no key behind it is found
(`AgentKey.search_breaks_off_at_listHeaded`).
-/

namespace CommitSeal

namespace AgentKey

/-! ## Loading -/

/-- The expression of a file is headed by a list, and not all there is in it. -/
def ListHeaded (file : Octets) : Prop :=
  ∃ head body rest, SExpr.parseKeyFile file = .ok (.list head :: body :: rest)

/-- A file is loaded to a key. -/
def Loads (file : Octets) : Prop := ∃ key, load file = .ok key

/-- A file is refused as malformed, which the search of a directory expects. -/
def Malformed (file : Octets) : Prop :=
  ∃ e message, load file = .error e ∧ e.fault = .malformed .expression message

theorem load_listForKind_iff {file : Octets} :
    load file = .error .listForKind ↔ ListHeaded file := by
  constructor
  · intro hload
    unfold load at hload
    split at hload
    · cases hload
    · rename_i items hparse
      unfold ofItems at hload
      split at hload
      · -- An atom in front names a kind, or does not.
        split at hload
        · cases hload
        · split at hload <;> cases hload
      · rename_i head body rest
        exact ⟨head, body, rest, hparse⟩
      · cases hload
  · rintro ⟨head, body, rest, hparse⟩
    rw [load, hparse]
    rfl

/-- Every other refusal is that of a malformed expression. -/
theorem malformed_of_load_error {file : Octets} {e : LoadError} (hload : load file = .error e)
    (hlist : ¬ ListHeaded file) : Malformed file := by
  refine ⟨e, e.message, hload, ?_⟩
  cases e with
  | listForKind => exact absurd (load_listForKind_iff.mp hload) hlist
  | malformed cause => rfl
  | notASecretKey => rfl
  | noAlgorithm => rfl

/-- A file is loaded or malformed unless it is headed by a list, and only then. -/
theorem loads_or_malformed_iff {file : Octets} :
    (Loads file ∨ Malformed file) ↔ ¬ ListHeaded file := by
  constructor
  · intro hfile hlist
    have hload := load_listForKind_iff.mpr hlist
    rcases hfile with ⟨key, hkey⟩ | ⟨e, message, herror, hfault⟩
    · rw [hload] at hkey
      cases hkey
    · obtain rfl := Except.error.inj (hload.symm.trans herror)
      cases hfault
  · intro hlist
    cases hload : load file with
    | ok key => exact .inl ⟨key, hload⟩
    | error e => exact .inr (malformed_of_load_error hload hlist)

end AgentKey

/-! ## Searching -/

namespace Resolution

/-- What a file is as a candidate, when it does not end the search. -/
def found (publicKey : PublicRecord) (material : Option PublicKey) (file : SecretFile) :
    Option Candidate :=
  match candidate? publicKey material file with
  | .ok candidate => candidate
  | .error _ => none

/-- A file that is malformed is passed over. -/
theorem found_of_malformed {publicKey : PublicRecord} {material : Option PublicKey}
    {file : SecretFile} (hfile : AgentKey.Malformed file.content) :
    found publicKey material file = none := by
  obtain ⟨e, message, hload, hfault⟩ := hfile
  unfold found candidate?
  rw [hload]
  cases e with
  | listForKind => cases hfault
  | malformed cause => rfl
  | notASecretKey => rfl
  | noAlgorithm => rfl

/-- A file ends the search if and only if it is headed by a list. -/
theorem candidate?_eq_ok {publicKey : PublicRecord} {material : Option PublicKey}
    {file : SecretFile} (hfile : ¬ AgentKey.ListHeaded file.content) :
    candidate? publicKey material file = .ok (found publicKey material file) := by
  unfold found
  cases hcandidate : candidate? publicKey material file with
  | ok candidate => rfl
  | error fault =>
    obtain rfl := candidate?_eq_error hcandidate
    have hload : AgentKey.load file.content = .error .listForKind := by
      unfold candidate? at hcandidate
      split at hcandidate
      · assumption
      · cases hcandidate
      · split at hcandidate
        · cases hcandidate
        · split at hcandidate <;> cases hcandidate
    exact absurd (AgentKey.load_listForKind_iff.mp hload) hfile

theorem candidate?_of_listHeaded {publicKey : PublicRecord} {material : Option PublicKey}
    {file : SecretFile} (hfile : AgentKey.ListHeaded file.content) :
    candidate? publicKey material file = .error .listForKind := by
  unfold candidate?
  rw [AgentKey.load_listForKind_iff.mpr hfile]

end Resolution

/-- Files are headed by no list, or there is a first one that is. -/
theorem AgentKey.exists_first_listHeaded (files : List SecretFile) :
    (∀ file ∈ files, ¬ ListHeaded file.content) ∨
      ∃ front stray behind, files = front ++ stray :: behind ∧
        (∀ file ∈ front, ¬ ListHeaded file.content) ∧ ListHeaded stray.content := by
  induction files with
  | nil => exact .inl fun file hfile => by cases hfile
  | cons file files ih =>
    by_cases hfile : ListHeaded file.content
    · exact .inr ⟨[], file, files, rfl, by simp, hfile⟩
    · rcases ih with hall | ⟨front, stray, behind, rfl, hfront, hstray⟩
      · exact .inl (List.forall_mem_cons.mpr ⟨hfile, hall⟩)
      · exact .inr ⟨file :: front, stray, behind, rfl, List.forall_mem_cons.mpr ⟨hfile, hfront⟩,
          hstray⟩

open Resolution in
/-- Loading a file yields a key or the fault of a malformed expression, unless the expression is
headed by a list. And the search among the files of a directory goes to their end, passing over
those that are malformed, unless one of them is headed by a list: it breaks off at the first one. -/
theorem AgentKey.search_breaks_off_at_listHeaded {tree : FileTree} {publicKey : PublicRecord}
    {directory : Path} {material : Option PublicKey} {files : Listing Fault SecretFile}
    (hmaterial : publicKey.findMaterial none = .ok material)
    (hfiles : KeyStore.secretDirectory tree directory = .ok files) :
    (∀ file, (Loads file ∨ Malformed file) ↔ ¬ ListHeaded file) ∧
    (∀ file ∈ files.items, Malformed file.content → found publicKey material file = none) ∧
    (((∀ file ∈ files.items, ¬ ListHeaded file.content) ∧
        candidates tree publicKey directory
          = .ok ⟨files.items.filterMap (found publicKey material), files.failure⟩) ∨
      ∃ front stray behind, files.items = front ++ stray :: behind ∧
        (∀ file ∈ front, ¬ ListHeaded file.content) ∧ ListHeaded stray.content ∧
        candidates tree publicKey directory
          = .ok ⟨front.filterMap (found publicKey material), some .listForKind⟩) := by
  refine ⟨fun file => loads_or_malformed_iff, fun file _ hfile => found_of_malformed hfile, ?_⟩
  have hsearch : candidates tree publicKey directory
      = .ok (Listing.collect (candidate? publicKey material) files.items files.failure) := by
    rw [candidates, hmaterial]
    simp only [hfiles]
    rfl
  have hpass : ∀ file : SecretFile, ¬ ListHeaded file.content →
      candidate? publicKey material file = .ok (found publicKey material file) :=
    fun file hfile => candidate?_eq_ok hfile
  rcases exists_first_listHeaded files.items with
    hall | ⟨front, stray, behind, hitems, hfront, hstray⟩
  · have hscan := Listing.collect_append (fun file hfile => hpass file (hall file hfile)) []
      files.failure
    rw [List.append_nil] at hscan
    refine .inl ⟨hall, ?_⟩
    rw [hsearch, hscan, Listing.collect, List.append_nil]
  · have hscan := Listing.collect_append (fun file hfile => hpass file (hfront file hfile))
      (stray :: behind) files.failure
    refine .inr ⟨front, stray, behind, hitems, hfront, hstray, ?_⟩
    rw [hsearch, hitems, hscan, Listing.collect, candidate?_of_listHeaded hstray]
    simp [Listing.fail]

/-! ## A stray file -/

/-- The file `(()())`. -/
def listHeadedFile : Octets := Octets.ofText "(()())"

/-- It is headed by a list. -/
theorem AgentKey.listHeaded_listHeadedFile : ListHeaded listHeadedFile :=
  ⟨[], .list [], [], rfl⟩

namespace Resolution

/-- A file with the public numbers of a key. -/
def smallKeyFile : Octets := Octets.ofText "(private-key (rsa (n #0F#) (e #03#)))"

/-- A directory with the stray file, and the file of the key behind it. -/
def strayDirectory : FileTree :=
  .directory [("keys", .directory [("a", .file listHeadedFile), ("b", .file smallKeyFile)])]

/-- Where it is. -/
def keysPath : Path := ⟨.relative, ["keys"]⟩

/-- The search for the key breaks off in front of it, with nothing found. -/
theorem search_breaks_off_at_strayFile :
    candidates strayDirectory (tinyRecord []) keysPath = .ok ⟨[], some .listForKind⟩ := by
  have hmaterial : (tinyRecord []).findMaterial none = .ok (some (tinyRecord []).key) :=
    eq_ok_of_toOption (by decide +kernel)
  have hfiles : KeyStore.secretDirectory strayDirectory keysPath
      = .ok (.ofList [⟨⟨.relative, ["keys", "a"]⟩, listHeadedFile⟩,
          ⟨⟨.relative, ["keys", "b"]⟩, smallKeyFile⟩]) :=
    @KeyStore.secretDirectory_of_files _ _ [("a", listHeadedFile), ("b", smallKeyFile)] rfl
      (by decide)
  obtain ⟨-, -, ⟨hall, -⟩ | ⟨front, stray, behind, hsplit, hfront, -, hsearch⟩⟩ :=
    AgentKey.search_breaks_off_at_listHeaded hmaterial hfiles
  · exact absurd AgentKey.listHeaded_listHeadedFile (hall _ List.mem_cons_self)
  · -- Nothing stands in front of the first file, which is the stray one.
    cases front with
    | nil => exact hsearch
    | cons first others =>
      obtain ⟨rfl, -⟩ := List.cons.inj hsplit
      exact absurd AgentKey.listHeaded_listHeadedFile (hfront _ List.mem_cons_self)

end Resolution

/-- A file of two empty lists is neither loaded nor refused as malformed. -/
theorem AgentKey.not_loads_or_malformed : ¬ ∀ file, Loads file ∨ Malformed file := by
  intro hall
  exact loads_or_malformed_iff.mp (hall listHeadedFile) listHeaded_listHeadedFile

end CommitSeal
