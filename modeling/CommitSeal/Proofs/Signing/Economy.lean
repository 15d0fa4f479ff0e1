import CommitSeal.Proofs.Signing.Opening

/-!
# A passphrase is asked for once

While a key is resolved its provider is asked about one record at most. It is that of the first
protected candidate of the secret key directory, and the search has to come to it: the candidates in
front of it are in the clear and are not decrypted (`Resolution.Reaches`). Which record it is
depends on the files alone, not on the provider.

Finding a key is the same search, broken off at the first candidate. `Resolution.search` has both
ways in one definition, with every means of the search in its hands: one that does not unlock leaves
them all alone (`Resolution.search_false`).
-/

namespace CommitSeal.Resolution

variable {σ α : Type} {around : Surroundings} {explicit : Option Path} {id : KeyId}
  {record : SecretRecord}

/-! ## Questions -/

/-- A provider that keeps the records it is asked about, the latest last. -/
def recorded (provider : Provider σ) : Provider (List SecretRecord × σ) := fun record kept =>
  ((provider record kept.2).1, (kept.1 ++ [record], (provider record kept.2).2))

/-- The records that a provider is asked about while a key is resolved. -/
def asked (around : Surroundings) (wanted : Wanted) (explicit : Option Path)
    (provider : Provider σ) (state : σ) : List SecretRecord :=
  (resolveWanted around wanted explicit (recorded provider) ⟨none, ([], state)⟩).2.state.1

/-- The record that a plan asks about. -/
def Plan.question? : Plan α → Option SecretRecord
  | settled _ => none
  | asks record _ => some record

/-- Keeping the records changes nothing else, and a plan adds the one that it asks about. -/
theorem Plan.run_recorded (plan : Plan α) (provider : Provider σ) (kept : List SecretRecord)
    (state : σ) :
    plan.run (recorded provider) (kept, state)
      = ((plan.run provider state).1,
          (kept ++ plan.question?.toList, (plan.run provider state).2)) := by
  cases plan with
  | settled answer => simp [run, question?]
  | asks record next =>
    simp only [run, recorded, question?, Option.toList_some]
    rcases provider record state with ⟨answer, after⟩
    cases answer <;> rfl

/-- Resolving with the records kept comes to the same, and what is kept is the question of the
plan. -/
theorem resolve_recorded (around : Surroundings) (id : KeyId) (explicit : Option Path)
    (provider : Provider σ) (state : σ) :
    (resolve around id explicit (recorded provider) ⟨none, ([], state)⟩).1
        = (resolve around id explicit provider ⟨none, state⟩).1 ∧
      (resolve around id explicit (recorded provider) ⟨none, ([], state)⟩).2.state
        = ((plan around id explicit).question?.toList,
            (resolve around id explicit provider ⟨none, state⟩).2.state) := by
  have hplain := resolve_eq_run around id explicit provider state
  have hkept := resolve_eq_run around id explicit (recorded provider) ([], state)
  rw [Plan.run_recorded, ← hplain, List.nil_append] at hkept
  exact Prod.mk.inj hkept

section Asked

variable {wanted : Wanted} (provider : Provider σ) (state : σ)

theorem asked_of_keyId (hid : wanted.keyId = .ok id) :
    asked around wanted explicit provider state
      = (plan around id explicit).question?.toList := by
  rw [asked, resolveWanted_of_keyId hid, (resolve_recorded around id explicit provider state).2]

/-- A text that is no identifier leads to no question. -/
theorem asked_of_keyId_error {fault : Fault} (hid : wanted.keyId = .error fault) :
    asked around wanted explicit provider state = [] := by
  rw [asked, resolveWanted, hid]

/-- What is asked about is the question of the plan for the identifier. -/
theorem mem_asked_iff :
    record ∈ asked around wanted explicit provider state ↔
      ∃ id, wanted.keyId = .ok id ∧ (plan around id explicit).question? = some record := by
  cases hid : wanted.keyId with
  | error fault => simp [asked_of_keyId_error provider state hid]
  | ok id => simp [asked_of_keyId provider state hid]

theorem length_asked_le : (asked around wanted explicit provider state).length ≤ 1 := by
  cases hid : wanted.keyId with
  | error fault => simp [asked_of_keyId_error provider state hid]
  | ok id =>
    rw [asked_of_keyId provider state hid]
    cases (plan around id explicit).question? <;> simp

theorem resolveWanted_recorded :
    (resolveWanted around wanted explicit (recorded provider) ⟨none, ([], state)⟩).1
        = (resolveWanted around wanted explicit provider ⟨none, state⟩).1 ∧
      (resolveWanted around wanted explicit (recorded provider) ⟨none, ([], state)⟩).2.state.2
        = (resolveWanted around wanted explicit provider ⟨none, state⟩).2.state := by
  cases hid : wanted.keyId with
  | error fault => simp [resolveWanted, hid]
  | ok id =>
    rw [resolveWanted_of_keyId hid, resolveWanted_of_keyId hid]
    obtain ⟨hanswer, hstate⟩ := resolve_recorded around id explicit provider state
    exact ⟨hanswer, by rw [hstate]⟩

end Asked

/-! ## The question about candidates -/

/-- A candidate that a search without a passphrase goes past: it is in the clear, and it is not
decrypted. -/
def Candidate.LeadsOn (context : AgentKey.Context) (candidate : Candidate) : Prop :=
  ¬ candidate.record.isProtected = true ∧ Undecrypted (candidate.unlock context none)

section Candidates

variable {context : AgentKey.Context} {missing : Fault} {failure : Option Fault}
  {candidate : Candidate} {rest : List Candidate}

theorem question?_of_isProtected (first : Option Fault)
    (hprotected : candidate.record.isProtected = true) :
    (candidatesPlan context missing failure first (candidate :: rest)).question?
      = some candidate.record := by
  rw [candidatesPlan, if_pos hprotected, Plan.question?]

/-- From a candidate in the clear the search goes on, or it ends there without a question. -/
theorem question?_of_not_isProtected (first : Option Fault)
    (hclear : ¬ candidate.record.isProtected = true) :
    (Undecrypted (candidate.unlock context none) ∧ ∃ kept,
      (candidatesPlan context missing failure first (candidate :: rest)).question?
        = (candidatesPlan context missing failure kept rest).question?) ∨
    (¬ Undecrypted (candidate.unlock context none) ∧
      (candidatesPlan context missing failure first (candidate :: rest)).question? = none) := by
  have hunlock : candidate.unlock context none
      = KeyStore.unlockFile candidate.key candidate.record.publicKey none context := by
    rw [Candidate.unlock, ite_self]
  rw [candidatesPlan, if_neg hclear, hunlock]
  split
  · rename_i ring hring
    refine .inr ⟨?_, rfl⟩
    rintro ⟨reason, hreason⟩
    cases hring.symm.trans hreason
  · rename_i reason hreason
    exact .inl ⟨⟨reason, hreason⟩, _, rfl⟩
  · rename_i fault hother hfault
    refine .inr ⟨?_, rfl⟩
    rintro ⟨reason, hreason⟩
    exact hother reason (Except.error.inj (hfault.symm.trans hreason))

/-- Candidates that the search goes past do not change the question. -/
theorem question?_append {front : List Candidate}
    (hfront : ∀ candidate ∈ front, candidate.LeadsOn context) :
    ∀ first : Option Fault, ∃ kept,
      (candidatesPlan context missing failure first (front ++ rest)).question?
        = (candidatesPlan context missing failure kept rest).question? := by
  -- Each candidate may change which failure is kept, and the question does not depend on it.
  induction front with
  | nil => exact fun first => ⟨first, rfl⟩
  | cons candidate front ih =>
    intro first
    obtain ⟨⟨hclear, hundecrypted⟩, hothers⟩ := List.forall_mem_cons.mp hfront
    rw [List.cons_append]
    obtain ⟨-, next, hnext⟩ | ⟨hdecided, -⟩ := question?_of_not_isProtected first hclear
    · obtain ⟨kept, hkept⟩ := ih hothers next
      exact ⟨kept, hnext.trans hkept⟩
    · exact absurd hundecrypted hdecided

/-- The question is about a protected candidate, and the search goes past all in front of it. -/
theorem exists_of_question?_candidatesPlan {candidates : List Candidate} :
    ∀ first : Option Fault,
      (candidatesPlan context missing failure first candidates).question? = some record →
      ∃ front candidate behind, candidates = front ++ candidate :: behind ∧
        (∀ other ∈ front, other.LeadsOn context) ∧ candidate.record.isProtected = true ∧
        candidate.record = record := by
  induction candidates with
  | nil =>
    intro first hquestion
    cases hquestion
  | cons candidate rest ih =>
    intro first hquestion
    by_cases hprotected : candidate.record.isProtected = true
    · rw [question?_of_isProtected first hprotected] at hquestion
      exact ⟨[], candidate, rest, rfl, List.forall_mem_nil _, hprotected,
        Option.some.inj hquestion⟩
    · obtain ⟨hundecrypted, kept, hkept⟩ | ⟨-, hnone⟩ :=
        question?_of_not_isProtected first hprotected
      · obtain ⟨front, found, behind, rfl, hfront, hfound⟩ := ih kept (hkept.symm.trans hquestion)
        exact ⟨candidate :: front, found, behind, rfl,
          List.forall_mem_cons.mpr ⟨⟨hprotected, hundecrypted⟩, hfront⟩, hfound⟩
      · cases hnone.symm.trans hquestion

end Candidates

/-! ## The question about files -/

/-- A file that a search without a passphrase goes past: it is loaded or it is malformed, and if it
is a candidate then one in the clear, which is not decrypted. -/
def LeadsOn (context : AgentKey.Context) (publicKey : PublicRecord) (file : SecretFile) : Prop :=
  (AgentKey.Loads file.content ∨ AgentKey.Malformed file.content) ∧
  ∀ key, heldKey? publicKey.key file.content = some key →
    key.kind ≠ .guarded ∧ Undecrypted (KeyStore.unlockFile key publicKey none context)

/-- The search for a key comes to a protected candidate, the first in the directory: it goes past
all files in front of it. The record is that of the candidate. -/
inductive Reaches (around : Surroundings) (id : KeyId) (explicit : Option Path) :
    SecretRecord → Prop where
  | file {keybox directory : Path} {publicKey : PublicRecord} {front behind : List SecretFile}
      {file : SecretFile} {failure : Option Fault} {key : AgentKey}
      (hplace : place around explicit = .ok (.keybox keybox directory))
      (hselect : selectCertificate around.tree id keybox = .ok publicKey)
      (hfiles : KeyStore.secretDirectory around.tree directory
        = .ok ⟨front ++ file :: behind, failure⟩)
      (hfront : ∀ other ∈ front, LeadsOn around.context publicKey other)
      (hheld : heldKey? publicKey.key file.content = some key)
      (hkind : key.kind = .guarded) :
      Reaches around id explicit (candidateOf publicKey file key).record

theorem isProtected_candidateOf {publicKey : PublicRecord} {file : SecretFile} {key : AgentKey} :
    (candidateOf publicKey file key).record.isProtected = true ↔ key.kind = .guarded :=
  beq_iff_eq

/-- What a file is as a candidate is what it is as a file. -/
theorem leadsOn_candidateOf {context : AgentKey.Context} {publicKey : PublicRecord}
    {file : SecretFile} {key : AgentKey} :
    (candidateOf publicKey file key).LeadsOn context ↔
      key.kind ≠ .guarded ∧ Undecrypted (KeyStore.unlockFile key publicKey none context) := by
  rw [Candidate.LeadsOn, isProtected_candidateOf, unlock_candidateOf_eq]

theorem candidateOf_mem {publicKey : PublicRecord} {files : List SecretFile} {file : SecretFile}
    {key : AgentKey} (hfile : file ∈ files)
    (hheld : heldKey? publicKey.key file.content = some key) :
    candidateOf publicKey file key ∈ candidatesAmong publicKey files :=
  List.mem_filterMap.mpr ⟨file, hfile, by rw [hheld, Option.map_some]⟩

/-- What is collected up to a candidate comes from files in front of its own. -/
theorem exists_file_of_collect {publicKey : PublicRecord} {files : List SecretFile}
    {failure : Option Fault} {front behind : List Candidate} {candidate : Candidate}
    (hcollect : (Listing.collect (candidate? publicKey (some publicKey.key)) files failure).items
      = front ++ candidate :: behind) :
    ∃ before file after key, files = before ++ file :: after ∧
      heldKey? publicKey.key file.content = some key ∧
      candidate = candidateOf publicKey file key ∧
      (∀ other ∈ before, AgentKey.Loads other.content ∨ AgentKey.Malformed other.content) ∧
      front = candidatesAmong publicKey before := by
  obtain ⟨before, file, after, rfl, hfile, hbefore⟩ := Listing.exists_item_of_collect hcollect
  obtain ⟨key, hheld, rfl⟩ := Option.map_eq_some_iff.mp (held_of_candidate? hfile)
  have hloads : ∀ other ∈ before,
      AgentKey.Loads other.content ∨ AgentKey.Malformed other.content := by
    intro other hother
    obtain ⟨-, hread⟩ := Listing.of_failure_collect_eq_none (congrArg Listing.failure hbefore)
    obtain ⟨answer, hanswer⟩ := hread other hother
    rw [AgentKey.loads_or_malformed_iff]
    intro hheaded
    cases (candidate?_of_listHeaded hheaded).symm.trans hanswer
  rw [collect_candidate? hloads] at hbefore
  exact ⟨before, file, after, key, rfl, hheld, rfl, hloads,
    (congrArg Listing.items hbefore).symm⟩

/-- A file among others is a candidate behind those of the files in front of it. -/
theorem exists_items_collect {publicKey : PublicRecord} {before : List SecretFile}
    (hbefore : ∀ other ∈ before,
      AgentKey.Loads other.content ∨ AgentKey.Malformed other.content)
    {file : SecretFile} {key : AgentKey} (hheld : heldKey? publicKey.key file.content = some key)
    (after : List SecretFile) (failure : Option Fault) :
    ∃ behind, (Listing.collect (candidate? publicKey (some publicKey.key))
        (before ++ file :: after) failure).items
      = candidatesAmong publicKey before ++ candidateOf publicKey file key :: behind := by
  have hfile : candidate? publicKey (some publicKey.key) file
      = .ok (some (candidateOf publicKey file key)) := by
    have hloads := AgentKey.loads_or_malformed_iff.mp (.inl ⟨key, load_of_heldKey? hheld⟩)
    rw [candidate?_eq_ok hloads, found_eq, hheld, Option.map_some]
  have hread : Listing.collect (candidate? publicKey (some publicKey.key)) before none
      = ⟨candidatesAmong publicKey before, none⟩ := collect_candidate? hbefore
  have hcollect := Listing.collect_append_of_collect hread (file :: after) failure
  rw [Listing.collect, hfile] at hcollect
  exact ⟨_, congrArg Listing.items hcollect⟩

/-- A question is one about the candidates in a directory. -/
theorem exists_candidates_of_question?
    (hquestion : (plan around id explicit).question? = some record) :
    ∃ keybox directory publicKey listing,
      place around explicit = .ok (.keybox keybox directory) ∧
      selectCertificate around.tree id keybox = .ok publicKey ∧
      candidates around.tree publicKey directory = .ok listing ∧
      (candidatesPlan around.context (noSecretKey id publicKey directory) listing.failure none
        listing.items).question? = some record := by
  unfold plan at hquestion
  split at hquestion
  · cases hquestion
  · cases hquestion
  · rename_i keybox directory hplace
    split at hquestion
    · cases hquestion
    · rename_i publicKey hselect
      split at hquestion
      · cases hquestion
      · rename_i listing hlisting
        exact ⟨keybox, directory, publicKey, listing, hplace, hselect, hlisting, hquestion⟩
  · cases hquestion

/-- The question of a plan is about the protected candidate that the search comes to. -/
theorem question?_plan_iff :
    (plan around id explicit).question? = some record ↔ Reaches around id explicit record := by
  constructor
  · intro hquestion
    obtain ⟨keybox, directory, publicKey, listing, hplace, hselect, hlisting, hasks⟩ :=
      exists_candidates_of_question? hquestion
    obtain ⟨front, candidate, behind, hitems, hfront, hprotected, rfl⟩ :=
      exists_of_question?_candidatesPlan none hasks
    obtain ⟨material, files, hmaterial, hfiles, rfl⟩ := candidates_eq_ok hlisting
    obtain rfl : some publicKey.key = material :=
      Except.ok.inj ((findMaterial_of_located hselect).symm.trans hmaterial)
    -- The candidates in front of the one asked about are those of the files in front of its own.
    obtain ⟨listed, failure⟩ := files
    obtain ⟨before, file, after, key, rfl, hheld, rfl, hloads, rfl⟩ :=
      exists_file_of_collect hitems
    refine .file hplace hselect hfiles ?_ hheld (isProtected_candidateOf.mp hprotected)
    intro other hother
    refine ⟨hloads other hother, fun held hholds => ?_⟩
    exact leadsOn_candidateOf.mp (hfront _ (candidateOf_mem hother hholds))
  · rintro ⟨hplace, hselect, hfiles, hfront, hheld, hkind⟩
    rename_i keybox directory publicKey front behind file failure key
    obtain ⟨others, hitems⟩ :=
      exists_items_collect (fun other hother => (hfront other hother).1) hheld behind failure
    have hleads : ∀ candidate ∈ candidatesAmong publicKey front,
        candidate.LeadsOn around.context := by
      intro candidate hcandidate
      obtain ⟨other, hother, held, hholds, rfl⟩ := mem_candidatesAmong hcandidate
      exact leadsOn_candidateOf.mpr ((hfront other hother).2 held hholds)
    simp only [plan, hplace, hselect, candidates, findMaterial_of_located hselect, hfiles,
      Listing.filterMapM, hitems]
    obtain ⟨kept, hkept⟩ := question?_append hleads none
    rw [hkept, question?_of_isProtected kept (isProtected_candidateOf.mpr hkind)]

/-! ## A search with all its means -/

/-- What a search may turn to: someone to ask for a passphrase, and a way to unlock a candidate.
Both may leave a mark in a state. -/
structure Means (σ : Type) where
  provide : Provider σ
  unlock : Candidate → Option Octets → σ → Except Fault Transferable.Ring × σ

/-- A provider, and the way that candidates are unlocked. -/
def Means.of (provider : Provider σ) (context : AgentKey.Context) : Means σ where
  provide := provider
  unlock candidate passphrase state :=
    (KeyStore.unlockFile candidate.key candidate.record.publicKey passphrase context, state)

/-- Goes through candidates: takes the first, or tries one after the other to unlock it. -/
def searchCandidates (unlocks : Bool) (means : Means σ) (missing : Fault)
    (failure first : Option Fault) :
    List Candidate → Fetching σ → Except Fault Resolved × Fetching σ
  | [], fetching => (.error ((failure.or first).getD missing), fetching)
  | candidate :: rest, fetching =>
    if unlocks then
      match candidate.passphrase means.provide fetching with
      | (.error fault, fetching) => (.error fault, fetching)
      | (.ok passphrase, fetching) =>
        match means.unlock candidate passphrase fetching.state with
        | (.ok ring, state) => (.ok ⟨candidate.record, some ring⟩, { fetching with state })
        | (.error (.failed (.undecrypted reason)), state) =>
          searchCandidates unlocks means missing failure
            (first.or (some (.failed (.undecrypted reason)))) rest { fetching with state }
        | (.error fault, state) => (.error fault, { fetching with state })
    else (.ok ⟨candidate.record, none⟩, fetching)

/-- The search for the secret key that is wanted, which unlocks it or does not. -/
def search (unlocks : Bool) (means : Means σ) (around : Surroundings) (wanted : Wanted)
    (explicit : Option Path) (fetching : Fetching σ) : Except Fault Resolved × Fetching σ :=
  match wanted.keyId with
  | .error fault => (.error fault, fetching)
  | .ok id =>
    match place around explicit with
    | .error fault => (.error fault, fetching)
    | .ok (.keyring path) =>
      ((findInKeyring around.tree id path).map fun record => ⟨record, none⟩, fetching)
    | .ok (.keybox path directory) =>
      match selectCertificate around.tree id path with
      | .error fault => (.error fault, fetching)
      | .ok publicKey =>
        match candidates around.tree publicKey directory with
        | .error fault => (.error fault, fetching)
        | .ok listing =>
          searchCandidates unlocks means (noSecretKey id publicKey directory) listing.failure none
            listing.items fetching
    | .ok (.nowhere home) => (.error (noStore id home), fetching)

section Search

variable {means : Means σ} {fetching : Fetching σ}

theorem searchCandidates_true {context : AgentKey.Context} {provider : Provider σ}
    {missing : Fault} {failure : Option Fault} (candidates : List Candidate) :
    ∀ (first : Option Fault) (fetching : Fetching σ),
      searchCandidates true (.of provider context) missing failure first candidates fetching
        = tryCandidates context provider missing failure first candidates fetching := by
  induction candidates with
  | nil => exact fun first fetching => rfl
  | cons candidate rest ih =>
    intro first fetching
    rw [searchCandidates, if_pos rfl, tryCandidates]
    simp only [Means.of]
    rcases candidate.passphrase provider fetching with ⟨answer, after⟩
    cases answer with
    | error fault => rfl
    | ok passphrase =>
      simp only
      cases KeyStore.unlockFile candidate.key candidate.record.publicKey passphrase context with
      | ok ring => rfl
      | error fault =>
        cases fault with
        | failed failure =>
          cases failure with
          -- Unlocking leaves no mark, so both go on with the same passphrase at hand.
          | undecrypted reason => exact ih _ after
          | _ => rfl
        | _ => rfl

/-- With a provider and the way that candidates are unlocked, searching is resolving. -/
theorem search_true (around : Surroundings) (wanted : Wanted) (explicit : Option Path)
    (provider : Provider σ) (fetching : Fetching σ) :
    search true (.of provider around.context) around wanted explicit fetching
      = resolveWanted around wanted explicit provider fetching := by
  unfold search resolveWanted
  cases wanted.keyId with
  | error fault => rfl
  | ok id =>
    unfold resolve
    cases place around explicit with
    | error fault => rfl
    | ok found =>
      cases found with
      | keyring path => rfl
      | nowhere home => rfl
      | keybox path directory =>
        simp only [resolveInDirectory]
        cases selectCertificate around.tree id path with
        | error fault => rfl
        | ok publicKey =>
          simp only
          cases candidates around.tree publicKey directory with
          | error fault => rfl
          | ok listing => exact searchCandidates_true listing.items none fetching

/-- A search that does not unlock is finding, and it turns to none of its means. -/
theorem search_false (means : Means σ) (around : Surroundings) (wanted : Wanted)
    (explicit : Option Path) (fetching : Fetching σ) :
    search false means around wanted explicit fetching
      = ((findWanted around wanted explicit).map fun record => ⟨record, none⟩, fetching) := by
  unfold search
  cases hid : wanted.keyId with
  | error fault =>
    rw [findWanted, hid]
    rfl
  | ok id =>
    rw [findWanted_of_keyId hid]
    cases hplace : place around explicit with
    | error fault =>
      rw [find_eq, hplace]
      rfl
    | ok found =>
      cases found with
      | keyring path =>
        rw [find_eq, hplace]
      | nowhere home =>
        rw [find_eq, hplace]
        rfl
      | keybox path directory =>
        cases hselect : selectCertificate around.tree id path with
        | error fault =>
          rw [find_eq, hplace]
          simp only [hselect]
          rfl
        | ok publicKey =>
          rw [find_of_keybox hplace hselect]
          cases hlisting : candidates around.tree publicKey directory with
          | error fault =>
            simp only [hselect, hlisting, findInDirectory]
            rfl
          | ok listing =>
            simp only [hselect, hlisting]
            -- Without candidates both report what ended them; else the first is the answer.
            cases hitems : listing.items with
            | nil =>
              rw [findInDirectory_of_nil hlisting hitems, searchCandidates, Option.or_none]
              rfl
            | cons first others =>
              rw [findInDirectory_of_items hlisting hitems, searchCandidates]
              rfl

end Search

/-! ## At most one question -/

/-- A search that ends before any protected candidate asks nothing: there is none among its files,
or one of the files in front of the first is not gone past. -/
theorem not_reaches_of_ends {keybox directory : Path} {publicKey : PublicRecord}
    {front behind : List SecretFile} {failure : Option Fault}
    (hplace : place around explicit = .ok (.keybox keybox directory))
    (hselect : selectCertificate around.tree id keybox = .ok publicKey)
    (hfiles : KeyStore.secretDirectory around.tree directory = .ok ⟨front ++ behind, failure⟩)
    (hclear : ∀ file ∈ front, ∀ key, heldKey? publicKey.key file.content = some key →
      key.kind ≠ .guarded)
    (hends : behind = [] ∨ ∃ file ∈ front, ¬ LeadsOn around.context publicKey file) :
    ¬ Reaches around id explicit record := by
  rintro ⟨hplace', hselect', hfiles', hfront, hheld, hkind⟩
  cases hplace.symm.trans hplace'
  cases hselect.symm.trans hselect'
  -- The protected candidate is not in the front, so the whole front is gone past.
  have hlisted := congrArg Listing.items (Except.ok.inj (hfiles.symm.trans hfiles'))
  rcases List.append_eq_append_iff.mp hlisted with
    ⟨passed, rfl, rfl⟩ | ⟨passed, rfl, hpassed⟩
  · rcases hends with hnil | ⟨stop, hstop, hleads⟩
    · simp at hnil
    · exact hleads (hfront stop (List.mem_append_left _ hstop))
  · cases passed with
    | nil =>
      rcases hends with rfl | ⟨stop, hstop, hleads⟩
      · cases hpassed
      · exact hleads (hfront stop (by simpa using hstop))
    | cons first passed =>
      obtain ⟨rfl, -⟩ := List.cons.inj hpassed
      exact hclear _ (List.mem_append_right _ List.mem_cons_self) _ hheld hkind

/-- While a key is resolved the provider is asked at most once, whatever it answers. It is asked
about the first protected candidate, if the search comes to one in the directory of a keybox: not if
a keyring is searched, not without a certificate, and not if the search ends before. And finding a
key is the same search with no means at all: nobody is asked and nothing is unlocked. -/
theorem resolve_asks_once (around : Surroundings) (wanted : Wanted) (explicit : Option Path)
    (provider : Provider σ) (state : σ) :
    ((resolveWanted around wanted explicit (recorded provider) ⟨none, ([], state)⟩).1
        = (resolveWanted around wanted explicit provider ⟨none, state⟩).1 ∧
      (resolveWanted around wanted explicit (recorded provider) ⟨none, ([], state)⟩).2.state.2
        = (resolveWanted around wanted explicit provider ⟨none, state⟩).2.state) ∧
    (asked around wanted explicit provider state).length ≤ 1 ∧
    (∀ record, record ∈ asked around wanted explicit provider state ↔
      ∃ id, wanted.keyId = .ok id ∧ Reaches around id explicit record) ∧
    (∀ path, place around explicit = .ok (.keyring path) →
      asked around wanted explicit provider state = []) ∧
    (∀ id keybox directory, wanted.keyId = .ok id →
      place around explicit = .ok (.keybox keybox directory) →
      findInKeybox around.tree id keybox = .ok none →
      asked around wanted explicit provider state = []) ∧
    (∀ id keybox directory publicKey front behind failure, wanted.keyId = .ok id →
      place around explicit = .ok (.keybox keybox directory) →
      selectCertificate around.tree id keybox = .ok publicKey →
      KeyStore.secretDirectory around.tree directory = .ok ⟨front ++ behind, failure⟩ →
      (∀ file ∈ front, ∀ key, heldKey? publicKey.key file.content = some key →
        key.kind ≠ .guarded) →
      (behind = [] ∨ ∃ file ∈ front, ¬ LeadsOn around.context publicKey file) →
      asked around wanted explicit provider state = []) ∧
    (∀ fetching : Fetching σ, search true (.of provider around.context) around wanted explicit
      fetching = resolveWanted around wanted explicit provider fetching) ∧
    ∀ (means : Means σ) (fetching : Fetching σ), search false means around wanted explicit fetching
      = ((findWanted around wanted explicit).map fun record => ⟨record, none⟩, fetching) := by
  have hasked : ∀ record, record ∈ asked around wanted explicit provider state ↔
      ∃ id, wanted.keyId = .ok id ∧ Reaches around id explicit record := by
    intro record
    simp only [mem_asked_iff, question?_plan_iff]
  have hnothing : (∀ id record, wanted.keyId = .ok id → ¬ Reaches around id explicit record) →
      asked around wanted explicit provider state = [] := by
    intro hnone
    refine List.eq_nil_iff_forall_not_mem.mpr fun record hmem => ?_
    obtain ⟨id, hid, hreaches⟩ := (hasked record).mp hmem
    exact hnone id record hid hreaches
  refine ⟨resolveWanted_recorded provider state, length_asked_le provider state, hasked, ?_, ?_, ?_,
    search_true around wanted explicit provider,
    fun means => search_false means around wanted explicit⟩
  · intro path hplace
    apply hnothing
    rintro id record - ⟨hplace', -⟩
    cases hplace.symm.trans hplace'
  · intro id keybox directory hid hplace hmissing
    apply hnothing
    rintro id' record hid' ⟨hplace', hselect, -⟩
    cases hid.symm.trans hid'
    cases hplace.symm.trans hplace'
    rw [selectCertificate, hmissing] at hselect
    cases hselect
  · intro id keybox directory publicKey front behind failure hid hplace hselect hfiles hclear hends
    apply hnothing
    intro id' record hid'
    cases hid.symm.trans hid'
    exact not_reaches_of_ends hplace hselect hfiles hclear hends

/-- Of two protected files the first is asked about, and not the second when the passphrase does not
decrypt the first. Behind a file in the clear nothing is asked, nor is it for a keyring, nor for a
key that is not in the keybox. -/
theorem resolve_asks_once_small :
    asked (homeWith [("a", guardedTinyFile), ("b", guardedTinyFile)]) (.text Signer.tinyName) none
        noPassphrase ()
      = [homeRecord ("a", guardedTinyFile) guardedTinyKey] ∧
    asked (homeWith [("a", wholeTinyFile), ("b", guardedTinyFile)]) (.read tinyId) none
        noPassphrase () = [] ∧
    asked Signer.ringSurroundings (.read tinyId) none noPassphrase () = [] ∧
    asked (homeWith []) (.read strayId) none noPassphrase () = [] := by
  have hguarded : heldKey? homeCertificate.key guardedTinyFile = some guardedTinyKey :=
    heldKey?_guardedTinyFile
  refine ⟨?_, ?_, ?_, ?_⟩
  · obtain ⟨-, honce, hasked, -⟩ :=
      resolve_asks_once (homeWith [("a", guardedTinyFile), ("b", guardedTinyFile)])
        (.text Signer.tinyName) none noPassphrase ()
    have hfiles : KeyStore.secretDirectory
        (homeWith [("a", guardedTinyFile), ("b", guardedTinyFile)]).tree homeDirectory
          = .ok ⟨[] ++ homeFile ("a", guardedTinyFile) :: [homeFile ("b", guardedTinyFile)],
              none⟩ :=
      secretDirectory_homeWith (by decide)
    have hmem := (hasked (homeRecord ("a", guardedTinyFile) guardedTinyKey)).mpr
      ⟨tinyId, Signer.ofText_tinyName, .file (place_homeWith _) (selectCertificate_homeWith _)
        hfiles (List.forall_mem_nil _) hguarded rfl⟩
    obtain ⟨record, hrecord⟩ :=
      List.length_eq_one_iff.mp (honce.antisymm (List.length_pos_of_mem hmem))
    rw [hrecord] at hmem ⊢
    rw [List.mem_singleton.mp hmem]
  · obtain ⟨-, -, -, -, -, hends, -⟩ :=
      resolve_asks_once (homeWith [("a", wholeTinyFile), ("b", guardedTinyFile)])
        (.read tinyId) none noPassphrase ()
    have hfiles : KeyStore.secretDirectory
        (homeWith [("a", wholeTinyFile), ("b", guardedTinyFile)]).tree homeDirectory
          = .ok ⟨[homeFile ("a", wholeTinyFile)] ++ [homeFile ("b", guardedTinyFile)], none⟩ :=
      secretDirectory_homeWith (by decide)
    refine hends tinyId homeKeybox homeDirectory homeCertificate _ _ _ rfl (place_homeWith _)
      (selectCertificate_homeWith _) hfiles ?_ (.inr ⟨_, List.mem_singleton_self _, ?_⟩)
    · intro file hfile key hheld
      obtain rfl := List.mem_singleton.mp hfile
      obtain rfl := Option.some.inj (heldKey?_wholeTinyFile.symm.trans hheld)
      nofun
    · rintro ⟨-, hleads⟩
      obtain ⟨-, reason, hreason⟩ := hleads wholeTinyKey heldKey?_wholeTinyFile
      obtain ⟨ring, hring⟩ := exists_unlockFile_wholeTinyKey
      cases hring.symm.trans hreason
  · obtain ⟨-, -, -, hkeyring, -⟩ :=
      resolve_asks_once Signer.ringSurroundings (.read tinyId) none noPassphrase ()
    exact hkeyring (Path.here.child "ring") (place_of_override rfl)
  · obtain ⟨-, -, -, -, hmissing, -⟩ :=
      resolve_asks_once (homeWith []) (.read strayId) none noPassphrase ()
    exact hmissing strayId homeKeybox homeDirectory rfl (place_homeWith [])
      (eq_ok_of_toOption (by decide +kernel))

end CommitSeal.Resolution
