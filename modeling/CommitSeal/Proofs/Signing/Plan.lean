import CommitSeal.Proofs.Signing.Faults

/-!
# Plans

An attempt to sign gets at most one passphrase, and which record it is asked for is settled before
any passphrase is known. A `Plan` says so: it is an answer, or one question together with what is
done with the reply. `Resolution.resolve_eq_run` and `Signer.attempt_eq_run` give resolving and
signing the form of a plan which does not depend on the provider, nor on what was asked for earlier.

Once its question is answered, no plan ends in a cancellation (`Signer.plan_neverCancels`): that is
left to the provider.
-/

namespace CommitSeal

open Signer (isCancelled Uncancelled)

namespace Resolution

variable {α σ : Type}

/-- What an operation does with a provider of passphrases. -/
inductive Plan (α : Type) where
  /-- It gives an answer without a passphrase. -/
  | settled (answer : Except Fault α)
  /-- It fetches the passphrase for a record, and gives the answer that it leads to. -/
  | asks (record : SecretRecord) (next : Option Octets → Except Fault α)

namespace Plan

/-- The answer of a plan, and what asking its question changes. -/
def run (provider : Provider σ) (state : σ) : Plan α → Except Fault α × σ
  | settled answer => (answer, state)
  | asks record next =>
    match provider record state with
    | (.ok passphrase, state) => (next passphrase, state)
    | (.error fault, state) => (.error fault, state)

/-- Whether the answer to a plan's question, whatever it is, leads to no cancellation. -/
def NeverCancels : Plan α → Prop
  | settled _ => True
  | asks _ next => ∀ passphrase, Uncancelled (next passphrase)

end Plan

/-! ## Resolving -/

/-- The provider of one passphrase, whatever the record. -/
def always (passphrase : Option Octets) : Provider Unit := fun _ state => (.ok passphrase, state)

section Candidates

variable (context : AgentKey.Context) (missing : Fault) (failure : Option Fault)

/-- The plan of trying candidates: those in front of the first protected one need no passphrase. -/
def candidatesPlan (first : Option Fault) : List Candidate → Plan Resolved
  | [] => .settled (.error ((failure.or first).getD missing))
  | candidate :: rest =>
    if candidate.record.isProtected then
      .asks candidate.record fun passphrase =>
        (tryCandidates context (always passphrase) missing failure first (candidate :: rest)
          ⟨some passphrase, ()⟩).1
    else
      match KeyStore.unlockFile candidate.key candidate.record.publicKey none context with
      | .ok ring => .settled (.ok ⟨candidate.record, some ring⟩)
      | .error (.failed (.undecrypted reason)) =>
        candidatesPlan (first.or (some (.failed (.undecrypted reason)))) rest
      | .error fault => .settled (.error fault)

/-- What a candidate is given when a passphrase has been fetched. -/
theorem passphrase_of_fetched (provider : Provider σ) (candidate : Candidate)
    (passphrase : Option Octets) (state : σ) :
    candidate.passphrase provider ⟨some passphrase, state⟩
      = (.ok (if candidate.record.isProtected then passphrase else none),
          ⟨some passphrase, state⟩) := by
  by_cases hprotected : candidate.record.isProtected = true <;>
    simp [Candidate.passphrase, Fetching.get, hprotected]

/-- Once a passphrase is fetched, the provider is not turned to any more. -/
theorem tryCandidates_of_fetched (provider : Provider σ) (passphrase : Option Octets) (state : σ)
    (candidates : List Candidate) :
    ∀ first : Option Fault,
      tryCandidates context provider missing failure first candidates ⟨some passphrase, state⟩
        = ((tryCandidates context (always passphrase) missing failure first candidates
            ⟨some passphrase, ()⟩).1, ⟨some passphrase, state⟩) := by
  induction candidates with
  | nil => intro first; rfl
  | cons candidate rest ih =>
    intro first
    simp only [tryCandidates, passphrase_of_fetched]
    cases hunlock : KeyStore.unlockFile candidate.key candidate.record.publicKey
        (if candidate.record.isProtected then passphrase else none) context with
    | ok ring => rfl
    | error fault =>
      split
      · rfl
      · exact ih _
      · rfl

/-- Trying candidates follows their plan. -/
theorem tryCandidates_eq_run (provider : Provider σ) (state : σ) (candidates : List Candidate) :
    ∀ first : Option Fault,
      ((tryCandidates context provider missing failure first candidates ⟨none, state⟩).1,
        (tryCandidates context provider missing failure first candidates ⟨none, state⟩).2.state)
        = (candidatesPlan context missing failure first candidates).run provider state := by
  induction candidates with
  | nil => intro first; rfl
  | cons candidate rest ih =>
    intro first
    by_cases hprotected : candidate.record.isProtected = true
    · -- The question is put here; what follows it is what follows a fetched passphrase.
      have hfetched := tryCandidates_of_fetched context missing failure provider
      simp only [candidatesPlan, hprotected, if_true, Plan.run]
      rcases hprovided : provider candidate.record state with ⟨answer, after⟩
      cases answer with
      | error fault =>
        simp [tryCandidates, Candidate.passphrase, Fetching.get, hprotected, hprovided]
      | ok passphrase =>
        have hsame : tryCandidates context provider missing failure first (candidate :: rest)
              ⟨none, state⟩
            = tryCandidates context provider missing failure first (candidate :: rest)
              ⟨some passphrase, after⟩ := by
          simp [tryCandidates, Candidate.passphrase, Fetching.get, hprotected, hprovided]
        rw [hsame, hfetched]
    · simp only [candidatesPlan, tryCandidates, Candidate.passphrase, hprotected,
        Bool.false_eq_true, if_false]
      cases hunlock : KeyStore.unlockFile candidate.key candidate.record.publicKey none
          context with
      | ok ring => rfl
      | error fault =>
        split
        · rename_i h
          cases h
        · rename_i h
          cases h
          exact ih _
        · rename_i h
          cases h
          simp_all [Plan.run]

/-- The first failure to decrypt is no cancellation, whether or not there was one before. -/
theorem isCancelled_or {first : Option Fault} (reason : String)
    (hfirst : ∀ fault, first = some fault → isCancelled fault = false) :
    ∀ fault, first.or (some (.failed (.undecrypted reason))) = some fault →
      isCancelled fault = false := by
  intro fault hfault
  cases first with
  | some earlier => exact hfirst fault hfault
  | none =>
    obtain rfl := Option.some.inj hfault
    rfl

/-- Trying candidates with a passphrase at hand does not cancel. -/
theorem uncancelled_tryCandidates (passphrase : Option Octets) (candidates : List Candidate)
    (hmissing : isCancelled missing = false)
    (hfailure : ∀ fault, failure = some fault → isCancelled fault = false) :
    ∀ first : Option Fault, (∀ fault, first = some fault → isCancelled fault = false) →
      Uncancelled (tryCandidates context (always passphrase) missing failure first candidates
        ⟨some passphrase, ()⟩).1 := by
  induction candidates with
  | nil =>
    intro first hfirst
    cases failure with
    | some fault => exact hfailure fault rfl
    | none =>
      cases first with
      | some fault => exact hfirst fault rfl
      | none => exact hmissing
  | cons candidate rest ih =>
    intro first hfirst
    have hunlock := KeyStore.uncancelled_unlockFile candidate.key candidate.record.publicKey
      (if candidate.record.isProtected then passphrase else none) context
    simp only [tryCandidates, passphrase_of_fetched]
    split
    · trivial
    · exact ih _ (isCancelled_or _ hfirst)
    · rename_i hfault
      rw [hfault] at hunlock
      exact hunlock

/-- Trying candidates does not cancel, once their question is answered. -/
theorem candidatesPlan_neverCancels (candidates : List Candidate)
    (hmissing : isCancelled missing = false)
    (hfailure : ∀ fault, failure = some fault → isCancelled fault = false) :
    ∀ first : Option Fault, (∀ fault, first = some fault → isCancelled fault = false) →
      (candidatesPlan context missing failure first candidates).NeverCancels := by
  induction candidates with
  | nil => intro first _; trivial
  | cons candidate rest ih =>
    intro first hfirst
    unfold candidatesPlan
    split
    · intro passphrase
      exact uncancelled_tryCandidates context missing failure passphrase _ hmissing hfailure
        first hfirst
    · split
      · trivial
      · exact ih _ (isCancelled_or _ hfirst)
      · trivial

end Candidates

/-- The plan of resolving an identifier. -/
def plan (around : Surroundings) (id : KeyId) (explicit : Option Path) : Plan Resolved :=
  match place around explicit with
  | .error fault => .settled (.error fault)
  | .ok (.keyring path) =>
    .settled ((findInKeyring around.tree id path).map fun record => ⟨record, none⟩)
  | .ok (.keybox path directory) =>
    match selectCertificate around.tree id path with
    | .error fault => .settled (.error fault)
    | .ok publicKey =>
      match candidates around.tree publicKey directory with
      | .error fault => .settled (.error fault)
      | .ok candidates =>
        candidatesPlan around.context (noSecretKey id publicKey directory) candidates.failure none
          candidates.items
  | .ok (.nowhere home) => .settled (.error (noStore id home))

/-- With a keybox the plan is to try the candidates for the certificate. -/
theorem plan_of_candidates {around : Surroundings} {id : KeyId} {explicit : Option Path}
    {path directory : Path} {publicKey : PublicRecord} {listing : Listing Fault Candidate}
    (hplace : place around explicit = .ok (.keybox path directory))
    (hselect : selectCertificate around.tree id path = .ok publicKey)
    (hlisting : candidates around.tree publicKey directory = .ok listing) :
    plan around id explicit
      = candidatesPlan around.context (noSecretKey id publicKey directory) listing.failure none
          listing.items := by
  unfold plan
  rw [hplace]
  simp only [hselect, hlisting]

/-- Resolving follows its plan. -/
theorem resolve_eq_run (around : Surroundings) (id : KeyId) (explicit : Option Path)
    (provider : Provider σ) (state : σ) :
    ((resolve around id explicit provider ⟨none, state⟩).1,
      (resolve around id explicit provider ⟨none, state⟩).2.state)
      = (plan around id explicit).run provider state := by
  simp only [resolve, plan]
  cases place around explicit with
  | error fault => rfl
  | ok found =>
    cases found with
    | keyring path => rfl
    | nowhere home => rfl
    | keybox path directory =>
      cases hselect : selectCertificate around.tree id path with
      | error fault => simp [hselect, Plan.run]
      | ok publicKey =>
        simp only [hselect, resolveInDirectory]
        cases candidates around.tree publicKey directory with
        | error fault => rfl
        | ok candidates => exact tryCandidates_eq_run _ _ _ provider state _ _

/-- Resolving does not cancel, once its question is answered. -/
theorem plan_neverCancels (around : Surroundings) (id : KeyId) (explicit : Option Path) :
    (plan around id explicit).NeverCancels := by
  unfold plan
  split
  · trivial
  · trivial
  · split
    · trivial
    · split
      · trivial
      · rename_i hcandidates
        refine candidatesPlan_neverCancels _ _ _ _ rfl (fun fault hfault => ?_) none nofun
        obtain rfl | rfl := candidates_failure hcandidates hfault <;> rfl
  · trivial

end Resolution

/-! ## Signing -/

namespace Signer

open Resolution (Plan Resolved)
open Transferable (Certification)

variable (around : Surroundings) (id : KeyId) (explicit : Option Path) (payload : Octets)

/-- The signature by a resolved key, with the passphrase that was fetched for it. -/
def signGiven (passphrase : Option Octets) (resolved : Resolved) : Except Fault Certification :=
  match resolved.unlocked with
  | some ring => signWith around.now payload resolved.record ring
  | none => signRecord around payload resolved.record passphrase

/-- The plan of signing with a key that was resolved without a passphrase. -/
def resolvedPlan (resolved : Resolved) : Plan Certification :=
  if resolved.unlocked.isNone && needsPassphrase resolved.record then
    .asks resolved.record fun passphrase => signGiven around payload passphrase resolved
  else .settled (signGiven around payload none resolved)

/-- The plan of an attempt to sign. -/
def plan : Plan Certification :=
  match Resolution.plan around id explicit with
  | .settled (.error fault) => .settled (.error fault)
  | .settled (.ok resolved) => resolvedPlan around payload resolved
  | .asks record next => .asks record fun passphrase =>
      match next passphrase with
      | .error fault => .error fault
      | .ok resolved => signGiven around payload passphrase resolved

/-- An attempt asks by way of the coordinator, and remembers the passphrase. -/
theorem ask_eq_ok {record : SecretRecord} {asking after : Asking} {passphrase : Option Octets}
    (hask : asking.ask record = (.ok passphrase, after)) :
    after.passphrase = passphrase ∧ passphrase.isSome = true := by
  unfold Asking.ask at hask
  split at hask
  · obtain ⟨hpassphrase, rfl⟩ := Prod.mk.inj hask
    obtain rfl := Except.ok.inj hpassphrase
    simp_all
  · split at hask
    · obtain ⟨hpassphrase, rfl⟩ := Prod.mk.inj hask
      obtain rfl := Except.ok.inj hpassphrase
      simp
    · cases (Prod.mk.inj hask).1

/-- With a passphrase at hand nothing is asked for. -/
theorem signResolved_of_isSome {asking : Asking} (resolved : Resolved)
    (hpassphrase : asking.passphrase.isSome = true) :
    signResolved around payload resolved asking
      = (signGiven around payload asking.passphrase resolved, asking) := by
  obtain ⟨passphrase, hknown⟩ := Option.isSome_iff_exists.mp hpassphrase
  simp only [signResolved, signGiven]
  cases hunlocked : resolved.unlocked with
  | some ring => rfl
  | none =>
    by_cases hneeds : needsPassphrase resolved.record = true <;>
      simp [hneeds, Asking.ask, hknown]

/-- Without one, a key that is still locked is what a passphrase is asked for. -/
theorem signResolved_eq_run {asking : Asking} (resolved : Resolved)
    (hpassphrase : asking.passphrase = none) :
    signResolved around payload resolved asking
      = (resolvedPlan around payload resolved).run Asking.ask asking := by
  unfold signResolved resolvedPlan
  cases hunlocked : resolved.unlocked with
  | some ring => simp [signGiven, hunlocked, Plan.run]
  | none =>
    by_cases hneeds : needsPassphrase resolved.record = true
    · simp only [hneeds, if_true, Option.isNone_none, Bool.and_self, Plan.run, signGiven,
        hunlocked]
      rcases hask : asking.ask resolved.record with ⟨answer, after⟩
      cases answer <;> rfl
    · simp [hneeds, signGiven, hunlocked, Plan.run, hpassphrase]

/-- An attempt follows its plan. -/
theorem attempt_eq_run {asking : Asking} (hpassphrase : asking.passphrase = none) :
    attempt around id explicit payload asking
      = (plan around id explicit payload).run Asking.ask asking := by
  have hresolve := Resolution.resolve_eq_run around id explicit Asking.ask asking
  unfold attempt plan
  rcases hresolved : Resolution.resolve around id explicit Asking.ask ⟨none, asking⟩
    with ⟨answer, known, reached⟩
  rw [hresolved] at hresolve
  cases hplan : Resolution.plan around id explicit with
  | settled settledAnswer =>
    rw [hplan] at hresolve
    obtain ⟨rfl, hreached⟩ := Prod.mk.inj hresolve
    obtain rfl : reached = asking := hreached
    cases answer with
    | error fault => rfl
    | ok resolved => exact signResolved_eq_run around payload resolved hpassphrase
  | asks record next =>
    rw [hplan] at hresolve
    simp only [Plan.run] at hresolve ⊢
    rcases hask : asking.ask record with ⟨reply, after⟩
    rw [hask] at hresolve
    cases reply with
    | error fault =>
      obtain ⟨rfl, hreached⟩ := Prod.mk.inj hresolve
      obtain rfl : reached = after := hreached
      rfl
    | ok passphrase =>
      -- The passphrase is remembered, so signing does not ask again.
      obtain ⟨hfetched, hsome⟩ := ask_eq_ok hask
      obtain ⟨hanswer, hreached⟩ := Prod.mk.inj hresolve
      obtain rfl : reached = after := hreached
      simp only [← hanswer]
      cases answer with
      | error fault => rfl
      | ok resolved =>
        simp only
        rw [signResolved_of_isSome around payload resolved (by rw [hfetched]; exact hsome),
          hfetched]

/-! ## Cancellations -/

/-- Signing with a resolved key does not cancel. -/
theorem uncancelled_signGiven (passphrase : Option Octets) (resolved : Resolved) :
    Uncancelled (signGiven around payload passphrase resolved) := by
  unfold signGiven
  split
  · exact uncancelled_signWith _ _ _ _
  · exact uncancelled_signRecord _ _ _ _

/-- An attempt does not cancel, once its question is answered. -/
theorem plan_neverCancels : (plan around id explicit payload).NeverCancels := by
  have hresolve := Resolution.plan_neverCancels around id explicit
  unfold plan
  split
  · trivial
  · unfold resolvedPlan
    split
    · exact fun passphrase => uncancelled_signGiven around payload passphrase _
    · trivial
  · rename_i record next hplan
    rw [hplan] at hresolve
    intro passphrase
    have hnext := hresolve passphrase
    cases hanswer : next passphrase with
    | error fault =>
      rw [hanswer] at hnext
      simpa [hanswer] using hnext
    | ok resolved => simpa [hanswer] using uncancelled_signGiven around payload passphrase resolved

end Signer

end CommitSeal
