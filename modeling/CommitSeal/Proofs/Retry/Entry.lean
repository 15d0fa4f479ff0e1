import CommitSeal.Passphrase.Coordinator
import CommitSeal.Proofs.Text.CodePoint

/-!
# Entries of a coordinator

The state of a coordinator is seen through `Coordinator.entryOf?`: which resources have an entry,
and what is in it. Keeping an entry for one resource is seen at that resource only
(`Coordinator.entryOf?_setEntry`), and what is pending and what is held can be read off the entries
(`Coordinator.mem_pending_iff`, `Coordinator.holds_iff`).

Requests and reports are then equations: a request within the budget issues exactly one prompt,
whose reply decides everything else, and a report is a report on one entry.
-/

namespace CommitSeal

/-! ## The entries of a coordinator -/

namespace Coordinator

variable {coordinator : Coordinator} {resource other : String} {entry : Option Attempts}

/-- Dropping the entries of one resource hides that resource and no other. -/
theorem lookup_filter_ne (entries : List (String × Attempts)) (resource other : String) :
    (entries.filter fun known => known.1 != resource).lookup other
      = if other = resource then none else entries.lookup other := by
  induction entries with
  | nil => simp
  | cons known rest ih =>
    obtain ⟨name, attempts⟩ := known
    by_cases hname : name = resource
    · -- This entry is dropped, and it is no entry of another resource.
      rw [List.filter_cons_of_neg (by simp [hname]), ih]
      by_cases hother : other = resource
      · simp [hother]
      · have hne : (other == name) = false := by simp [hname, hother]
        simp [hother, List.lookup_cons, hne]
    · rw [List.filter_cons_of_pos (by simp [hname]), List.lookup_cons, List.lookup_cons, ih]
      by_cases hother : other = name
      · simp [hother, hname]
      · have hne : (other == name) = false := by simp [hother]
        simp [hne]

/-- Keeping an entry for one resource is seen at that resource only. -/
theorem entryOf?_setEntry :
    (coordinator.setEntry resource entry).entryOf? other
      = if other = resource then entry else coordinator.entryOf? other := by
  simp only [setEntry, entryOf?, List.lookup_append, lookup_filter_ne]
  by_cases hother : other = resource
  · cases entry <;> simp [hother]
  · have hne : (other == resource) = false := by simp [hother]
    cases entry <;> simp [hother, List.lookup_cons, hne]

@[simp]
theorem entryOf?_setEntry_self :
    (coordinator.setEntry resource entry).entryOf? resource = entry := by
  rw [entryOf?_setEntry, if_pos rfl]

theorem entryOf?_setEntry_of_ne (hne : other ≠ resource) :
    (coordinator.setEntry resource entry).entryOf? other = coordinator.entryOf? other := by
  rw [entryOf?_setEntry, if_neg hne]

/-- A resource is being asked for exactly when it has an entry. -/
theorem mem_pending_iff :
    resource ∈ coordinator.pending ↔ (coordinator.entryOf? resource).isSome = true := by
  simp only [pending, entryOf?, List.mem_mergeSort, List.mem_map, List.lookup_isSome_iff]
  constructor
  · rintro ⟨known, hknown, rfl⟩
    exact ⟨known, hknown, by simp⟩
  · rintro ⟨known, hknown, hname⟩
    exact ⟨known, hknown, (by simpa using hname : resource = known.1).symm⟩

/-- A passphrase is held exactly where an entry has one. -/
theorem holds_iff :
    coordinator.holds resource = true ↔
      ∃ prompts password, coordinator.entryOf? resource = some ⟨prompts, some password⟩ := by
  cases hentry : coordinator.entryOf? resource with
  | none => simp [holds, hentry]
  | some entry =>
    obtain ⟨prompts, password⟩ := entry
    cases password <;> simp [holds, hentry]

end Coordinator

/-! ## The source behind a request -/

namespace Reply

/-- The content of the buffer that a reply comes in, if it comes in one. -/
def buffer? : Reply → Option Octets
  | buffer passphrase => some passphrase
  | _ => none

/-- A request that meets with a fault met with a source that broke off, or with a text that has no
UTF-8 form. -/
theorem fault?_eq_some_iff {reply : Reply} {fault : Fault} :
    reply.fault? = some fault ↔
      reply = .raised fault ∨
        ∃ points, reply = .text points ∧ Octets.ofPoints? points = none ∧ fault = .unencodable := by
  cases reply with
  | text points => cases hpoints : Octets.ofPoints? points <;> simp [fault?, hpoints, eq_comm]
  | _ => simp [fault?]

/-- No passphrase is a fault. -/
theorem fault?_of_passphrase {reply : Reply} {passphrase : Octets}
    (hreply : reply.passphrase? = some passphrase) : reply.fault? = none := by
  cases reply <;> simp_all [passphrase?, fault?]

/-- What is neither a passphrase nor a fault declines the prompt. -/
theorem eq_declined {reply : Reply} (hfault : reply.fault? = none)
    (hreply : reply.passphrase? = none) : reply = .declined := by
  cases reply <;> simp_all [passphrase?, fault?]

end Reply

namespace Credentials

variable (credentials : Credentials) (prompt : Prompt)

/-- The credentials after a prompt, when its reply has been settled. -/
def settled : Credentials := (credentials.ask prompt).2.wipe (credentials.ask prompt).1

/-- A reply is what the source makes of the text of a prompt. -/
theorem ask_fst : (credentials.ask prompt).1 = (credentials.source.reply prompt.message).1 := rfl

@[simp]
theorem wipe_prompts (reply : Reply) : (credentials.wipe reply).prompts = credentials.prompts := by
  cases reply <;> rfl

@[simp]
theorem wipe_source (reply : Reply) : (credentials.wipe reply).source = credentials.source := by
  cases reply <;> rfl

@[simp]
theorem settled_prompts :
    (credentials.settled prompt).prompts = credentials.prompts ++ [prompt] := by
  simp [settled, ask]

@[simp]
theorem settled_source :
    (credentials.settled prompt).source = (credentials.source.reply prompt.message).2 := by
  simp [settled, ask]

/-- A buffer handed out is cleared when the reply is settled; earlier ones are left alone. -/
theorem settled_lent :
    (credentials.settled prompt).lent
      = credentials.lent ++ ((credentials.ask prompt).1.buffer?.map Octets.wiped).toList := by
  -- The buffer that `ask` puts behind the others is the one that `wipe` takes from there.
  simp only [settled, ask]
  cases (credentials.source.reply prompt.message).1 <;> simp [wipe, Reply.buffer?]

/-- What was said between two states of the credentials: a prompt that was issued, and the reply. -/
def exchange? (before after : Credentials) : Option (Prompt × Reply) :=
  (after.prompts.drop before.prompts.length).head?.map fun prompt =>
    (prompt, (before.source.reply prompt.message).1)

@[simp]
theorem exchange?_self : credentials.exchange? credentials = none := by
  simp [exchange?]

@[simp]
theorem exchange?_settled :
    credentials.exchange? (credentials.settled prompt)
      = some (prompt, (credentials.ask prompt).1) := by
  simp [exchange?, ask_fst]

end Credentials

/-! ## Requests and reports as equations -/

namespace Attempts

variable (entry : Attempts) (resource : String)

/-- A reply that is a passphrase is the answer, and kept. -/
theorem settle_of_passphrase {reply : Reply} {passphrase : Octets}
    (hreply : reply.passphrase? = some passphrase) :
    entry.settle resource reply
      = (.ok passphrase, some ⟨entry.prompts + 1, some passphrase⟩) := by
  simp [settle, Reply.fault?_of_passphrase hreply, hreply]

/-- A reply that is a fault ends the request with it; the prompt counts. -/
theorem settle_of_fault {reply : Reply} {fault : Fault} (hfault : reply.fault? = some fault) :
    entry.settle resource reply = (.error fault, some ⟨entry.prompts + 1, none⟩) := by
  simp [settle, hfault]

/-- A reply is a passphrase, or a fault, or declines the prompt. -/
theorem settle_cases (reply : Reply) :
    (∃ passphrase, reply.passphrase? = some passphrase ∧ entry.settle resource reply
        = (.ok passphrase, some ⟨entry.prompts + 1, some passphrase⟩)) ∨
      (∃ fault, reply.fault? = some fault ∧
        entry.settle resource reply = (.error fault, some ⟨entry.prompts + 1, none⟩)) ∨
      (reply = .declined ∧
        entry.settle resource reply
          = (.error (.failed (Failure.notProvided resource)), none)) := by
  cases hreply : reply.passphrase? with
  | some passphrase => exact .inl ⟨passphrase, rfl, entry.settle_of_passphrase resource hreply⟩
  | none =>
    cases hfault : reply.fault? with
    | some fault => exact .inr (.inl ⟨fault, rfl, entry.settle_of_fault resource hfault⟩)
    | none =>
      obtain rfl := Reply.eq_declined hfault hreply
      exact .inr (.inr ⟨rfl, rfl⟩)

end Attempts

/-- A refused passphrase is followed by another prompt as long as there is one left. -/
theorem Attempts.report_refused (budget : Nat) (entry : Attempts) :
    entry.report budget true .refused
      = if entry.prompts < budget then (.ok true, some ⟨entry.prompts, none⟩)
        else (.ok false, none) := by
  simp [report, fatal?, retries]

/-- A report keeps an entry only to ask for another passphrase, and then without the last one. -/
theorem Attempts.report_cases (budget : Nat) (entry : Attempts) (attempted : Bool)
    (outcome : Outcome) :
    (attempted = true ∧ outcome = .refused ∧ entry.prompts < budget ∧
        entry.report budget attempted outcome = (.ok true, some ⟨entry.prompts, none⟩)) ∨
      ((entry.report budget attempted outcome).1 ≠ .ok true ∧
        (entry.report budget attempted outcome).2 = none) := by
  by_cases hretry : entry.retries budget attempted outcome = true
  · -- Of all outcomes only a refusal is retried.
    have hrefused : outcome = .refused := by
      cases outcome <;> simp_all [retries]
    subst hrefused
    have hcause : attempted = true ∧ entry.prompts < budget := by
      simpa [retries] using hretry
    exact .inl ⟨hcause.1, rfl, hcause.2, by simp [report, fatal?, hretry]⟩
  · right
    cases hfatal : fatal? outcome <;> simp [report, hfatal, hretry]

namespace Coordinator

variable {coordinator : Coordinator} {resource : String} {credentials : Credentials}

/-- The entry that an operation on a resource starts from. -/
def current (coordinator : Coordinator) (resource : String) : Attempts :=
  (coordinator.entryOf? resource).getD .fresh

/-- A request beyond the budget issues no prompt, and leaves no entry. -/
theorem request_of_le (hbudget : coordinator.budget ≤ (coordinator.current resource).prompts) :
    coordinator.request resource credentials
      = (.error (.failed (Failure.noAttemptsLeft resource)),
          coordinator.setEntry resource none, credentials) := by
  simp only [current] at hbudget
  simp [request, Attempts.request, hbudget]

/-- A request within the budget issues one prompt; its reply decides the answer and the entry. -/
theorem request_of_lt (hbudget : (coordinator.current resource).prompts < coordinator.budget) :
    coordinator.request resource credentials
      = (((coordinator.current resource).settle resource
            (credentials.ask ((coordinator.current resource).prompt resource)).1).1,
          coordinator.setEntry resource ((coordinator.current resource).settle resource
            (credentials.ask ((coordinator.current resource).prompt resource)).1).2,
          credentials.settled ((coordinator.current resource).prompt resource)) := by
  have hnot : ¬ coordinator.budget ≤ (coordinator.current resource).prompts := by omega
  simp only [current] at hnot
  simp [request, Attempts.request, hnot, current, Credentials.settled]

/-- A report on a resource without an entry changes nothing. -/
theorem report_of_none {attempted : Bool} {outcome : Outcome}
    (hentry : coordinator.entryOf? resource = none) :
    coordinator.report resource attempted outcome
      = ((Attempts.fatal? outcome).elim (.ok false) .error, coordinator) := by
  simp only [report, hentry]
  cases Attempts.fatal? outcome <;> rfl

/-- A report on a resource with an entry is a report on that entry. -/
theorem report_of_some {entry : Attempts} {attempted : Bool} {outcome : Outcome}
    (hentry : coordinator.entryOf? resource = some entry) :
    coordinator.report resource attempted outcome
      = ((entry.report coordinator.budget attempted outcome).1,
          coordinator.setEntry resource (entry.report coordinator.budget attempted outcome).2) := by
  simp only [report, hentry]

end Coordinator

end CommitSeal
