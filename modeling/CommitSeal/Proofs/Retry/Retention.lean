import CommitSeal.Proofs.Retry.Session

/-!
# What a coordinator retains

After every run the entry of a resource is exactly what the latest operation on that resource moved
it to (`Session.Accounted`), so the past alone says which passphrases are held and which resources
are pending: nothing outlives a report that ends a prompt sequence, a declined prompt or a request
without a prompt left. The buffers that replies came in are zero by then.
-/

namespace CommitSeal.Session

variable {session : Session} {operation : Operation} {resource : String}

/-! ## Entries and the latest event -/

/-- The entry of a resource is what the latest event about it left: none if there was no event. -/
def Accounted (session : Session) (resource : String) : Prop :=
  match session.last? resource with
  | none => session.coordinator.entryOf? resource = none
  | some event => ∃ budget entry,
      Moves budget resource entry event (session.coordinator.entryOf? resource)

theorem last?_step_of_some (hnamed : operation.resource? = some resource) :
    (session.step operation).last? resource = some (session.perform operation).1 := by
  have hevent : (session.perform operation).1.resource? = some resource := by
    rw [resource?_perform, hnamed]
  simp [last?, hevent]

theorem last?_step_of_ne (hne : operation.resource? ≠ some resource) :
    (session.step operation).last? resource = session.last? resource := by
  have hevent : (session.perform operation).1.resource? ≠ some resource := by
    rw [resource?_perform]
    exact hne
  simp [last?, hevent]

theorem accounted_start (budget : Nat) (source : Source) :
    (start budget source).Accounted resource := rfl

/-- One step keeps the account: at the resource that it names by `step_moves`, elsewhere because
neither the entry nor the latest event changes. -/
theorem accounted_step (haccount : session.Accounted resource) :
    (session.step operation).Accounted resource := by
  by_cases hnamed : operation.resource? = some resource
  · simp only [Accounted, last?_step_of_some hnamed]
    exact ⟨_, _, step_moves hnamed⟩
  · simp only [Accounted, last?_step_of_ne hnamed, entryOf?_step_of_ne hnamed]
    exact haccount

theorem accounted_run (budget : Nat) (source : Source) (operations : List Operation)
    (resource : String) : ((start budget source).run operations).Accounted resource :=
  run_induction (motive := fun session => session.Accounted resource) operations
    (accounted_start budget source) fun _ _ => accounted_step

/-! ## What a move leaves -/

section Moves

variable {budget : Nat} {entry kept : Option Attempts} {event : Event}

/-- A passphrase is left behind by the requests that return one. -/
theorem Moves.password_iff (hmoves : Moves budget resource entry event kept) :
    (∃ prompts password, kept = some ⟨prompts, some password⟩) ↔ event.isAnswered = true := by
  cases hmoves <;> simp [Event.isAnswered]

/-- A fault of a request is that of a source which broke off, or of a text without a UTF-8 form. -/
theorem isBrokenOff_or_isUnencodable (resource : String) (prompt : Prompt) {reply : Reply}
    {fault : Fault} (hfault : reply.fault? = some fault) (answer : Except Fault Octets) :
    (Event.requested resource (some (prompt, reply)) answer).isBrokenOff = true ∨
      (Event.requested resource (some (prompt, reply)) answer).isUnencodable = true := by
  obtain rfl | ⟨points, rfl, hpoints, -⟩ := Reply.fault?_eq_some_iff.mp hfault
  · exact .inl rfl
  · exact .inr (by simp [Event.isUnencodable, hpoints])

/-- An entry is left behind by requests that return, are broken off or meet with a text that has no
UTF-8 form, and by reports that ask for another prompt. -/
theorem Moves.isSome_iff (hmoves : Moves budget resource entry event kept) :
    kept.isSome = true ↔
      (event.isAnswered || event.isBrokenOff || event.isUnencodable || event.isRetry) = true := by
  cases hmoves with
  | closed answer hanswer =>
    obtain failure | retry := answer
    · simp [Event.isAnswered, Event.isBrokenOff, Event.isUnencodable, Event.isRetry]
    · have hretry : retry = false := by simpa using hanswer
      simp [Event.isAnswered, Event.isBrokenOff, Event.isUnencodable, Event.isRetry, hretry]
  | brokenOff _ reply fault hfault =>
    obtain hevent | hevent := isBrokenOff_or_isUnencodable resource
      ((entry.getD .fresh).prompt resource) hfault (.error fault) <;> simp [hevent]
  | _ => simp [Event.isAnswered, Event.isBrokenOff, Event.isUnencodable, Event.isRetry]

/-- The end of a prompt sequence leaves no entry. -/
theorem Moves.isNone_of_isFinal (hmoves : Moves budget resource entry event kept)
    (hfinal : event.isFinal = true) : kept.isSome = false := by
  cases hmoves with
  | answered _ reply passphrase hreply =>
    cases reply with
    | declined => cases hreply
    | _ => simp [Event.isFinal] at hfinal
  | brokenOff _ reply fault hfault =>
    cases reply with
    | declined => cases hfault
    | _ => simp [Event.isFinal] at hfinal
  | retried => simp [Event.isFinal] at hfinal
  | _ => rfl

end Moves

/-! ## Buffers -/

/-- The buffers that replies came in, oldest first. -/
def handedOut (session : Session) : List Octets :=
  (session.past.reverse.map Moment.event).filterMap fun event => event.reply?.bind Reply.buffer?

/-- A step adds the buffer of its reply, cleared, to those handed out before. -/
theorem lent_step (hlent : session.credentials.lent = session.handedOut.map Octets.wiped) :
    (session.step operation).credentials.lent
      = (session.step operation).handedOut.map Octets.wiped := by
  cases operation with
  | request resource =>
    by_cases hbudget : session.coordinator.budget ≤ (session.coordinator.current resource).prompts
    · simp [handedOut, perform_request_of_le hbudget, Event.reply?, hlent]
    · -- One more event behind the others, whose reply is the one that was settled.
      have hstep := perform_request_of_lt (Nat.lt_of_not_le hbudget) rfl
      simp only [credentials_step, handedOut, past_step, hstep, Credentials.settled_lent, hlent]
      simp only [List.reverse_cons, List.map_append, List.filterMap_append, Event.reply?,
        List.map_cons, List.map_nil]
      congr 1
      cases (session.credentials.ask _).1 <;> rfl
  | report resource attempted outcome => simp [handedOut, perform, Event.reply?, hlent]
  | assign value =>
    cases hvalue : Coordinator.budget? value <;>
      simp [handedOut, perform, hvalue, Event.reply?, hlent]

theorem lent_run (budget : Nat) (source : Source) (operations : List Operation) :
    ((start budget source).run operations).credentials.lent
      = ((start budget source).run operations).handedOut.map Octets.wiped :=
  run_induction (motive := fun session =>
    session.credentials.lent = session.handedOut.map Octets.wiped) operations rfl
    fun _ _ => lent_step

/-! ## What every run retains -/

/-- After every run: a passphrase is held for exactly the resources whose latest operation was a
request that returned; pending are exactly those whose latest operation was a request that returned,
was broken off or met with a text that has no UTF-8 form, or a report that asked for another prompt;
what ends a prompt sequence leaves nothing; and every buffer that was handed out is there, and
zero. -/
theorem retention_of_run (budget : Nat) (source : Source) (operations : List Operation) :
    let session := (start budget source).run operations
    (∀ resource,
      (session.coordinator.holds resource = true ↔
        ∃ event, session.last? resource = some event ∧ event.isAnswered = true) ∧
      (resource ∈ session.coordinator.pending ↔
        ∃ event, session.last? resource = some event ∧
          (event.isAnswered || event.isBrokenOff || event.isUnencodable || event.isRetry)
            = true) ∧
      (∀ event, session.last? resource = some event → event.isFinal = true →
        resource ∉ session.coordinator.pending)) ∧
    session.credentials.lent = session.handedOut.map Octets.wiped ∧
    (∀ buffer ∈ session.credentials.lent, ∀ octet ∈ buffer, octet = 0) := by
  intro session
  have hlent : session.credentials.lent = session.handedOut.map Octets.wiped :=
    lent_run budget source operations
  refine ⟨fun resource => ?_, hlent, ?_⟩
  · have haccount : session.Accounted resource := accounted_run budget source operations resource
    rw [Coordinator.holds_iff, Coordinator.mem_pending_iff]
    cases hlast : session.last? resource with
    | none =>
      have hentry : session.coordinator.entryOf? resource = none := by
        simpa [Accounted, hlast] using haccount
      simp [hentry]
    | some event =>
      obtain ⟨known, entry, hmoves⟩ : ∃ known entry,
          Moves known resource entry event (session.coordinator.entryOf? resource) := by
        simpa [Accounted, hlast] using haccount
      refine ⟨?_, ?_, ?_⟩
      · simpa using hmoves.password_iff
      · simpa using hmoves.isSome_iff
      · intro latest hlatest hfinal
        obtain rfl : event = latest := Option.some.inj hlatest
        simp [hmoves.isNone_of_isFinal hfinal]
  · intro buffer hbuffer octet hoctet
    rw [hlent] at hbuffer
    obtain ⟨content, -, rfl⟩ := List.mem_map.mp hbuffer
    exact List.eq_of_mem_replicate hoctet

/-- Returned, broken off and repeated requests are not all that leaves a resource pending: a reply
with a surrogate in it does too. -/
theorem not_forall_pending_iff :
    ¬ ∀ (budget : Nat) (source : Source) (operations : List Operation) (resource : String),
      resource ∈ ((start budget source).run operations).coordinator.pending ↔
        ∃ event, ((start budget source).run operations).last? resource = some event ∧
          (event.isAnswered || event.isBrokenOff || event.isRetry) = true := by
  intro hpending
  have hsurrogate := hpending 1 (.script [.text [.surrogate 0]]) [.request "r"] "r"
  rw [Coordinator.mem_pending_iff] at hsurrogate
  obtain ⟨event, hlast, hevent⟩ := hsurrogate.mp (by decide)
  obtain rfl := Option.some.inj hlast
  exact absurd hevent (by decide)

end CommitSeal.Session
