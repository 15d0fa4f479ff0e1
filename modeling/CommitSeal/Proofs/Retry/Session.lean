import CommitSeal.Proofs.Retry.Entry

/-!
# Runs of a coordinator

A `Session` is a coordinator and its source of passphrases, together with everything that has
happened to them. What is said about every run rests on two facts about one step:

* `Session.step_moves`: an operation on a resource moves the entry of that resource in one of the
  ways that `Moves` lists, and the event that it leaves behind says in which;
* `Session.entryOf?_step_of_ne`: the entries of all other resources stay as they are.

A source with prepared replies stands for any collaborator: what a collaborator replies in the
course of one run is a list, however it makes up its mind.
-/

namespace CommitSeal

/-! ## Operations and events -/

/-- What can be asked of a coordinator. -/
inductive Operation where
  /-- To ask for the passphrase of a resource. -/
  | request (resource : String)
  /-- To take note of what became of the use of a passphrase, if one was attempted. -/
  | report (resource : String) (attempted : Bool) (outcome : Outcome)
  /-- To replace the budget by a value, which may be no budget. -/
  | assign (value : Datum)

/-- The resource that an operation names. -/
def Operation.resource? : Operation → Option String
  | request resource => some resource
  | report resource _ _ => some resource
  | assign _ => none

/-- An operation, and how it ended. -/
inductive Event where
  /-- A request: the prompt that it issued and the reply, if it issued one, and the answer. -/
  | requested (resource : String) (exchange : Option (Prompt × Reply))
      (answer : Except Fault Octets)
  /-- A report, and the answer whether to ask again. -/
  | reported (resource : String) (answer : Except Failure Bool)
  /-- An assignment of a budget. -/
  | assigned (answer : Except Fault Nat)

namespace Event

/-- The resource that an event is about. -/
def resource? : Event → Option String
  | requested resource _ _ => some resource
  | reported resource _ => some resource
  | assigned _ => none

/-- The prompt that was issued in an event. -/
def prompt? : Event → Option Prompt
  | requested _ exchange _ => exchange.map Prod.fst
  | _ => none

/-- The reply that was given in an event. -/
def reply? : Event → Option Reply
  | requested _ exchange _ => exchange.map Prod.snd
  | _ => none

/-- Whether a request returned a passphrase. -/
def isAnswered : Event → Bool
  | requested _ _ (.ok _) => true
  | _ => false

/-- Whether the source broke off a request. -/
def isBrokenOff : Event → Bool
  | requested _ (some (_, .raised _)) _ => true
  | _ => false

/-- Whether a request met with a text that has no UTF-8 form. -/
def isUnencodable : Event → Bool
  | requested _ (some (_, .text passphrase)) _ => (Octets.ofPoints? passphrase).isNone
  | _ => false

/-- Whether a report asked for another prompt. -/
def isRetry : Event → Bool
  | reported _ (.ok true) => true
  | _ => false

/-- Whether an event ends a prompt sequence: a report that asks for no other prompt or fails, a
declined prompt, or a request that is refused without one. -/
def isFinal : Event → Bool
  | requested _ none _ => true
  | requested _ (some (_, .declined)) _ => true
  | reported _ (.ok false) => true
  | reported _ (.error _) => true
  | _ => false

end Event

/-! ## Sessions -/

/-- An event, and the coordinator right after it. -/
structure Moment where
  event : Event
  coordinator : Coordinator

/-- A coordinator and its source, with what has happened, the latest first. -/
structure Session where
  coordinator : Coordinator
  credentials : Credentials
  past : List Moment

namespace Session

/-- A session in which nothing has happened yet. -/
def start (budget : Nat) (source : Source) : Session := ⟨.start budget, { source }, []⟩

/-- An operation on a session: the event, and what it makes of the coordinator and the source. -/
def perform (session : Session) : Operation → Event × Coordinator × Credentials
  | .request resource =>
    match session.coordinator.request resource session.credentials with
    | (answer, coordinator, credentials) =>
      (.requested resource (session.credentials.exchange? credentials) answer,
        coordinator, credentials)
  | .report resource attempted outcome =>
    match session.coordinator.report resource attempted outcome with
    | (answer, coordinator) => (.reported resource answer, coordinator, session.credentials)
  | .assign value =>
    match Coordinator.budget? value with
    | .error fault => (.assigned (.error fault), session.coordinator, session.credentials)
    | .ok budget =>
      (.assigned (.ok budget), session.coordinator.setBudget budget, session.credentials)

/-- A session after one more operation. -/
def step (session : Session) (operation : Operation) : Session :=
  match session.perform operation with
  | (event, coordinator, credentials) =>
    ⟨coordinator, credentials, ⟨event, coordinator⟩ :: session.past⟩

/-- A session after some more operations. -/
def run (session : Session) (operations : List Operation) : Session :=
  operations.foldl step session

/-- The latest event about a resource. -/
def last? (session : Session) (resource : String) : Option Event :=
  (session.past.map Moment.event).find? fun event => event.resource? == some resource

variable {session : Session} {operation : Operation} {resource : String}

/-- What holds at the start and is kept by every step holds of every run. -/
theorem run_induction {motive : Session → Prop} (operations : List Operation)
    (hstart : motive session)
    (hstep : ∀ (session : Session) (operation : Operation), motive session →
      motive (session.step operation)) :
    motive (session.run operations) := by
  induction operations generalizing session with
  | nil => exact hstart
  | cons operation operations ih => exact ih (hstep session operation hstart)

/-! ## One step -/

@[simp]
theorem coordinator_step :
    (session.step operation).coordinator = (session.perform operation).2.1 := rfl

@[simp]
theorem credentials_step :
    (session.step operation).credentials = (session.perform operation).2.2 := rfl

@[simp]
theorem past_step :
    (session.step operation).past
      = ⟨(session.perform operation).1, (session.perform operation).2.1⟩ :: session.past := rfl

/-- An event is about the resource that its operation names. -/
theorem resource?_perform : (session.perform operation).1.resource? = operation.resource? := by
  cases operation with
  | request resource => rfl
  | report resource attempted outcome => rfl
  | assign value =>
    simp only [perform]
    cases Coordinator.budget? value <;> rfl

/-- A request beyond the budget issues no prompt. -/
theorem perform_request_of_le
    (hbudget : session.coordinator.budget ≤ (session.coordinator.current resource).prompts) :
    session.perform (.request resource)
      = (.requested resource none (.error (.failed (Failure.noAttemptsLeft resource))),
          session.coordinator.setEntry resource none, session.credentials) := by
  simp [perform, Coordinator.request_of_le hbudget]

/-- A request within the budget issues the prompt that the entry calls for. -/
theorem perform_request_of_lt {reply : Reply}
    (hbudget : (session.coordinator.current resource).prompts < session.coordinator.budget)
    (hreply : (session.credentials.ask
      ((session.coordinator.current resource).prompt resource)).1 = reply) :
    session.perform (.request resource)
      = (.requested resource
            (some ((session.coordinator.current resource).prompt resource, reply))
            ((session.coordinator.current resource).settle resource reply).1,
          session.coordinator.setEntry resource
            ((session.coordinator.current resource).settle resource reply).2,
          session.credentials.settled
            ((session.coordinator.current resource).prompt resource)) := by
  subst hreply
  simp [perform, Coordinator.request_of_lt hbudget]

/-- The entries of resources that an operation does not name stay as they are. -/
theorem entryOf?_step_of_ne (hne : operation.resource? ≠ some resource) :
    (session.step operation).coordinator.entryOf? resource
      = session.coordinator.entryOf? resource := by
  cases operation with
  | request named =>
    have hname : resource ≠ named := fun h => hne (by rw [h]; rfl)
    exact Coordinator.entryOf?_setEntry_of_ne hname
  | report named attempted outcome =>
    have hname : resource ≠ named := fun h => hne (by rw [h]; rfl)
    simp only [coordinator_step, perform]
    cases hentry : session.coordinator.entryOf? named with
    | none => rw [Coordinator.report_of_none hentry]
    | some entry =>
      rw [Coordinator.report_of_some hentry]
      exact Coordinator.entryOf?_setEntry_of_ne hname
  | assign value =>
    simp only [coordinator_step, perform]
    cases Coordinator.budget? value <;> rfl

/-- Only an assignment changes the budget. -/
theorem budget_step_of_some (hnamed : operation.resource? = some resource) :
    (session.step operation).coordinator.budget = session.coordinator.budget := by
  cases operation with
  | request named => rfl
  | report named attempted outcome =>
    simp only [coordinator_step, perform]
    cases hentry : session.coordinator.entryOf? named with
    | none => rw [Coordinator.report_of_none hentry]
    | some entry => rw [Coordinator.report_of_some hentry]; rfl
  | assign value => cases hnamed

/-! ## What an operation does to the entry that it names -/

/-- The ways in which an operation on a resource moves its entry while a budget is in force, and the
events that tell them apart. -/
inductive Moves (budget : Nat) (resource : String) (entry : Option Attempts) :
    Event → Option Attempts → Prop where
  /-- No prompt is left. -/
  | exhausted (hbudget : budget ≤ (entry.getD .fresh).prompts) :
      Moves budget resource entry
        (.requested resource none (.error (.failed (Failure.noAttemptsLeft resource)))) none
  /-- The prompt was declined. -/
  | declined (hbudget : (entry.getD .fresh).prompts < budget) :
      Moves budget resource entry
        (.requested resource (some ((entry.getD .fresh).prompt resource, .declined))
          (.error (.failed (Failure.notProvided resource)))) none
  /-- The source broke off, or its text has no UTF-8 form. -/
  | brokenOff (hbudget : (entry.getD .fresh).prompts < budget) (reply : Reply) (fault : Fault)
      (hfault : reply.fault? = some fault) :
      Moves budget resource entry
        (.requested resource (some ((entry.getD .fresh).prompt resource, reply))
          (.error fault)) (some ⟨(entry.getD .fresh).prompts + 1, none⟩)
  /-- A passphrase was given. -/
  | answered (hbudget : (entry.getD .fresh).prompts < budget) (reply : Reply)
      (passphrase : Octets) (hreply : reply.passphrase? = some passphrase) :
      Moves budget resource entry
        (.requested resource (some ((entry.getD .fresh).prompt resource, reply))
          (.ok passphrase)) (some ⟨(entry.getD .fresh).prompts + 1, some passphrase⟩)
  /-- The passphrase did not serve, and there is a prompt left. -/
  | retried (prompts : Nat) (password : Option Octets)
      (hentry : entry = some ⟨prompts, password⟩) (hbudget : prompts < budget) :
      Moves budget resource entry (.reported resource (.ok true)) (some ⟨prompts, none⟩)
  /-- The sequence is over, with success or without. -/
  | closed (answer : Except Failure Bool) (hanswer : answer ≠ .ok true) :
      Moves budget resource entry (.reported resource answer) none

/-- A reply moves an entry in one of the ways listed. -/
theorem moves_settle {budget : Nat} {entry : Option Attempts} (reply : Reply)
    (hbudget : (entry.getD .fresh).prompts < budget) :
    Moves budget resource entry
      (.requested resource (some ((entry.getD .fresh).prompt resource, reply))
        ((entry.getD .fresh).settle resource reply).1)
      ((entry.getD .fresh).settle resource reply).2 := by
  obtain ⟨passphrase, hreply, hsettle⟩ | ⟨fault, hfault, hsettle⟩ | ⟨hreply, hsettle⟩ :=
    (entry.getD .fresh).settle_cases resource reply
  · rw [hsettle]
    exact .answered hbudget reply passphrase hreply
  · rw [hsettle]
    exact .brokenOff hbudget reply fault hfault
  · rw [hsettle, hreply]
    exact .declined hbudget

/-- A report moves an entry in one of the ways listed. -/
theorem moves_report {budget : Nat} (entry : Attempts) (attempted : Bool) (outcome : Outcome) :
    Moves budget resource (some entry)
      (.reported resource (entry.report budget attempted outcome).1)
      (entry.report budget attempted outcome).2 := by
  obtain ⟨-, -, hbudget, hreport⟩ | ⟨hanswer, hkept⟩ :=
    entry.report_cases budget attempted outcome
  · rw [hreport]
    exact .retried entry.prompts entry.password rfl hbudget
  · rw [hkept]
    exact .closed _ hanswer

/-- An operation on a resource moves its entry in one of the ways listed. -/
theorem step_moves (hnamed : operation.resource? = some resource) :
    Moves session.coordinator.budget resource (session.coordinator.entryOf? resource)
      (session.perform operation).1 ((session.step operation).coordinator.entryOf? resource) := by
  cases operation with
  | request named =>
    obtain rfl : named = resource := Option.some.inj hnamed
    rw [coordinator_step]
    by_cases hbudget : session.coordinator.budget ≤ (session.coordinator.current named).prompts
    · rw [perform_request_of_le hbudget, Coordinator.entryOf?_setEntry_self]
      exact .exhausted hbudget
    · -- Within the budget the reply decides which of the moves it is.
      rw [perform_request_of_lt (Nat.lt_of_not_le hbudget) rfl,
        Coordinator.entryOf?_setEntry_self]
      exact moves_settle _ (Nat.lt_of_not_le hbudget)
  | report named attempted outcome =>
    obtain rfl : named = resource := Option.some.inj hnamed
    simp only [coordinator_step, perform]
    cases hentry : session.coordinator.entryOf? named with
    | none =>
      rw [Coordinator.report_of_none hentry, hentry]
      exact .closed _ (by cases Attempts.fatal? outcome <;> simp)
    | some entry =>
      rw [Coordinator.report_of_some hentry, Coordinator.entryOf?_setEntry_self]
      exact moves_report entry attempted outcome
  | assign value => cases hnamed

end Session

end CommitSeal
