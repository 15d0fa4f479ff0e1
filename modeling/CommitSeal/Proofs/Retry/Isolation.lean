import CommitSeal.Proofs.Retry.Session
import Mathlib.Data.List.Induction

/-!
# Resources asked for side by side

All resources share one coordinator, one budget and one source of passphrases, and still none of
them notices the others. Delete from a run the operations on other resources, keep the assignments
of a budget, and let prompts for the resource be answered as they were: what is left shows the same
of the resource, event by event, as the whole run did (`Session.glimpses_alone`).

The two runs go side by side. The one that is left stands still while the other is busy elsewhere,
and takes each of the remaining steps with it; `Session.Follows` is what they have in common all
the time, `Session.follows_step` and `Session.follows_step_of_other` are the two kinds of steps.
-/

namespace CommitSeal.Session

variable {session alone : Session} {operation : Operation} {resource : String} {ahead : List Reply}

/-! ## One resource among others -/

/-- Whether what is about one resource, or about none, concerns a resource. -/
def concerns (resource : String) : Option String → Bool
  | some named => named == resource
  | none => true

theorem concerns_eq_false_iff {named? : Option String} :
    concerns resource named? = false ↔ ∃ named, named? = some named ∧ named ≠ resource := by
  cases named? <;> simp [concerns]

/-- The operations that are left without those on other resources. -/
def concerning (resource : String) (operations : List Operation) : List Operation :=
  operations.filter fun operation => concerns resource operation.resource?

theorem concerning_append_of_concerns (operations : List Operation)
    (hconcerns : concerns resource operation.resource? = true) :
    concerning resource (operations ++ [operation])
      = concerning resource operations ++ [operation] := by
  simp [concerning, hconcerns]

theorem concerning_append_of_other (operations : List Operation)
    (hother : concerns resource operation.resource? = false) :
    concerning resource (operations ++ [operation]) = concerning resource operations := by
  simp [concerning, hother]

/-- What shows of a resource when an operation is over: how the operation ended, whether the
resource is being asked for, and whether a passphrase is held for it. -/
structure Glimpse where
  event : Event
  isPending : Bool
  isHeld : Bool

/-- What shows of a resource at a moment. -/
def glimpse (resource : String) (moment : Moment) : Glimpse where
  event := moment.event
  isPending := moment.coordinator.pending.contains resource
  isHeld := moment.coordinator.holds resource

/-- What has shown of a resource, the latest first. -/
def glimpses (session : Session) (resource : String) : List Glimpse :=
  (session.past.filter fun moment => concerns resource moment.event.resource?).map
    (glimpse resource)

/-- The reply to a prompt for a resource. -/
def replyFor? (resource : String) (event : Event) : Option Reply :=
  if event.resource? = some resource then event.reply? else none

/-- The replies to prompts for a resource, oldest first. -/
def repliesFor (session : Session) (resource : String) : List Reply :=
  (session.past.reverse.map Moment.event).filterMap (replyFor? resource)

/-! ## One more step -/

/-- Of the coordinator nothing shows but the entry of the resource. -/
theorem glimpse_congr {event : Event} {coordinator other : Coordinator}
    (hentry : coordinator.entryOf? resource = other.entryOf? resource) :
    glimpse resource ⟨event, coordinator⟩ = glimpse resource ⟨event, other⟩ := by
  have hpending : coordinator.pending.contains resource = other.pending.contains resource := by
    rw [Bool.eq_iff_iff, List.contains_iff_mem, List.contains_iff_mem,
      Coordinator.mem_pending_iff, Coordinator.mem_pending_iff, hentry]
  have hheld : coordinator.holds resource = other.holds resource := by
    simp only [Coordinator.holds, hentry]
  simp only [glimpse, hpending, hheld]

theorem glimpses_step (hconcerns : concerns resource operation.resource? = true) :
    (session.step operation).glimpses resource
      = glimpse resource ⟨(session.perform operation).1, (session.step operation).coordinator⟩
          :: session.glimpses resource := by
  have hevent : concerns resource (session.perform operation).1.resource? = true := by
    rw [resource?_perform]
    exact hconcerns
  simp [glimpses, hevent]

theorem glimpses_step_of_other (hother : concerns resource operation.resource? = false) :
    (session.step operation).glimpses resource = session.glimpses resource := by
  have hevent : concerns resource (session.perform operation).1.resource? = false := by
    rw [resource?_perform]
    exact hother
  simp [glimpses, hevent]

theorem repliesFor_step :
    (session.step operation).repliesFor resource
      = session.repliesFor resource
          ++ (replyFor? resource (session.perform operation).1).toList := by
  simp only [repliesFor, past_step, List.reverse_cons, List.map_append, List.filterMap_append]
  cases hreply : replyFor? resource (session.perform operation).1 <;> simp [hreply]

theorem replyFor?_of_ne (hne : operation.resource? ≠ some resource) :
    replyFor? resource (session.perform operation).1 = none := by
  rw [replyFor?, resource?_perform, if_neg hne]

theorem replyFor?_report {named : String} {attempted : Bool} {outcome : Outcome} :
    replyFor? resource (session.perform (.report named attempted outcome)).1 = none := by
  unfold replyFor?
  exact ite_self none

theorem run_append_singleton (operations : List Operation) :
    session.run (operations ++ [operation]) = (session.run operations).step operation :=
  List.foldl_append

/-! ## Two runs side by side -/

/-- One session shows the same of a resource as another one in which there are other resources, and
has some replies ahead. -/
structure Follows (resource : String) (session alone : Session) (ahead : List Reply) : Prop where
  budget : alone.coordinator.budget = session.coordinator.budget
  entry : alone.coordinator.entryOf? resource = session.coordinator.entryOf? resource
  source : alone.credentials.source = .script ahead
  past : alone.past.map (glimpse resource) = session.glimpses resource

/-- Operations on other resources do not show. -/
theorem follows_step_of_other (hfollows : Follows resource session alone ahead)
    (hother : concerns resource operation.resource? = false) :
    Follows resource (session.step operation) alone ahead := by
  obtain ⟨named, hnamed, hne⟩ := concerns_eq_false_iff.mp hother
  have hdifferent : operation.resource? ≠ some resource := by
    rw [hnamed]
    intro h
    exact hne (Option.some.inj h)
  constructor
  · rw [budget_step_of_some hnamed]
    exact hfollows.budget
  · rw [entryOf?_step_of_ne hdifferent]
    exact hfollows.entry
  · exact hfollows.source
  · rw [glimpses_step_of_other hother]
    exact hfollows.past

/-- Two sessions stay together through a step that ends in the same way for both. -/
theorem follows_of_same_event (hfollows : Follows resource session alone ahead)
    (hconcerns : concerns resource operation.resource? = true) {rest : List Reply}
    (hevent : (alone.perform operation).1 = (session.perform operation).1)
    (hbudget : (alone.step operation).coordinator.budget
      = (session.step operation).coordinator.budget)
    (hentry : (alone.step operation).coordinator.entryOf? resource
      = (session.step operation).coordinator.entryOf? resource)
    (hsource : (alone.step operation).credentials.source = .script rest) :
    Follows resource (session.step operation) (alone.step operation) rest := by
  refine ⟨hbudget, hentry, hsource, ?_⟩
  rw [glimpses_step hconcerns, past_step, List.map_cons, hfollows.past, hevent]
  exact congrArg (· :: session.glimpses resource) (glimpse_congr hentry)

/-- A request ends in the same way in both: with the same entry and budget either both issue the
prompt or neither does, and the reply is the one that is next. -/
theorem follows_request
    (hfollows : Follows resource session alone
      ((replyFor? resource (session.perform (.request resource)).1).toList ++ ahead)) :
    Follows resource (session.step (.request resource)) (alone.step (.request resource)) ahead := by
  have hconcerns : concerns resource (Operation.request resource).resource? = true := by
    simp [concerns, Operation.resource?]
  have hcurrent : alone.coordinator.current resource = session.coordinator.current resource := by
    simp only [Coordinator.current, hfollows.entry]
  have hsource := hfollows.source
  by_cases hbudget : session.coordinator.budget ≤ (session.coordinator.current resource).prompts
  · -- No prompt is left in either, and the replies ahead stay where they are.
    have halone : alone.coordinator.budget ≤ (alone.coordinator.current resource).prompts := by
      rw [hfollows.budget, hcurrent]
      exact hbudget
    have hperform := perform_request_of_le hbudget
    have hperform' := perform_request_of_le halone
    apply follows_of_same_event hfollows hconcerns
    · rw [hperform, hperform']
    · exact hfollows.budget
    · simp only [coordinator_step, hperform, hperform', Coordinator.entryOf?_setEntry_self]
    · rw [credentials_step, hperform', hsource, hperform]
      simp [replyFor?, Event.reply?]
  · have hlt := Nat.lt_of_not_le hbudget
    have halone : (alone.coordinator.current resource).prompts < alone.coordinator.budget := by
      rw [hfollows.budget, hcurrent]
      exact hlt
    obtain ⟨reply, hreply⟩ : ∃ reply, (session.credentials.ask
        ((session.coordinator.current resource).prompt resource)).1 = reply := ⟨_, rfl⟩
    have hperform := perform_request_of_lt hlt hreply
    have hnext : alone.credentials.source = .script (reply :: ahead) := by
      rw [hsource, hperform]
      simp [replyFor?, Event.resource?, Event.reply?]
    have hreply' : (alone.credentials.ask
        ((alone.coordinator.current resource).prompt resource)).1 = reply := by
      rw [Credentials.ask_fst, hnext]
      rfl
    have hperform' := perform_request_of_lt halone hreply'
    rw [hcurrent] at hperform'
    apply follows_of_same_event hfollows hconcerns
    · rw [hperform, hperform']
    · exact hfollows.budget
    · simp only [coordinator_step, hperform, hperform', Coordinator.entryOf?_setEntry_self]
    · rw [credentials_step, hperform', Credentials.settled_source, hnext]
      rfl

/-- So does a report, which goes by the entry and the budget alone. -/
theorem follows_report (attempted : Bool) (outcome : Outcome)
    (hfollows : Follows resource session alone ahead) :
    Follows resource (session.step (.report resource attempted outcome))
      (alone.step (.report resource attempted outcome)) ahead := by
  have hconcerns :
      concerns resource (Operation.report resource attempted outcome).resource? = true := by
    simp [concerns, Operation.resource?]
  have hbudget : ∀ session : Session,
      (session.step (.report resource attempted outcome)).coordinator.budget
        = session.coordinator.budget := fun session => budget_step_of_some rfl
  cases hentry : session.coordinator.entryOf? resource with
  | none =>
    have hentry' := hfollows.entry.trans hentry
    apply follows_of_same_event hfollows hconcerns
    · simp only [perform, Coordinator.report_of_none hentry, Coordinator.report_of_none hentry']
    · rw [hbudget, hbudget, hfollows.budget]
    · simp only [coordinator_step, perform, Coordinator.report_of_none hentry,
        Coordinator.report_of_none hentry', hfollows.entry]
    · exact hfollows.source
  | some entry =>
    have hentry' := hfollows.entry.trans hentry
    apply follows_of_same_event hfollows hconcerns
    · simp only [perform, Coordinator.report_of_some hentry, Coordinator.report_of_some hentry',
        hfollows.budget]
    · rw [hbudget, hbudget, hfollows.budget]
    · simp only [coordinator_step, perform, Coordinator.report_of_some hentry,
        Coordinator.report_of_some hentry', hfollows.budget, Coordinator.entryOf?_setEntry_self]
    · exact hfollows.source

/-- An assignment is made in both. -/
theorem follows_assign (value : Datum) (hfollows : Follows resource session alone ahead) :
    Follows resource (session.step (.assign value)) (alone.step (.assign value)) ahead := by
  cases hvalue : Coordinator.budget? value with
  | error fault =>
    apply follows_of_same_event hfollows rfl
    · simp only [perform, hvalue]
    · simpa only [coordinator_step, perform, hvalue] using hfollows.budget
    · simpa only [coordinator_step, perform, hvalue] using hfollows.entry
    · simpa only [credentials_step, perform, hvalue] using hfollows.source
  | ok budget =>
    apply follows_of_same_event hfollows rfl
    · simp only [perform, hvalue]
    · simp only [coordinator_step, perform, hvalue, Coordinator.setBudget]
    · simp only [coordinator_step, perform, hvalue]
      exact hfollows.entry
    · simpa only [credentials_step, perform, hvalue] using hfollows.source

/-- Operations that concern the resource are steps of both, if the reply that they meet in the one
is next in the other. -/
theorem follows_step (hconcerns : concerns resource operation.resource? = true)
    (hfollows : Follows resource session alone
      ((replyFor? resource (session.perform operation).1).toList ++ ahead)) :
    Follows resource (session.step operation) (alone.step operation) ahead := by
  cases operation with
  | request named =>
    obtain rfl : named = resource := by simpa [concerns, Operation.resource?] using hconcerns
    exact follows_request hfollows
  | report named attempted outcome =>
    obtain rfl : named = resource := by simpa [concerns, Operation.resource?] using hconcerns
    rw [replyFor?_report] at hfollows
    exact follows_report attempted outcome hfollows
  | assign value =>
    rw [replyFor?_of_ne (by simp [Operation.resource?])] at hfollows
    exact follows_assign value hfollows

/-! ## Whole runs -/

/-- The session of the run that is left when operations on other resources are deleted. Prompts get
the given replies. -/
def runAlone (budget : Nat) (replies : List Reply) (resource : String)
    (operations : List Operation) : Session :=
  (start budget (.script replies)).run (concerning resource operations)

/-- What is left of a run follows it. The induction is on the latest operation, and whatever comes
behind the replies of the run is still ahead at its end. -/
theorem follows_run (budget : Nat) (source : Source) (resource : String)
    (operations : List Operation) :
    ∀ ahead, Follows resource ((start budget source).run operations)
      (runAlone budget (((start budget source).run operations).repliesFor resource ++ ahead)
        resource operations) ahead := by
  induction operations using List.reverseRecOn with
  | nil => exact fun ahead => ⟨rfl, rfl, rfl, rfl⟩
  | append_singleton operations operation ih =>
    intro ahead
    rw [run_append_singleton, repliesFor_step, List.append_assoc]
    have hbefore := ih
      ((replyFor? resource (((start budget source).run operations).perform operation).1).toList
        ++ ahead)
    unfold runAlone at hbefore ⊢
    cases hconcerns : concerns resource operation.resource? with
    | true =>
      rw [concerning_append_of_concerns operations hconcerns, run_append_singleton]
      exact follows_step hconcerns hbefore
    | false =>
      obtain ⟨named, hnamed, hne⟩ := concerns_eq_false_iff.mp hconcerns
      have hreply : replyFor? resource
          (((start budget source).run operations).perform operation).1 = none := by
        apply replyFor?_of_ne
        simp [hnamed, hne]
      rw [hreply] at hbefore ⊢
      rw [concerning_append_of_other operations hconcerns]
      exact follows_step_of_other hbefore hconcerns

/-- Resources do not influence each other. When the operations on all others are deleted from a run,
each operation that is left shows the same of the resource as it did before: how it ended, with
which prompt and which result or fault, and whether the resource is then pending and a passphrase
held. Its prompts are to get the replies that they got in the whole run; these are used up, and
whatever replies are ahead of them stay there. -/
theorem glimpses_alone (budget : Nat) (source : Source) (resource : String)
    (operations : List Operation) (ahead : List Reply) :
    let session := (start budget source).run operations
    let alone := runAlone budget (session.repliesFor resource ++ ahead) resource operations
    alone.past.map (glimpse resource) = session.glimpses resource ∧
      alone.credentials.source = .script ahead := by
  intro session alone
  have hfollows := follows_run budget source resource operations ahead
  exact ⟨hfollows.past, hfollows.source⟩

end CommitSeal.Session
