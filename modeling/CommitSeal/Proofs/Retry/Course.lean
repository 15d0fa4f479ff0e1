import CommitSeal.Proofs.Retry.Budget

/-!
# The course of a failing sequence

A resource whose passphrases all fail goes through rounds: as many prompts as the budget allows, all
but the last of which lead to another one. `failingAnswers` and `failingPrompts` say so for a mere
counter; `Session.course_of_failing` shows that a session goes through the same motions whatever
operations on other resources come in between.
-/

namespace CommitSeal.Session

/-! ## A counter that fails again and again -/

/-- The count of prompts after one more that failed: the last one within the budget ends it. -/
def nextCount (budget count : Nat) : Nat := if count + 1 < budget then count + 1 else 0

/-- The answers to the reports of failing attempts, from a count on. -/
def failingAnswers (budget : Nat) : (count attempts : Nat) → List (Except Failure Bool)
  | _, 0 => []
  | count, attempts + 1 =>
    .ok (decide (count + 1 < budget)) :: failingAnswers budget (nextCount budget count) attempts

/-- The prompts of failing attempts for a resource, from a count on. -/
def failingPrompts (budget : Nat) (resource : String) : (count attempts : Nat) → List Prompt
  | _, 0 => []
  | count, attempts + 1 =>
    ⟨resource, if count = 0 then Prompt.first resource else Prompt.again resource⟩
      :: failingPrompts budget resource (nextCount budget count) attempts

theorem nextCount_lt {budget count : Nat} (hbudget : 0 < budget) :
    nextCount budget count < budget := by
  unfold nextCount
  split <;> omega

/-- What is left of a round is answered with yes but for the last attempt. -/
theorem failingAnswers_round (budget attempts : Nat) :
    ∀ left count, count + (left + 1) = budget →
      failingAnswers budget count (left + 1 + attempts)
        = List.replicate left (.ok true) ++ .ok false :: failingAnswers budget 0 attempts := by
  intro left
  induction left with
  | zero =>
    -- The last attempt of the round, after which the count starts over.
    intro count hcount
    have hlast : ¬ count + 1 < budget := by omega
    rw [show 0 + 1 + attempts = attempts + 1 by omega]
    simp [failingAnswers, nextCount, hlast]
  | succ left ih =>
    intro count hcount
    have hmore : count + 1 < budget := by omega
    rw [show left + 1 + 1 + attempts = (left + 1 + attempts) + 1 by omega]
    simp only [failingAnswers, nextCount, hmore, if_true, decide_true]
    rw [ih (count + 1) (by omega)]
    rfl

/-- What is left of a round that has begun is prompted for as a repetition. -/
theorem failingPrompts_round (budget : Nat) (resource : String) (attempts : Nat) :
    ∀ left count, 0 < count → count + left = budget →
      failingPrompts budget resource (if left = 0 then 0 else count) (left + attempts)
        = List.replicate left ⟨resource, Prompt.again resource⟩
          ++ failingPrompts budget resource 0 attempts := by
  intro left
  induction left with
  | zero => intro count _ _; simp
  | succ left ih =>
    intro count hpos hcount
    have hne : count ≠ 0 := by omega
    have hnext : nextCount budget count = if left = 0 then 0 else count + 1 := by
      unfold nextCount
      split <;> split <;> omega
    rw [show left + 1 + attempts = (left + attempts) + 1 by omega]
    simp only [failingPrompts, hne, if_false, Nat.add_eq_zero_iff, and_false, hnext,
      Nat.succ_ne_self]
    rw [ih (count + 1) (by omega) (by omega)]
    rfl

/-- Whole rounds are answered with yes but for the last attempt of each. -/
theorem failingAnswers_rounds {budget : Nat} (hbudget : 0 < budget) (rounds : Nat) :
    failingAnswers budget 0 (rounds * budget)
      = (List.replicate rounds
          (List.replicate (budget - 1) (.ok true) ++ [.ok false])).flatten := by
  induction rounds with
  | zero => simp [failingAnswers]
  | succ rounds ih =>
    have hround := failingAnswers_round budget (rounds * budget) (budget - 1) 0 (by omega)
    rw [show (rounds + 1) * budget = budget - 1 + 1 + rounds * budget by
      rw [Nat.succ_mul]; omega, hround, ih]
    simp [List.replicate_succ]

/-- Whole rounds are prompted for once as new and then as repetitions. -/
theorem failingPrompts_rounds {budget : Nat} (hbudget : 0 < budget) (resource : String)
    (rounds : Nat) :
    failingPrompts budget resource 0 (rounds * budget)
      = (List.replicate rounds (⟨resource, Prompt.first resource⟩
          :: List.replicate (budget - 1) ⟨resource, Prompt.again resource⟩)).flatten := by
  induction rounds with
  | zero => simp [failingPrompts]
  | succ rounds ih =>
    have hround := failingPrompts_round budget resource (rounds * budget) (budget - 1) 1
      (by omega) (by omega)
    have hnext : nextCount budget 0 = if budget - 1 = 0 then 0 else 1 := by
      unfold nextCount
      split <;> split <;> omega
    rw [show (rounds + 1) * budget = (budget - 1 + rounds * budget) + 1 by
      rw [Nat.succ_mul]; omega]
    simp only [failingPrompts, if_true, hnext]
    rw [hround, ih]
    simp [List.replicate_succ]

/-! ## Sessions that go through the same motions -/

/-- The events of some more operations, in their order. -/
def trail (session : Session) : List Operation → List Event
  | [] => []
  | operation :: rest => (session.perform operation).1 :: (session.step operation).trail rest

/-- The operations that name a resource. -/
def naming (resource : String) (operations : List Operation) : List Operation :=
  operations.filter fun operation => operation.resource? == some resource

/-- Requests for a resource, each followed by a report that its passphrase did not serve. -/
def failingPairs (resource : String) : Nat → List Operation
  | 0 => []
  | pairs + 1 => .request resource :: .report resource true .refused :: failingPairs resource pairs

/-- The answer to a report on a resource. -/
def reportOn? (resource : String) : Event → Option (Except Failure Bool)
  | .reported named answer => if named = resource then some answer else none
  | _ => none

/-- The prompt that a request for a resource issues. -/
def promptFor? (resource : String) : Event → Option Prompt
  | .requested named exchange _ => if named = resource then exchange.map Prod.fst else none
  | _ => none

/-- Whether all replies to prompts for a resource are passphrases. -/
def RepliesTo (resource : String) (events : List Event) : Prop :=
  ∀ event ∈ events, event.resource? = some resource →
    event.reply?.all (fun reply => reply.passphrase?.isSome) = true

/-- Whether all requests for a resource return a passphrase. -/
def AllAnswered (resource : String) (events : List Event) : Prop :=
  ∀ event ∈ events, ∀ exchange answer,
    event = .requested resource exchange answer → event.isAnswered = true

variable {session : Session} {operation : Operation} {resource : String}

/-- What the events about one resource amount to. -/
def Amounts (resource : String) (events : List Event) (answers : List (Except Failure Bool))
    (prompts : List Prompt) : Prop :=
  events.filterMap (reportOn? resource) = answers ∧
    events.filterMap (promptFor? resource) = prompts ∧ AllAnswered resource events

theorem amounts_nil : Amounts resource [] [] [] :=
  ⟨rfl, rfl, fun _ h => absurd h List.not_mem_nil⟩

/-- An event about another resource adds nothing. -/
theorem amounts_cons_of_ne {event : Event} {events : List Event}
    {answers : List (Except Failure Bool)} {prompts : List Prompt}
    (hne : event.resource? ≠ some resource) (hrest : Amounts resource events answers prompts) :
    Amounts resource (event :: events) answers prompts := by
  obtain ⟨hanswers, hprompts, hanswered⟩ := hrest
  have hreport : reportOn? resource event = none := by
    cases event with
    | reported named answer => exact if_neg fun h => hne (by rw [← h]; rfl)
    | _ => rfl
  have hprompt : promptFor? resource event = none := by
    cases event with
    | requested named exchange answer => exact if_neg fun h => hne (by rw [← h]; rfl)
    | _ => rfl
  refine ⟨by simpa [hreport] using hanswers, by simpa [hprompt] using hprompts, ?_⟩
  intro other hother exchange answer hrequested
  rcases List.mem_cons.mp hother with rfl | hmem
  · exact absurd (by rw [hrequested]; rfl) hne
  · exact hanswered other hmem exchange answer hrequested

/-- A request that returns adds its prompt. -/
theorem amounts_cons_requested {events : List Event} {answers : List (Except Failure Bool)}
    {prompts : List Prompt} (prompt : Prompt) (reply : Reply) (passphrase : Octets)
    (hrest : Amounts resource events answers prompts) :
    Amounts resource (.requested resource (some (prompt, reply)) (.ok passphrase) :: events)
      answers (prompt :: prompts) := by
  obtain ⟨hanswers, hprompts, hanswered⟩ := hrest
  refine ⟨hanswers, ?_, ?_⟩
  · simpa [promptFor?] using hprompts
  · intro other hother exchange answer hrequested
    rcases List.mem_cons.mp hother with rfl | hmem
    · rfl
    · exact hanswered other hmem exchange answer hrequested

/-- A report adds its answer. -/
theorem amounts_cons_reported {events : List Event} {answers : List (Except Failure Bool)}
    {prompts : List Prompt} (answer : Except Failure Bool)
    (hrest : Amounts resource events answers prompts) :
    Amounts resource (.reported resource answer :: events) (answer :: answers) prompts := by
  obtain ⟨hanswers, hprompts, hanswered⟩ := hrest
  refine ⟨?_, hprompts, ?_⟩
  · simpa [reportOn?] using hanswers
  · intro other hother exchange answer hrequested
    rcases List.mem_cons.mp hother with rfl | hmem
    · cases hrequested
    · exact hanswered other hmem exchange answer hrequested

/-- A request within the budget whose reply is a passphrase returns it and counts its prompt. -/
theorem request_answered {reply : Reply} {passphrase : Octets}
    (hbudget : (session.coordinator.current resource).prompts < session.coordinator.budget)
    (hreply : (session.credentials.ask
      ((session.coordinator.current resource).prompt resource)).1 = reply)
    (hpassphrase : reply.passphrase? = some passphrase) :
    (session.perform (.request resource)).1
        = .requested resource
            (some ((session.coordinator.current resource).prompt resource, reply))
            (.ok passphrase) ∧
      (session.step (.request resource)).coordinator.entryOf? resource
        = some ⟨(session.coordinator.current resource).prompts + 1, some passphrase⟩ := by
  rw [coordinator_step, perform_request_of_lt hbudget hreply,
    Attempts.settle_of_passphrase _ resource hpassphrase]
  exact ⟨rfl, Coordinator.entryOf?_setEntry_self⟩

/-- A report that a passphrase did not serve asks for another one while the budget allows. -/
theorem report_refused {prompts : Nat} {password : Option Octets}
    (hentry : session.coordinator.entryOf? resource = some ⟨prompts, password⟩) :
    (session.perform (.report resource true .refused)).1
        = .reported resource (.ok (decide (prompts < session.coordinator.budget))) ∧
      ((session.step (.report resource true .refused)).coordinator.current resource).prompts
        = if prompts < session.coordinator.budget then prompts else 0 := by
  simp only [coordinator_step, Coordinator.current, perform, Coordinator.report_of_some hentry,
    Coordinator.entryOf?_setEntry_self]
  by_cases hbudget : prompts < session.coordinator.budget <;>
    simp [Attempts.report, Attempts.fatal?, Attempts.retries, hbudget, Attempts.fresh]

/-- An operation on another resource is not among those that name this one. -/
theorem naming_cons_of_ne {operations : List Operation}
    (hne : operation.resource? ≠ some resource) :
    naming resource (operation :: operations) = naming resource operations :=
  List.filter_cons_of_neg (by simpa using hne)

theorem naming_cons_of_eq {operations : List Operation}
    (hnamed : operation.resource? = some resource) :
    naming resource (operation :: operations) = operation :: naming resource operations :=
  List.filter_cons_of_pos (by simpa using hnamed)

/-- From between two attempts on, the events amount to those of the counter. -/
def Between (resource : String) (session : Session) (operations : List Operation)
    (count pairs : Nat) : Prop :=
  naming resource operations = failingPairs resource pairs →
    (session.coordinator.current resource).prompts = count →
    Amounts resource (session.trail operations)
      (failingAnswers session.coordinator.budget count pairs)
      (failingPrompts session.coordinator.budget resource count pairs)

/-- From within an attempt on, the events amount to the rest of those of the counter. -/
def Within (resource : String) (session : Session) (operations : List Operation)
    (count pairs : Nat) : Prop :=
  ∀ password,
    naming resource operations = .report resource true .refused :: failingPairs resource pairs →
    session.coordinator.entryOf? resource = some ⟨count + 1, password⟩ →
    Amounts resource (session.trail operations)
      (failingAnswers session.coordinator.budget count (pairs + 1))
      (failingPrompts session.coordinator.budget resource
        (nextCount session.coordinator.budget count) pairs)

/-- A request leads into an attempt. -/
theorem between_request {rest : List Operation} {count : Nat}
    (hcount : count < session.coordinator.budget)
    (hreplies : RepliesTo resource (session.trail (.request resource :: rest)))
    (hwithin : ∀ pairs, Within resource (session.step (.request resource)) rest count pairs)
    (pairs : Nat) : Between resource session (.request resource :: rest) count pairs := by
  intro hnaming hprompts
  rw [naming_cons_of_eq rfl] at hnaming
  cases pairs with
  | zero => cases hnaming
  | succ pairs =>
    have htail : naming resource rest
        = .report resource true .refused :: failingPairs resource pairs :=
      (List.cons.inj hnaming).2
    rw [← hprompts] at hcount
    obtain ⟨reply, hreply⟩ : ∃ reply, (session.credentials.ask
        ((session.coordinator.current resource).prompt resource)).1 = reply := ⟨_, rfl⟩
    -- The reply behind this very event is among those that are passphrases.
    have hgiven := hreplies _ List.mem_cons_self resource?_perform
    rw [perform_request_of_lt hcount hreply] at hgiven
    obtain ⟨passphrase, hpassphrase⟩ := Option.isSome_iff_exists.mp hgiven
    obtain ⟨hrequested, hentry⟩ := request_answered hcount hreply hpassphrase
    rw [hprompts] at hentry
    have hbudget : (session.step (.request resource)).coordinator.budget
        = session.coordinator.budget := budget_step_of_some rfl
    have hrest := hwithin pairs _ htail hentry
    rw [hbudget] at hrest
    have hcons := amounts_cons_requested
      ((session.coordinator.current resource).prompt resource) reply passphrase hrest
    rw [← hrequested] at hcons
    simpa [trail, failingPrompts, Attempts.prompt, hprompts] using hcons

/-- A report leads out of an attempt. -/
theorem within_report {rest : List Operation} {count pairs : Nat}
    (hbetween : Between resource (session.step (.report resource true .refused)) rest
      (nextCount session.coordinator.budget count) pairs) :
    Within resource session (.report resource true .refused :: rest) count pairs := by
  intro password hnaming hentry
  have htail : naming resource rest = failingPairs resource pairs :=
    (List.cons.inj ((naming_cons_of_eq rfl).symm.trans hnaming)).2
  obtain ⟨hreported, hcurrent⟩ := report_refused hentry
  have hbudget : (session.step (.report resource true .refused)).coordinator.budget
      = session.coordinator.budget := budget_step_of_some rfl
  have hrest := hbetween htail hcurrent
  rw [hbudget] at hrest
  have hcons := amounts_cons_reported
    (.ok (decide (count + 1 < session.coordinator.budget))) hrest
  rw [← hreported] at hcons
  exact hcons

/-- An operation on another resource makes no difference. -/
theorem course_other {rest : List Operation} {count pairs : Nat} {named : String}
    (hnamed : operation.resource? = some named) (hne : named ≠ resource)
    (hbetween : Between resource (session.step operation) rest count pairs)
    (hwithin : Within resource (session.step operation) rest count pairs) :
    Between resource session (operation :: rest) count pairs ∧
      Within resource session (operation :: rest) count pairs := by
  have hother : operation.resource? ≠ some resource := by
    rw [hnamed]
    exact fun h => hne (Option.some.inj h)
  have hevent : (session.perform operation).1.resource? ≠ some resource := by
    rw [resource?_perform]
    exact hother
  have hbudget : (session.step operation).coordinator.budget = session.coordinator.budget :=
    budget_step_of_some hnamed
  have hentry : (session.step operation).coordinator.entryOf? resource
      = session.coordinator.entryOf? resource := entryOf?_step_of_ne hother
  have hcurrent : (session.step operation).coordinator.current resource
      = session.coordinator.current resource := by
    simp only [Coordinator.current, hentry]
  rw [Between, hbudget, hcurrent] at hbetween
  rw [Within, hbudget, hentry] at hwithin
  rw [Between, Within, naming_cons_of_ne hother]
  exact ⟨fun hnaming hprompts => amounts_cons_of_ne hevent (hbetween hnaming hprompts),
    fun password hnaming hknown => amounts_cons_of_ne hevent (hwithin password hnaming hknown)⟩

/-- A session goes through the motions of the counter. The induction is on all operations, those on
other resources included. -/
theorem course_of_failing (operations : List Operation) :
    ∀ (session : Session) (count pairs : Nat),
      (∀ operation ∈ operations, operation.resource?.isSome = true) →
      RepliesTo resource (session.trail operations) → count < session.coordinator.budget →
      Between resource session operations count pairs ∧
        Within resource session operations count pairs := by
  induction operations with
  | nil =>
    intro session count pairs _ _ _
    refine ⟨fun hnaming _ => ?_, fun _ hnaming => by simp [naming] at hnaming⟩
    cases pairs with
    | zero => exact amounts_nil
    | succ pairs => simp [naming, failingPairs] at hnaming
  | cons operation rest ih =>
    intro session count pairs hnames hreplies hcount
    obtain ⟨named, hnamed⟩ := Option.isSome_iff_exists.mp (hnames operation (by simp))
    have hbudget : (session.step operation).coordinator.budget = session.coordinator.budget :=
      budget_step_of_some hnamed
    have hcourse : ∀ count pairs, count < session.coordinator.budget →
        Between resource (session.step operation) rest count pairs ∧
          Within resource (session.step operation) rest count pairs := by
      intro count pairs hcount
      refine ih _ count pairs (fun other hother => hnames other (List.mem_cons_of_mem _ hother))
        (fun event hevent => hreplies event (List.mem_cons_of_mem _ hevent)) ?_
      rw [hbudget]
      exact hcount
    by_cases hname : named = resource
    · -- The operation is the next one of a pair: a request, or the report that follows it.
      subst hname
      constructor
      · intro hnaming
        cases pairs with
        | zero => simp [naming_cons_of_eq hnamed, failingPairs] at hnaming
        | succ pairs =>
          obtain ⟨rfl, -⟩ := List.cons.inj ((naming_cons_of_eq hnamed).symm.trans hnaming)
          exact between_request hcount hreplies (fun pairs => (hcourse count pairs hcount).2) _
            hnaming
      · intro password hnaming
        obtain ⟨rfl, -⟩ := List.cons.inj ((naming_cons_of_eq hnamed).symm.trans hnaming)
        have hnext : nextCount session.coordinator.budget count < session.coordinator.budget :=
          nextCount_lt (Nat.zero_lt_of_lt hcount)
        exact within_report (hcourse _ pairs hnext).1 password hnaming
    · obtain ⟨hbetween, hwithin⟩ := hcourse count pairs hcount
      exact course_other hnamed hname hbetween hwithin

/-! ## Budgets -/

/-- Every prompt of every run is within the budget in force, and the first one since its resource
was last without an entry is worded differently from the others. So if a resource without an entry
is asked for and reported as failing again and again, whatever operations on other resources come in
between, then of each round of as many attempts as the budget allows all but the last are answered
with yes, and the next round starts over with a first prompt. -/
theorem prompts_follow_budget :
    (∀ (budget : Nat) (source : Source) (operations : List Operation),
      PromptsAllowed ((start budget source).run operations).past) ∧
    (∀ (session : Session) (resource : String) (operations : List Operation) (rounds : Nat),
      0 < session.coordinator.budget → resource ∉ session.coordinator.pending →
      (∀ operation ∈ operations, operation.resource?.isSome = true) →
      naming resource operations
        = failingPairs resource (rounds * session.coordinator.budget) →
      RepliesTo resource (session.trail operations) →
      (session.trail operations).filterMap (reportOn? resource)
          = (List.replicate rounds (List.replicate (session.coordinator.budget - 1) (.ok true)
              ++ [.ok false])).flatten ∧
        (session.trail operations).filterMap (promptFor? resource)
          = (List.replicate rounds (⟨resource, Prompt.first resource⟩
              :: List.replicate (session.coordinator.budget - 1)
                ⟨resource, Prompt.again resource⟩)).flatten ∧
        AllAnswered resource (session.trail operations)) := by
  refine ⟨promptsAllowed_run, ?_⟩
  intro session resource operations rounds hbudget habsent hnames hnaming hreplies
  have hentry : session.coordinator.entryOf? resource = none := by
    simpa [Coordinator.mem_pending_iff] using habsent
  have hcurrent : (session.coordinator.current resource).prompts = 0 := by
    simp [Coordinator.current, hentry, Attempts.fresh]
  have hcourse := (course_of_failing operations session 0 (rounds * session.coordinator.budget)
    hnames hreplies hbudget).1 hnaming hcurrent
  rw [failingAnswers_rounds hbudget, failingPrompts_rounds hbudget] at hcourse
  exact hcourse

/-- A budget of two, one round on `r`, and a request for `s` that is declined in between. -/
def oneRound : List Operation :=
  [.request "r", .request "s", .report "r" true .refused, .request "r", .report "r" true .refused]

/-- The session that goes through `oneRound`. -/
def beforeOneRound : Session :=
  start 2 (.script [.octets [1], .declined, .buffer [2, 3]])

theorem prompts_follow_budget_one_round :
    PromptsAllowed (beforeOneRound.run oneRound).past ∧
    (0 < beforeOneRound.coordinator.budget ∧ "r" ∉ beforeOneRound.coordinator.pending ∧
      (∀ operation ∈ oneRound, operation.resource?.isSome = true) ∧
      naming "r" oneRound = failingPairs "r" (1 * beforeOneRound.coordinator.budget) ∧
      RepliesTo "r" (beforeOneRound.trail oneRound)) ∧
    (beforeOneRound.trail oneRound).filterMap (reportOn? "r") = [.ok true, .ok false] ∧
    (beforeOneRound.trail oneRound).filterMap (promptFor? "r")
      = [⟨"r", Prompt.first "r"⟩, ⟨"r", Prompt.again "r"⟩] ∧
    AllAnswered "r" (beforeOneRound.trail oneRound) := by
  have habsent : "r" ∉ beforeOneRound.coordinator.pending := by
    rw [Coordinator.mem_pending_iff]
    decide
  have hnames : ∀ operation ∈ oneRound, operation.resource?.isSome = true := by decide
  have hnaming : naming "r" oneRound
      = failingPairs "r" (1 * beforeOneRound.coordinator.budget) := by rfl
  have hreplies : RepliesTo "r" (beforeOneRound.trail oneRound) := by
    unfold RepliesTo
    decide
  exact ⟨prompts_follow_budget.1 2 _ oneRound, ⟨by decide, habsent, hnames, hnaming, hreplies⟩,
    prompts_follow_budget.2 beforeOneRound "r" oneRound 1 (by decide) habsent hnames hnaming
      hreplies⟩

end CommitSeal.Session
