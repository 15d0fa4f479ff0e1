import CommitSeal.Proofs.Retry.Session

/-!
# Prompts and the attempt budget

The counter of an entry is the number of prompts that the past shows for its resource since the
resource was last without an entry (`Session.counted_run`). Hence no prompt is issued beyond the
budget in force, and the first prompt of each sequence is worded differently from the others
(`Session.promptsAllowed_run`).
-/

namespace CommitSeal.Session

variable {session : Session} {operation : Operation} {resource : String}

/-! ## Counting prompts in the past -/

/-- The prompts for a resource since it was last without an entry. -/
def promptsSince (resource : String) : List Moment → Nat
  | [] => 0
  | moment :: earlier =>
    if resource ∈ moment.coordinator.pending then
      (if moment.event.prompt?.map Prompt.resource = some resource then 1 else 0)
        + promptsSince resource earlier
    else 0

/-- A move issues no prompt but the one that the entry calls for, and that one within the budget. -/
theorem Moves.prompt_eq {budget : Nat} {entry kept : Option Attempts} {event : Event}
    {prompt : Prompt} (hmoves : Moves budget resource entry event kept)
    (hprompt : event.prompt? = some prompt) :
    (entry.getD .fresh).prompts < budget ∧ prompt = (entry.getD .fresh).prompt resource := by
  cases hmoves with
  | declined hbudget => exact ⟨hbudget, (Option.some.inj hprompt).symm⟩
  | brokenOff hbudget reply fault hfault => exact ⟨hbudget, (Option.some.inj hprompt).symm⟩
  | answered hbudget reply passphrase hreply => exact ⟨hbudget, (Option.some.inj hprompt).symm⟩
  | exhausted => cases hprompt
  | retried => cases hprompt
  | closed => cases hprompt

/-- A prompt is for the resource that its operation names. -/
theorem resource?_of_prompt {prompt : Prompt}
    (hprompt : (session.perform operation).1.prompt? = some prompt) :
    operation.resource? = some prompt.resource := by
  cases hnamed : operation.resource? with
  | none =>
    have hevent : (session.perform operation).1.resource? = none := by
      rw [resource?_perform, hnamed]
    revert hprompt hevent
    cases (session.perform operation).1 <;> simp [Event.prompt?, Event.resource?]
  | some resource => rw [((step_moves hnamed).prompt_eq hprompt).2]; rfl

/-- The counter of a resource agrees with the past; without an entry it counts as zero. -/
def Counted (session : Session) (resource : String) : Prop :=
  (session.coordinator.current resource).prompts = promptsSince resource session.past

/-- A move counts its prompt, if it issues one and keeps the entry. -/
theorem Moves.prompts_eq {budget : Nat} {entry kept : Option Attempts} {event : Event}
    (hmoves : Moves budget resource entry event kept) :
    (kept.getD .fresh).prompts
      = if kept.isSome then
          (if event.prompt?.map Prompt.resource = some resource then 1 else 0)
            + (entry.getD .fresh).prompts
        else 0 := by
  cases hmoves with
  | retried prompts password hentry => simp [hentry, Event.prompt?]
  | brokenOff => simp [Event.prompt?, Attempts.prompt, Nat.add_comm]
  | answered => simp [Event.prompt?, Attempts.prompt, Nat.add_comm]
  | _ => rfl

/-- One step keeps the count: at the resource that it names by `Moves.prompts_eq`, elsewhere because
neither the entry changes nor a prompt is issued. -/
theorem counted_step (hcounted : session.Counted resource) :
    (session.step operation).Counted resource := by
  simp only [Counted, past_step, promptsSince, Coordinator.mem_pending_iff, ← coordinator_step]
  rw [← hcounted]
  by_cases hnamed : operation.resource? = some resource
  · exact (step_moves hnamed).prompts_eq
  · have hprompt : (session.perform operation).1.prompt?.map Prompt.resource ≠ some resource := by
      intro h
      obtain ⟨prompt, hissued, hresource⟩ := Option.map_eq_some_iff.mp h
      exact hnamed (hresource ▸ resource?_of_prompt hissued)
    have hentry : (session.step operation).coordinator.entryOf? resource
        = session.coordinator.entryOf? resource := entryOf?_step_of_ne hnamed
    simp only [Coordinator.current, hentry, if_neg hprompt, Nat.zero_add]
    cases session.coordinator.entryOf? resource <;> simp [Attempts.fresh]

theorem counted_start (budget : Nat) (source : Source) :
    (start budget source).Counted resource := rfl

theorem counted_run (budget : Nat) (source : Source) (operations : List Operation)
    (resource : String) : ((start budget source).run operations).Counted resource :=
  run_induction (motive := fun session => session.Counted resource) operations
    (counted_start budget source) fun _ _ => counted_step

/-! ## Every prompt is within the budget -/

/-- A prompt that comes after `earlier` is within the budget of its moment, and is worded as a first
prompt exactly when it is the first since its resource was last without an entry. -/
def Allowed (moment : Moment) (earlier : List Moment) (prompt : Prompt) : Prop :=
  promptsSince prompt.resource earlier + 1 ≤ moment.coordinator.budget ∧
    prompt.message =
      if promptsSince prompt.resource earlier + 1 = 1 then Prompt.first prompt.resource
      else Prompt.again prompt.resource

/-- Every prompt of the past was allowed when it was issued. -/
def PromptsAllowed (past : List Moment) : Prop :=
  ∀ later moment earlier, past = later ++ moment :: earlier →
    ∀ prompt, moment.event.prompt? = some prompt → Allowed moment earlier prompt

theorem promptsAllowed_cons {moment : Moment} {earlier : List Moment}
    (hmoment : ∀ prompt, moment.event.prompt? = some prompt → Allowed moment earlier prompt)
    (hearlier : PromptsAllowed earlier) : PromptsAllowed (moment :: earlier) := by
  intro later other before hsplit
  cases later with
  | nil =>
    obtain ⟨rfl, rfl⟩ := List.cons.inj hsplit
    exact hmoment
  | cons latest later => exact hearlier later other before (List.cons.inj hsplit).2

/-- The prompt of a step is allowed if the count is right when it is issued. -/
theorem allowed_step (hcounted : ∀ resource, session.Counted resource) {prompt : Prompt}
    (hprompt : (session.perform operation).1.prompt? = some prompt) :
    Allowed ⟨(session.perform operation).1, (session.perform operation).2.1⟩ session.past
      prompt := by
  have hbudget : (session.perform operation).2.1.budget = session.coordinator.budget :=
    budget_step_of_some (resource?_of_prompt hprompt)
  have hcount : (session.coordinator.current prompt.resource).prompts
      = promptsSince prompt.resource session.past := hcounted prompt.resource
  obtain ⟨hlt, hwording⟩ := (step_moves (resource?_of_prompt hprompt)).prompt_eq hprompt
  refine ⟨?_, ?_⟩
  · rw [hbudget, ← hcount]
    exact hlt
  · have hmessage := congrArg Prompt.message hwording
    rw [← hcount]
    simpa [Attempts.prompt, Coordinator.current] using hmessage

theorem promptsAllowed_run (budget : Nat) (source : Source) (operations : List Operation) :
    PromptsAllowed ((start budget source).run operations).past := by
  -- The count is carried along, since it is what tells whether the next prompt is allowed.
  refine (run_induction (motive := fun session =>
    (∀ resource, session.Counted resource) ∧ PromptsAllowed session.past) operations
    ⟨fun _ => counted_start budget source, ?_⟩ ?_).2
  · intro later moment earlier hsplit
    simp [start] at hsplit
  · rintro session operation ⟨hcounted, hallowed⟩
    exact ⟨fun resource => counted_step (hcounted resource),
      promptsAllowed_cons (fun _ => allowed_step hcounted) hallowed⟩

end CommitSeal.Session
