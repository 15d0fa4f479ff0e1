import CommitSeal.Proofs.AgentKey.Authentication
import CommitSeal.Proofs.Retry.Entry
import CommitSeal.Proofs.Signing.Plan
import CommitSeal.Proofs.Signing.Preview

/-!
# Rounds of signing

A signature is attempted in rounds. All rounds of one call follow the same plan
(`Signer.attempt_eq_run`), so they all ask for the same record or none of them asks. A round that
asks either ends, and then no entry is left, or goes on with one prompt less to spare
(`Signer.round_of_asks`). So the rounds come to an end by themselves (`Signer.Signs`), and the
number of attempts that `Signer.sign` allows for is never used up.

The source may answer, decline or raise what it likes, but it must not raise a cancellation: it
cancels by declining. Prepared replies stand for any collaborator, whatever it goes by, since one
call issues finitely many prompts.
-/

namespace CommitSeal

/-! ## What a source raises -/

namespace Source

/-- The faults that requests meet with if they ask a source often enough. -/
def faults : Source → List Fault
  | script replies => replies.filterMap Reply.fault?
  | fixed _ => []
  | terminal t => t.fault.toList

/-- A terminal raises nothing but the fault behind what will be typed, and keeps it. -/
theorem faults_ask (shown : List String) (fault : Option Fault) (lines : List String) :
    (Terminal.ask shown fault lines).1.fault?.toList
      ++ (Terminal.ask shown fault lines).2.fault.toList ⊆ fault.toList := by
  induction lines generalizing shown with
  | nil => cases fault <;> simp [Terminal.ask, Reply.fault?]
  | cons line rest ih =>
    by_cases hline : line = ""
    · simpa only [Terminal.ask, hline, if_true] using ih (shown ++ [Terminal.label])
    · simp [Terminal.ask, hline, Reply.fault?]

/-- A reply is one of those that a source has in store, and no more are put in store. -/
theorem faults_reply (source : Source) (message : String) :
    (source.reply message).1.fault?.toList ++ (source.reply message).2.faults ⊆ source.faults := by
  cases source with
  | script replies =>
    cases replies with
    | nil => exact List.Subset.refl _
    | cons reply rest =>
      show reply.fault?.toList ++ rest.filterMap Reply.fault?
        ⊆ (reply :: rest).filterMap Reply.fault?
      cases hfault : reply.fault? <;> simp [hfault]
  | fixed passphrase => cases passphrase <;> exact List.Subset.refl _
  | terminal t => exact faults_ask (t.shown ++ [message ++ "\n"]) t.fault t.lines

end Source

namespace Signer

open Resolution (Plan)
open Transferable (Certification)

variable (around : Surroundings) (id : KeyId) (explicit : Option Path) (payload : Octets)

/-! ## Rounds without a bound -/

/-- What rounds lead to, however many there are. -/
inductive Signs : Asking → Except Fault Certification × Asking → Prop where
  /-- The last round. -/
  | ended {asking after : Asking} {answer : Except Fault Certification}
      (hround : round around id explicit payload asking = .ended answer after) :
      Signs asking (answer, after)
  /-- A round that is followed by others. -/
  | again {asking after : Asking} {result : Except Fault Certification × Asking}
      (hround : round around id explicit payload asking = .again after)
      (hrest : Signs after result) : Signs asking result

/-! ## Between two rounds -/

/-- What one or more rounds change: they issue some prompts, all of them for one resource. -/
structure Issues (resource : String) (most : Nat) (before after : Asking) : Prop where
  budget : after.coordinator.budget = before.coordinator.budget
  faults : after.credentials.source.faults ⊆ before.credentials.source.faults
  prompts : ∃ issued, after.credentials.prompts = before.credentials.prompts ++ issued ∧
    issued.length ≤ most ∧ ∀ prompt ∈ issued, prompt.resource = resource

namespace Issues

variable {resource : String} {first second : Nat} {before between after : Asking}

theorem nothing (resource : String) (most : Nat) (asking : Asking) :
    Issues resource most asking asking.renew :=
  ⟨rfl, List.Subset.refl _, [], by simp [Asking.renew]⟩

theorem trans (hfirst : Issues resource first before between)
    (hsecond : Issues resource second between after) :
    Issues resource (first + second) before after := by
  obtain ⟨early, hearly, hfew, hone⟩ := hfirst.prompts
  obtain ⟨late, hlate, hfewer, hother⟩ := hsecond.prompts
  refine ⟨hsecond.budget.trans hfirst.budget, List.Subset.trans hsecond.faults hfirst.faults,
    early ++ late, ?_, ?_, ?_⟩
  · rw [hlate, hearly, List.append_assoc]
  · rw [List.length_append]
    omega
  · intro prompt hprompt
    rcases List.mem_append.mp hprompt with h | h
    · exact hone prompt h
    · exact hother prompt h

theorem mono (hissues : Issues resource first before after) (hle : first ≤ second) :
    Issues resource second before after := by
  obtain ⟨issued, hissued, hfew, hone⟩ := hissues.prompts
  exact ⟨hissues.budget, hissues.faults, issued, hissued, Nat.le_trans hfew hle, hone⟩

end Issues

/-- No resource is being asked for. -/
def Idle (coordinator : Coordinator) : Prop := ∀ resource, coordinator.entryOf? resource = none

/-- No resource is being asked for but one, for which so many prompts have been issued. -/
structure Busy (resource : String) (count : Nat) (coordinator : Coordinator) : Prop where
  current : (coordinator.current resource).prompts = count
  others : ∀ other, other ≠ resource → coordinator.entryOf? other = none

theorem Idle.busy {coordinator : Coordinator} (hidle : Idle coordinator) (resource : String) :
    Busy resource 0 coordinator :=
  ⟨by simp [Coordinator.current, hidle resource, Attempts.fresh], fun other _ => hidle other⟩

/-- Dropping the one entry leaves none. -/
theorem Busy.idle {resource : String} {count : Nat} {coordinator : Coordinator}
    (hbusy : Busy resource count coordinator) : Idle (coordinator.setEntry resource none) := by
  intro other
  rw [Coordinator.entryOf?_setEntry]
  split
  · rfl
  · exact hbusy.others other ‹_›

/-- Replacing the one entry leaves one. -/
theorem Busy.setEntry {resource : String} {count : Nat} {coordinator : Coordinator}
    (hbusy : Busy resource count coordinator) (entry : Attempts) :
    Busy resource entry.prompts (coordinator.setEntry resource (some entry)) := by
  refine ⟨by simp [Coordinator.current], fun other hne => ?_⟩
  rw [Coordinator.entryOf?_setEntry_of_ne hne]
  exact hbusy.others other hne

theorem pending_eq_nil_iff {coordinator : Coordinator} :
    coordinator.pending = [] ↔ Idle coordinator := by
  rw [List.eq_nil_iff_forall_not_mem]
  simp only [Coordinator.mem_pending_iff, Option.not_isSome_iff_eq_none]
  exact Iff.rfl

theorem Idle.holds {coordinator : Coordinator} (hidle : Idle coordinator) (resource : String) :
    coordinator.holds resource = false := by
  simp [Coordinator.holds, hidle resource]

/-- How a round goes on or ends when so many prompts have been issued for a resource, and no other
resource is being asked for. -/
inductive Progress (resource : String) (count : Nat) (asking : Asking) : Round → Prop where
  /-- One more prompt was issued, and there is another one left. -/
  | again {after : Asking} (hleft : count + 1 < asking.coordinator.budget)
      (hbusy : Busy resource (count + 1) after.coordinator)
      (hissues : Issues resource 1 asking after) : Progress resource count asking (.again after)
  /-- At most one prompt was issued, and no entry is left. -/
  | ended {after : Asking} {answer : Except Fault Certification} (hidle : Idle after.coordinator)
      (hissues : Issues resource (asking.coordinator.budget - count) asking after) :
      Progress resource count asking (.ended answer after)

/-! ## One round -/

/-- A round that does not ask ends, and changes nothing. -/
theorem round_of_settled {asking : Asking} {answer : Except Fault Certification}
    (hplan : plan around id explicit payload = .settled answer) :
    round around id explicit payload asking = .ended answer asking.renew := by
  have hattempt : attempt around id explicit payload asking.renew = (answer, asking.renew) := by
    rw [attempt_eq_run around id explicit payload rfl, hplan]
    rfl
  have hreport : ∀ outcome, asking.renew.report outcome = (.ok false, asking.renew) :=
    fun outcome => rfl
  unfold round
  rw [hattempt]
  cases answer with
  | ok signature => simp only [hreport]
  | error fault =>
    simp only [hreport]
    split <;> rfl

/-- A round that is cancelled ends at once. -/
theorem round_of_cancelled {asking after : Asking} {fault : Fault}
    (hattempt : attempt around id explicit payload asking.renew = (.error fault, after))
    (hcancelled : isCancelled fault = true) :
    round around id explicit payload asking = .ended (.error fault) after := by
  unfold round
  rw [hattempt]
  simp only [hcancelled, if_true]

/-- A round whose resource has no entry to report on ends at once. -/
theorem round_of_no_entry {asking after : Asking} {fault : Fault} {resource : String}
    (hattempt : attempt around id explicit payload asking.renew = (.error fault, after))
    (hresource : after.resource = some resource)
    (hentry : after.coordinator.entryOf? resource = none) :
    ∃ final, round around id explicit payload asking = .ended final after := by
  have hreport : after.report fault.outcome
      = ((Attempts.fatal? fault.outcome).elim (.ok false) .error, after) := by
    cases after
    obtain rfl := hresource
    simp only [Asking.report, Coordinator.report_of_none hentry]
  unfold round
  rw [hattempt]
  simp only [hreport]
  split
  · exact ⟨_, rfl⟩
  · cases Attempts.fatal? fault.outcome <;> exact ⟨_, rfl⟩

/-- The state with another entry for a resource. -/
def Asking.keeping (asking : Asking) (resource : String) (kept : Option Attempts) : Asking :=
  { asking with coordinator := asking.coordinator.setEntry resource kept }

/-- What is reported on an entry is answered by that entry. -/
theorem report_of_entry {asking : Asking} {resource : String} {entry : Attempts}
    {outcome : Outcome} {verdict : Except Failure Bool} {kept : Option Attempts}
    (hresource : asking.resource = some resource)
    (hentry : asking.coordinator.entryOf? resource = some entry)
    (hverdict : entry.report asking.coordinator.budget asking.passphrase.isSome outcome
      = (verdict, kept)) :
    asking.report outcome = (verdict, asking.keeping resource kept) := by
  simp only [Asking.report, hresource, Coordinator.report_of_some hentry, hverdict, Asking.keeping]

/-- A round whose resource has an entry goes on if a passphrase was refused and a prompt is left;
else it ends, and the entry is dropped. -/
theorem round_of_entry {asking after : Asking} {answer : Except Fault Certification}
    {resource : String} {entry : Attempts}
    (hattempt : attempt around id explicit payload asking.renew = (answer, after))
    (huncancelled : Uncancelled answer) (hresource : after.resource = some resource)
    (hentry : after.coordinator.entryOf? resource = some entry) :
    (after.passphrase.isSome = true ∧ entry.prompts < after.coordinator.budget ∧
        round around id explicit payload asking
          = .again (after.keeping resource (some ⟨entry.prompts, none⟩))) ∨
      ∃ final, round around id explicit payload asking
        = .ended final (after.keeping resource none) := by
  unfold round
  rw [hattempt]
  cases answer with
  | ok signature =>
    have hcases := entry.report_cases after.coordinator.budget after.passphrase.isSome .succeeded
    rcases hverdict : entry.report after.coordinator.budget after.passphrase.isSome .succeeded
      with ⟨verdict, kept⟩
    rw [hverdict] at hcases
    rcases hcases with ⟨-, hrefused, -⟩ | ⟨-, hkept⟩
    · cases hrefused
    · obtain rfl : kept = none := hkept
      simp only [report_of_entry hresource hentry hverdict]
      right
      cases verdict <;> exact ⟨_, rfl⟩
  | error fault =>
    have hcases := entry.report_cases after.coordinator.budget after.passphrase.isSome fault.outcome
    have hfault : isCancelled fault = false := huncancelled
    rcases hverdict : entry.report after.coordinator.budget after.passphrase.isSome fault.outcome
      with ⟨verdict, kept⟩
    rw [hverdict] at hcases
    simp only [hfault, Bool.false_eq_true, if_false, report_of_entry hresource hentry hverdict]
    rcases hcases with ⟨hattempted, -, hbudget, hagain⟩ | ⟨hanswer, hkept⟩
    · obtain ⟨rfl, rfl⟩ := Prod.mk.inj hagain
      exact .inl ⟨hattempted, hbudget, rfl⟩
    · obtain rfl : kept = none := hkept
      right
      rcases verdict with failure | _ | _
      · exact ⟨_, rfl⟩
      · exact ⟨_, rfl⟩
      · exact absurd rfl hanswer

/-- A prompt that an entry leads to is one prompt for its resource. -/
theorem Issues.settled {resource : String} (asking : Asking) (entry : Attempts)
    {coordinator : Coordinator} (hbudget : coordinator.budget = asking.coordinator.budget)
    (passphrase : Option Octets) :
    Issues resource 1 asking
      ⟨coordinator, asking.credentials.settled (entry.prompt resource), some resource,
        passphrase⟩ := by
  refine ⟨hbudget, ?_, [entry.prompt resource], ?_, ?_, ?_⟩
  · rw [Credentials.settled_source]
    exact (List.append_subset.mp (asking.credentials.source.faults_reply _)).2
  · exact Credentials.settled_prompts _ _
  · exact Nat.le_refl 1
  · intro prompt hprompt
    rw [List.mem_singleton.mp hprompt]
    rfl

/-- With no prompt left, a round asks in vain. -/
theorem ask_of_le {asking : Asking} {record : SecretRecord}
    (hbudget : asking.coordinator.budget ≤ (asking.coordinator.current record.resource).prompts) :
    asking.renew.ask record
      = (.error (.failed (Failure.noAttemptsLeft record.resource)),
          ⟨asking.coordinator.setEntry record.resource none, asking.credentials,
            some record.resource, none⟩) := by
  simp [Asking.ask, Asking.renew, Coordinator.request_of_le hbudget]

/-- Otherwise it issues one prompt, and what the reply is settled to is what it has. -/
theorem ask_of_lt {asking : Asking} {record : SecretRecord} {answer : Except Fault Octets}
    {kept : Option Attempts}
    (hbudget : (asking.coordinator.current record.resource).prompts < asking.coordinator.budget)
    (hsettle : (asking.coordinator.current record.resource).settle record.resource
      (asking.credentials.ask
        ((asking.coordinator.current record.resource).prompt record.resource)).1
        = (answer, kept)) :
    asking.renew.ask record
      = (answer.map some,
          ⟨asking.coordinator.setEntry record.resource kept,
            asking.credentials.settled
              ((asking.coordinator.current record.resource).prompt record.resource),
            some record.resource, answer.toOption⟩) := by
  simp only [Asking.ask, Asking.renew, Coordinator.request_of_lt hbudget, hsettle]
  cases answer <;> rfl

/-- A round that has put its prompt makes progress. -/
theorem progress_of_prompt {asking : Asking} {resource : String} {count : Nat}
    {answer : Except Fault Certification} {password passphrase : Option Octets}
    (hbusy : Busy resource count asking.coordinator) (hbudget : count < asking.coordinator.budget)
    (hattempt : attempt around id explicit payload asking.renew
      = (answer, ⟨asking.coordinator.setEntry resource (some ⟨count + 1, password⟩),
          asking.credentials.settled ((asking.coordinator.current resource).prompt resource),
          some resource, passphrase⟩))
    (huncancelled : Uncancelled answer) :
    Progress resource count asking (round around id explicit payload asking) := by
  have hprompted := hbusy.setEntry ⟨count + 1, password⟩
  rcases round_of_entry around id explicit payload hattempt huncancelled rfl
    Coordinator.entryOf?_setEntry_self with ⟨-, hleft, hround⟩ | ⟨final, hround⟩
  · rw [hround]
    refine .again hleft (hprompted.setEntry ⟨count + 1, none⟩) ?_
    apply Issues.settled asking (asking.coordinator.current resource)
    rfl
  · rw [hround]
    have hone : 1 ≤ asking.coordinator.budget - count := by omega
    refine .ended hprompted.idle (Issues.mono ?_ hone)
    apply Issues.settled asking (asking.coordinator.current resource)
    rfl

/-- A round that asks makes progress. -/
theorem round_of_asks {asking : Asking} {record : SecretRecord} {count : Nat}
    {next : Option Octets → Except Fault Certification}
    (hplan : plan around id explicit payload = .asks record next)
    (hbusy : Busy record.resource count asking.coordinator)
    (hsource : ∀ fault ∈ asking.credentials.source.faults, isCancelled fault = false) :
    Progress record.resource count asking (round around id explicit payload asking) := by
  have hattempt : attempt around id explicit payload asking.renew
      = (Plan.asks record next).run Asking.ask asking.renew := by
    rw [attempt_eq_run around id explicit payload rfl, hplan]
  have hcancels : (Plan.asks record next).NeverCancels := by
    rw [← hplan]
    exact plan_neverCancels around id explicit payload
  have hcurrent := hbusy.current
  simp only [Plan.run] at hattempt
  rcases Nat.lt_or_ge count asking.coordinator.budget with hbudget | hbudget
  · have hlt := hbudget
    rw [← hcurrent] at hlt
    rcases Attempts.settle_cases (asking.coordinator.current record.resource) record.resource
      (asking.credentials.ask
        ((asking.coordinator.current record.resource).prompt record.resource)).1 with
      ⟨passphrase, -, hsettle⟩ | ⟨fault, hreply, hsettle⟩ | ⟨-, hsettle⟩
    · -- A passphrase: the plan goes on with it, and does not cancel.
      rw [ask_of_lt hlt hsettle, hcurrent] at hattempt
      exact progress_of_prompt around id explicit payload hbusy hbudget hattempt
        (hcancels (some passphrase))
    · -- The reply is a fault, which the source had in store.
      rw [ask_of_lt hlt hsettle, hcurrent] at hattempt
      refine progress_of_prompt around id explicit payload hbusy hbudget hattempt (hsource fault ?_)
      apply asking.credentials.source.faults_reply _
      apply List.mem_append_left
      rw [← Credentials.ask_fst, hreply]
      exact List.mem_singleton_self fault
    · -- The prompt was declined, which is a cancellation.
      rw [ask_of_lt hlt hsettle] at hattempt
      rw [round_of_cancelled around id explicit payload hattempt rfl]
      have hone : 1 ≤ asking.coordinator.budget - count := by omega
      refine .ended hbusy.idle (Issues.mono ?_ hone)
      apply Issues.settled asking (asking.coordinator.current record.resource)
      rfl
  · -- No prompt is left; the report finds no entry.
    have hle := hbudget
    rw [← hcurrent] at hle
    rw [ask_of_le hle] at hattempt
    obtain ⟨final, hround⟩ := round_of_no_entry around id explicit payload hattempt rfl
      Coordinator.entryOf?_setEntry_self
    rw [hround]
    exact .ended hbusy.idle ⟨rfl, List.Subset.refl _, [], by simp⟩

/-! ## All rounds -/

/-- From a round that asks on, the attempts are the rounds that follow, if there are enough of them;
they issue no more prompts than there are left, and leave no entry behind. -/
theorem attempts_of_asks {record : SecretRecord} {next : Option Octets → Except Fault Certification}
    (hplan : plan around id explicit payload = .asks record next) (fuel : Nat) :
    ∀ (asking : Asking) (count : Nat), Busy record.resource count asking.coordinator →
      (∀ fault ∈ asking.credentials.source.faults, isCancelled fault = false) →
      count ≤ asking.coordinator.budget → asking.coordinator.budget < count + fuel →
      Signs around id explicit payload asking (attempts around id explicit payload fuel asking) ∧
        Idle (attempts around id explicit payload fuel asking).2.coordinator ∧
        Issues record.resource (asking.coordinator.budget - count) asking
          (attempts around id explicit payload fuel asking).2 := by
  induction fuel with
  | zero =>
    intro asking count _ _ hcount hfuel
    omega
  | succ fuel ih =>
    intro asking count hbusy hsource hcount hfuel
    have hprogress := round_of_asks around id explicit payload hplan hbusy hsource
    cases hround : round around id explicit payload asking with
    | ended answer after =>
      rw [hround] at hprogress
      simp only [attempts, hround]
      cases hprogress with
      | ended hidle hissues => exact ⟨.ended hround, hidle, hissues⟩
    | again after =>
      rw [hround] at hprogress
      simp only [attempts, hround]
      cases hprogress with
      | again hleft hnext hissues =>
        -- The prompts left get fewer with every round that is followed by another.
        have hbudget := hissues.budget
        obtain ⟨hsigns, hidle, hrest⟩ := ih after (count + 1) hnext
          (fun fault hfault => hsource fault (hissues.faults hfault)) (by omega) (by omega)
        refine ⟨.again hround hsigns, hidle, (hissues.trans hrest).mono ?_⟩
        omega

/-- Where nothing is asked for, there is one round, which changes nothing. -/
theorem attempts_of_settled {answer : Except Fault Certification} {asking : Asking} (fuel : Nat)
    (hplan : plan around id explicit payload = .settled answer) :
    Signs around id explicit payload asking
        (attempts around id explicit payload (fuel + 1) asking) ∧
      (attempts around id explicit payload (fuel + 1) asking).2 = asking.renew := by
  have hround : round around id explicit payload asking = .ended answer asking.renew :=
    round_of_settled around id explicit payload hplan
  simp only [attempts, hround]
  exact ⟨.ended hround, trivial⟩

/-- What signing with an identifier that a name stands for comes to. -/
theorem attempts_of_idle {asking : Asking} (hidle : Idle asking.coordinator)
    (hsource : ∀ fault ∈ asking.credentials.source.faults, isCancelled fault = false) :
    let result := attempts around id explicit payload (asking.coordinator.budget + 1) asking
    Signs around id explicit payload asking result ∧ Idle result.2.coordinator ∧
      ∃ resource, Issues resource asking.coordinator.budget asking result.2 := by
  intro result
  cases hplan : plan around id explicit payload with
  | settled answer =>
    -- No prompt is issued, so any resource will do.
    obtain ⟨hsigns, hsame⟩ := attempts_of_settled around id explicit payload
      asking.coordinator.budget hplan
    refine ⟨hsigns, ?_, "", ?_⟩
    · show Idle result.2.coordinator
      rw [show result.2 = asking.renew from hsame]
      exact hidle
    · rw [show result.2 = asking.renew from hsame]
      exact Issues.nothing _ _ asking
  | asks record next =>
    obtain ⟨hsigns, hafter, hissues⟩ := attempts_of_asks around id explicit payload hplan
      (asking.coordinator.budget + 1) asking 0 (hidle.busy record.resource) hsource
      (Nat.zero_le _) (by omega)
    exact ⟨hsigns, hafter, record.resource, hissues⟩

/-- However a source behaves that raises no cancellation: signing comes to an end by itself, the
prompts it issues are no more than the budget and all for one resource, and whatever the answer is,
nothing is pending and no passphrase is held afterwards. -/
theorem signing_ends (name : Option String) (asking : Asking)
    (hpending : asking.coordinator.pending = [])
    (hsource : ∀ fault ∈ asking.credentials.source.faults, isCancelled fault = false) :
    (∀ id, keyIdOf around name = .ok id →
      Signs around id explicit payload asking (sign around name explicit payload asking)) ∧
    (∃ resource issued,
      (sign around name explicit payload asking).2.credentials.prompts
          = asking.credentials.prompts ++ issued ∧
        issued.length ≤ asking.coordinator.budget ∧
        ∀ prompt ∈ issued, prompt.resource = resource) ∧
    (sign around name explicit payload asking).2.coordinator.pending = [] ∧
    ∀ resource,
      (sign around name explicit payload asking).2.coordinator.holds resource = false := by
  have hidle : Idle asking.coordinator := pending_eq_nil_iff.mp hpending
  unfold sign
  cases hname : keyIdOf around name with
  | error fault =>
    refine ⟨?_, ⟨"", [], by simp, by simp, by simp⟩, hpending, hidle.holds⟩
    intro id hid
    cases hid
  | ok id =>
    obtain ⟨hsigns, hafter, resource, hissues⟩ :=
      attempts_of_idle around id explicit payload hidle hsource
    refine ⟨?_, ⟨resource, hissues.prompts⟩, pending_eq_nil_iff.mpr hafter, hafter.holds⟩
    intro other hother
    obtain rfl := Except.ok.inj hother
    exact hsigns

/-! ## Passphrases that do not serve -/

section Refused

variable {asking : Asking} {record : SecretRecord}
  {next : Option Octets → Except Fault Certification} {passphrase : Octets} {fault : Fault}

/-- What a prompt that is answered leaves behind. -/
def Asking.prompted (asking : Asking) (resource : String) (passphrase : Octets) : Asking where
  coordinator := asking.coordinator.setEntry resource
    (some ⟨(asking.coordinator.current resource).prompts + 1, some passphrase⟩)
  credentials := asking.credentials.settled ((asking.coordinator.current resource).prompt resource)
  resource := some resource
  passphrase := some passphrase

/-- A round whose passphrase is refused is followed by another as long as there is a prompt left;
else the refusal is the answer. -/
theorem round_of_refused (hplan : plan around id explicit payload = .asks record next)
    (hbudget : (asking.coordinator.current record.resource).prompts < asking.coordinator.budget)
    (hreply : (asking.credentials.ask
      ((asking.coordinator.current record.resource).prompt record.resource)).1.passphrase?
        = some passphrase)
    (hnext : next (some passphrase) = .error fault) (huncancelled : isCancelled fault = false)
    (hrefused : fault.outcome = .refused) :
    round around id explicit payload asking
      = if (asking.coordinator.current record.resource).prompts + 1 < asking.coordinator.budget then
          .again ((asking.prompted record.resource passphrase).keeping record.resource
            (some ⟨(asking.coordinator.current record.resource).prompts + 1, none⟩))
        else
          .ended (.error fault)
            ((asking.prompted record.resource passphrase).keeping record.resource none) := by
  have hattempt : attempt around id explicit payload asking.renew
      = (.error fault, asking.prompted record.resource passphrase) := by
    rw [attempt_eq_run around id explicit payload rfl, hplan]
    simp only [Plan.run, ask_of_lt hbudget (Attempts.settle_of_passphrase _ _ hreply)]
    simp only [Except.map, hnext]
    rfl
  have hentry : (asking.prompted record.resource passphrase).coordinator.entryOf? record.resource
      = some ⟨(asking.coordinator.current record.resource).prompts + 1, some passphrase⟩ :=
    Coordinator.entryOf?_setEntry_self
  have hrefusal := Attempts.report_refused asking.coordinator.budget
    ⟨(asking.coordinator.current record.resource).prompts + 1, some passphrase⟩
  unfold round
  rw [hattempt]
  simp only [huncancelled, Bool.false_eq_true, if_false, hrefused]
  by_cases hleft : (asking.coordinator.current record.resource).prompts + 1
      < asking.coordinator.budget
  · rw [if_pos hleft] at hrefusal ⊢
    simp only [report_of_entry rfl hentry hrefusal]
  · rw [if_neg hleft] at hrefusal ⊢
    simp only [report_of_entry rfl hentry hrefusal]

end Refused

/-- A protected candidate that is the only one is asked about; if it refuses every passphrase, so
does the plan. -/
theorem exists_plan_of_refusing {around : Surroundings} {id : KeyId} {explicit : Option Path}
    {candidate : Resolution.Candidate} {missing : Fault} {reason : String}
    (hplan : Resolution.plan around id explicit
      = Resolution.candidatesPlan around.context missing none none [candidate])
    (hprotected : candidate.record.isProtected = true) (payload : Octets)
    (hunlock : ∀ passphrase, candidate.unlock around.context (some passphrase)
      = .error (.failed (.undecrypted reason))) :
    ∃ next, plan around id explicit payload = .asks candidate.record next ∧
      ∀ passphrase, next (some passphrase) = .error (.failed (.undecrypted reason)) := by
  unfold plan
  rw [hplan]
  simp only [Resolution.candidatesPlan, hprotected, if_true]
  refine ⟨_, rfl, fun passphrase => ?_⟩
  have hsupplies : Resolution.Supplies (Resolution.always (some passphrase))
      ⟨some (some passphrase), ()⟩ (some passphrase) [candidate] := fun _ _ => rfl
  simp only [Resolution.tryCandidates_undecrypted (hunlock passphrase) (List.forall_mem_nil _)
    hsupplies]

/-! ## Two prompts in vain -/

/-- A budget of two, and a source with two passphrases and one more reply. -/
def twoAttempts : Asking where
  coordinator := .start 2
  credentials.source :=
    .script [.text (Text.points "wrong"), .octets [0x20], .raised (.invalid "no")]

/-- What the first prompt for a resource leaves behind. -/
def betweenAttempts (resource : String) : Asking :=
  (twoAttempts.prompted resource (Octets.ofText "wrong")).keeping resource (some ⟨1, none⟩)

/-- What the second one leaves behind. -/
def afterAttempts (resource : String) : Asking :=
  ((betweenAttempts resource).prompted resource [0x20]).keeping resource none

theorem current_betweenAttempts (resource : String) :
    (betweenAttempts resource).coordinator.current resource = ⟨1, none⟩ := by
  simp [betweenAttempts, Coordinator.current, Asking.keeping]

theorem prompts_afterAttempts (resource : String) :
    (afterAttempts resource).credentials.prompts
      = [⟨resource, Prompt.first resource⟩, ⟨resource, Prompt.again resource⟩] := by
  simp only [afterAttempts, Asking.keeping, Asking.prompted, current_betweenAttempts,
    Credentials.settled_prompts]
  rfl

/-- If every passphrase is refused, both prompts are used. -/
theorem attempts_twoAttempts {record : SecretRecord}
    {next : Option Octets → Except Fault Certification} {fault : Fault}
    (hplan : plan around id explicit payload = .asks record next)
    (hnext : ∀ passphrase, next (some passphrase) = .error fault)
    (huncancelled : isCancelled fault = false) (hrefused : fault.outcome = .refused) :
    attempts around id explicit payload 3 twoAttempts
      = (.error fault, afterAttempts record.resource) := by
  have hfirst : round around id explicit payload twoAttempts
      = .again (betweenAttempts record.resource) := by
    have hreply : (twoAttempts.credentials.ask ((twoAttempts.coordinator.current
        record.resource).prompt record.resource)).1.passphrase?
          = some (Octets.ofText "wrong") := Octets.ofPoints?_points "wrong"
    exact round_of_refused around id explicit payload hplan Nat.two_pos hreply (hnext _)
      huncancelled hrefused
  have hsecond : round around id explicit payload (betweenAttempts record.resource)
      = .ended (.error fault) (afterAttempts record.resource) := by
    have hbudget : ((betweenAttempts record.resource).coordinator.current record.resource).prompts
        < (betweenAttempts record.resource).coordinator.budget := by
      rw [current_betweenAttempts]
      exact Nat.one_lt_two
    have hreply : ((betweenAttempts record.resource).credentials.ask (((betweenAttempts
        record.resource).coordinator.current record.resource).prompt record.resource)).1.passphrase?
          = some [0x20] := rfl
    rw [round_of_refused around id explicit payload hplan hbudget hreply (hnext _) huncancelled
      hrefused, current_betweenAttempts]
    rfl
  simp only [attempts, hfirst, hsecond]

section Vain

open AgentKey (entry oneBlock)
open Resolution (homeWith homeCertificate homeFile homeDirectory candidateOf tinyId)
open SExpr (atom list)

/-- The tiny key under a protection that no passphrase undoes. -/
def blockTinyKey : AgentKey where
  kind := .guarded
  algorithm := Octets.ofText "rsa"
  elements := [entry .n [0x0F], entry .e [0x03], list (oneBlock.items (Octets.ofText "96"))]

/-- Its file. -/
def blockTinyFile : Octets :=
  SExpr.canonical (list [atom blockTinyKey.kind.atom,
    list (atom blockTinyKey.algorithm :: blockTinyKey.elements)])

/-- A home in which it is the only key file. -/
def blockHome : Surroundings := homeWith [("a", blockTinyFile)]

/-- The candidate in its directory. -/
def blockCandidate : Resolution.Candidate :=
  candidateOf homeCertificate (homeFile ("a", blockTinyFile)) blockTinyKey

theorem load_blockTinyFile : AgentKey.load blockTinyFile = .ok blockTinyKey := by
  have hatoms : SExpr.WithinLimit (list [atom blockTinyKey.kind.atom,
      list (atom blockTinyKey.algorithm :: blockTinyKey.elements)]).atoms := by
    unfold SExpr.WithinLimit
    decide +kernel
  have hkind : AgentKey.Kind.ofAtom? blockTinyKey.kind.atom = some .guarded := by decide
  rw [AgentKey.load, blockTinyFile, SExpr.parseKeyFile_canonical hatoms]
  simp only [AgentKey.ofItems, hkind]
  rfl

theorem candidatesAmong_blockTinyFile :
    Resolution.candidatesAmong homeCertificate ([("a", blockTinyFile)].map homeFile)
      = [blockCandidate] := by
  have hheld : Resolution.heldKey? homeCertificate.key blockTinyFile = some blockTinyKey :=
    Resolution.heldKey?_of_load load_blockTinyFile nofun (by decide +kernel)
  simp [Resolution.candidatesAmong, homeFile, hheld, blockCandidate]

theorem unprotect_blockTinyKey (passphrase : Octets) :
    blockTinyKey.unprotect (some passphrase) {} = .error .badPassphrase := by
  have hkey : blockTinyKey.ProtectedBy oneBlock [entry .n [0x0F], entry .e [0x03]] [] :=
    { kind := rfl
      family := ⟨.rsa, by decide⟩
      elements := ⟨Octets.ofText "96", rfl, rfl⟩
      before := by decide
      salt := rfl
      count := by decide
      iv := rfl
      ciphertext := ⟨nofun, rfl⟩ }
  obtain ⟨derived, hderived⟩ := AgentKey.exists_derive passphrase hkey.salt 96 16
  exact hkey.unprotect_of_not_authentic (by decide) hderived
    (AgentKey.not_authentic_oneBlock _ _ _ derived)

theorem candidates_blockHome :
    Resolution.candidates blockHome.tree homeCertificate homeDirectory
      = .ok ⟨[blockCandidate], none⟩ := by
  have hloads : ∀ file ∈ [("a", blockTinyFile)].map homeFile,
      AgentKey.Loads file.content ∨ AgentKey.Malformed file.content := by
    simp only [List.map_cons, List.map_nil, List.forall_mem_cons, List.not_mem_nil,
      false_imp_iff, implies_true, and_true]
    exact .inl ⟨_, load_blockTinyFile⟩
  rw [blockHome, Resolution.candidates_homeWith (by decide) hloads,
    candidatesAmong_blockTinyFile]

/-- Whatever the passphrase for the candidate is, it is refused. -/
theorem exists_plan_blockHome (payload : Octets) :
    ∃ next, plan blockHome tinyId none payload = .asks blockCandidate.record next ∧
      ∀ passphrase, next (some passphrase) = .error AgentKey.UnprotectError.badPassphrase.fault :=
  exists_plan_of_refusing (Resolution.plan_of_candidates (Resolution.place_homeWith _)
    (Resolution.selectCertificate_homeWith _) candidates_blockHome) rfl payload fun passphrase =>
    Resolution.unlock_candidateOf Resolution.findMaterial_homeCertificate _
      (unprotect_blockTinyKey passphrase)

/-- Both prompts are used, the second as a repetition of the first; then the refusal is the answer,
and nothing is left of the passphrases. -/
theorem signing_ends_in_vain :
    twoAttempts.coordinator.pending = [] ∧
    (∀ fault ∈ twoAttempts.credentials.source.faults, isCancelled fault = false) ∧
    (∃ id, keyIdOf blockHome (some tinyName) = .ok id ∧
      Signs blockHome id none [1] twoAttempts
        (sign blockHome (some tinyName) none [1] twoAttempts)) ∧
    (sign blockHome (some tinyName) none [1] twoAttempts).1
      = .error (.failed (.undecrypted "bad passphrase or corrupt key")) ∧
    (sign blockHome (some tinyName) none [1] twoAttempts).2.credentials.prompts
      = [⟨blockCandidate.record.resource, Prompt.first blockCandidate.record.resource⟩,
          ⟨blockCandidate.record.resource, Prompt.again blockCandidate.record.resource⟩] ∧
    (sign blockHome (some tinyName) none [1] twoAttempts).2.coordinator.pending = [] := by
  have hpending : twoAttempts.coordinator.pending = [] := pending_eq_nil_iff.mpr fun _ => rfl
  have hsource : ∀ fault ∈ twoAttempts.credentials.source.faults, isCancelled fault = false := by
    simp [twoAttempts, Source.faults, Reply.fault?, isCancelled]
  have hid : keyIdOf blockHome (some tinyName) = .ok tinyId := rfl
  obtain ⟨hsigns, -, hafter, -⟩ :=
    signing_ends blockHome none [1] (some tinyName) twoAttempts hpending hsource
  have hsign : sign blockHome (some tinyName) none [1] twoAttempts
      = (.error AgentKey.UnprotectError.badPassphrase.fault,
          afterAttempts blockCandidate.record.resource) := by
    obtain ⟨next, hplan, hnext⟩ := exists_plan_blockHome [1]
    rw [sign, hid]
    exact attempts_twoAttempts _ _ _ _ hplan hnext rfl rfl
  refine ⟨hpending, hsource, ⟨tinyId, hid, hsigns tinyId hid⟩, ?_, ?_, hafter⟩
  · rw [hsign]
    rfl
  · rw [hsign]
    exact prompts_afterAttempts _

end Vain

end Signer

end CommitSeal
