import CommitSeal.Datum
import CommitSeal.Passphrase.Credentials

/-!
# Bounded retries

A coordinator asks for passphrases, each resource at most as often as the attempt budget allows.
While a resource is being asked for, an entry counts its prompts and holds the last passphrase; the
entry is dropped when the passphrase has served or no more prompts are allowed. What happens to an
entry depends on nothing but that entry, the budget and the credentials.
-/

namespace CommitSeal

/-- What is kept while a resource is being asked for. -/
structure Attempts where
  /-- The prompts issued so far. -/
  prompts : Nat
  /-- The last passphrase, until its outcome is known. -/
  password : Option Octets
  deriving DecidableEq, Repr

/-- A budget, and the entries of the resources that are being asked for. -/
structure Coordinator where
  budget : Nat
  entries : List (String × Attempts)
  deriving DecidableEq, Repr

/-! ## Wording -/

/-- The text of the first prompt for a resource. -/
def Prompt.first (resource : String) : String :=
  "Key '" ++ resource ++ "' is encrypted. Enter the passphrase to decrypt it."

/-- The text of every further prompt for a resource. -/
def Prompt.again (resource : String) : String :=
  "Encrypted key '" ++ resource ++ "' could not be decrypted. Enter the passphrase again."

/-- The failure of a request beyond the budget. -/
def Failure.noAttemptsLeft (resource : String) : Failure :=
  .undecrypted ("no passphrase attempts left for " ++ resource)

/-- The failure of a request that was declined. -/
def Failure.notProvided (resource : String) : Failure :=
  .cancelled ("no passphrase provided for " ++ resource)

/-! ## One resource -/

namespace Attempts

/-- The entry of a resource that has not been asked for. -/
def fresh : Attempts := ⟨0, none⟩

/-- The prompt that an entry leads to. -/
def prompt (entry : Attempts) (resource : String) : Prompt :=
  ⟨resource, if entry.prompts = 0 then Prompt.first resource else Prompt.again resource⟩

/-- What a reply makes of a prompt: the answer, and the entry to keep. The prompt counts even if the
source broke off, or its text has no UTF-8 form. -/
def settle (entry : Attempts) (resource : String) (reply : Reply) :
    Except Fault Octets × Option Attempts :=
  match reply.fault? with
  | some fault => (.error fault, some ⟨entry.prompts + 1, none⟩)
  | none =>
    match reply.passphrase? with
    | none => (.error (.failed (Failure.notProvided resource)), none)
    | some passphrase => (.ok passphrase, some ⟨entry.prompts + 1, some passphrase⟩)

/-- Asks for the passphrase of a resource. The answer is the passphrase, the entry to keep, and the
credentials; a buffer that the reply came in is cleared. -/
def request (budget : Nat) (resource : String) (entry : Attempts) (credentials : Credentials) :
    Except Fault Octets × Option Attempts × Credentials :=
  if budget ≤ entry.prompts then
    (.error (.failed (Failure.noAttemptsLeft resource)), none, credentials)
  else
    let (reply, credentials) := credentials.ask (entry.prompt resource)
    let (answer, kept) := entry.settle resource reply
    (answer, kept, credentials.wipe reply)

/-- The failure that ends a prompt sequence for good. -/
def fatal? : Outcome → Option Failure
  | .unusable failure => some failure
  | .broken text => some (.undecodable ("cannot use key: " ++ text))
  | .succeeded => none
  | .refused => none

/-- Whether another prompt is to follow an outcome. -/
def retries (budget : Nat) (entry : Attempts) (attempted : Bool) : Outcome → Bool
  | .refused => attempted && decide (entry.prompts < budget)
  | _ => false

/-- Takes note of an outcome. The answer is whether to ask again, and the entry to keep. -/
def report (budget : Nat) (entry : Attempts) (attempted : Bool) (outcome : Outcome) :
    Except Failure Bool × Option Attempts :=
  match fatal? outcome with
  | some failure => (.error failure, none)
  | none =>
    if entry.retries budget attempted outcome then (.ok true, some ⟨entry.prompts, none⟩)
    else (.ok false, none)

end Attempts

/-! ## All resources -/

namespace Coordinator

/-- A value as an attempt budget. -/
def budget? : Datum → Except Fault Nat
  | .integer value =>
    if 0 < value then .ok value.toNat else .error (refusal (.integer value))
  | value => .error (refusal value)
where
  /-- The refusal of a value. -/
  refusal (value : Datum) : Fault :=
    .invalid ("passphrase attempt budget must be a positive integer, got " ++ value.literal)

/-- A coordinator that has asked for nothing yet. -/
def start (budget : Nat) : Coordinator := ⟨budget, []⟩

/-- The entry of a resource. -/
def entryOf? (coordinator : Coordinator) (resource : String) : Option Attempts :=
  coordinator.entries.lookup resource

/-- Keeps an entry for a resource, or none. -/
def setEntry (coordinator : Coordinator) (resource : String) (entry : Option Attempts) :
    Coordinator :=
  { coordinator with
    entries := (entry.map fun entry => (resource, entry)).toList
      ++ coordinator.entries.filter fun known => known.1 != resource }

/-- Replaces the budget. -/
def setBudget (coordinator : Coordinator) (budget : Nat) : Coordinator :=
  { coordinator with budget }

/-- Asks for the passphrase of a resource. -/
def request (coordinator : Coordinator) (resource : String) (credentials : Credentials) :
    Except Fault Octets × Coordinator × Credentials :=
  let (answer, entry, credentials) :=
    ((coordinator.entryOf? resource).getD Attempts.fresh).request coordinator.budget resource
      credentials
  (answer, coordinator.setEntry resource entry, credentials)

/-- Takes note of how the use of a passphrase went: whether to ask again. -/
def report (coordinator : Coordinator) (resource : String) (attempted : Bool)
    (outcome : Outcome) : Except Failure Bool × Coordinator :=
  match coordinator.entryOf? resource with
  | some entry =>
    let (answer, entry) := entry.report coordinator.budget attempted outcome
    (answer, coordinator.setEntry resource entry)
  | none =>
    match Attempts.fatal? outcome with
    | some failure => (.error failure, coordinator)
    | none => (.ok false, coordinator)

/-- The resources that are being asked for, in order. -/
def pending (coordinator : Coordinator) : List String :=
  (coordinator.entries.map Prod.fst).mergeSort fun a b => decide (a ≤ b)

/-- Whether a passphrase is held for a resource. -/
def holds (coordinator : Coordinator) (resource : String) : Bool :=
  match coordinator.entryOf? resource with
  | some entry => entry.password.isSome
  | none => false

end Coordinator

end CommitSeal
