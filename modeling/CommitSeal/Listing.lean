/-!
# Listings that may break off

Containers are read front to back, and what comes before a defect is good. A `Listing` is such a
reading: the items found, and the failure that ended it, if one did. A consumer that stops early
never meets the failure, which is what `Listing.find?` and `Listing.head?` say.
-/

namespace CommitSeal

/-- Items in order, and the failure that ended them, if one did. -/
structure Listing (ε α : Type) where
  /-- What was found, in order. -/
  items : List α
  /-- Why there is no more, unless the end was reached. -/
  failure : Option ε

namespace Listing

variable {ε δ α β : Type}

/-- The end, reached. -/
def done : Listing ε α := ⟨[], none⟩

/-- A failure where the next item was to be. -/
def fail (failure : ε) : Listing ε α := ⟨[], some failure⟩

/-- One item in front of the others. -/
def cons (item : α) (listing : Listing ε α) : Listing ε α :=
  ⟨item :: listing.items, listing.failure⟩

/-- Nothing but the given items. -/
def ofList (items : List α) : Listing ε α := ⟨items, none⟩

/-- Replaces each item, and drops those without a replacement; a failing replacement ends the
listing. -/
def collect (f : α → Except ε (Option β)) (items : List α) (failure : Option ε) : Listing ε β :=
  match items with
  | [] => ⟨[], failure⟩
  | item :: rest =>
    match f item with
    | .error e => fail e
    | .ok none => collect f rest failure
    | .ok (some value) => cons value (collect f rest failure)

/-- The listing of the replacements of the items. -/
def filterMapM (f : α → Except ε (Option β)) (listing : Listing ε α) : Listing ε β :=
  collect f listing.items listing.failure

/-- Restates the failure. -/
def mapFailure (f : ε → δ) (listing : Listing ε α) : Listing δ α :=
  ⟨listing.items, listing.failure.map f⟩

/-- Two listings, the second read only when the first reached its end. -/
def append (first second : Listing ε α) : Listing ε α :=
  match first.failure with
  | some _ => first
  | none => ⟨first.items ++ second.items, second.failure⟩

/-- The first item that satisfies a test. A failure counts only if no item before it does. -/
def find? (test : α → Bool) (listing : Listing ε α) : Except ε (Option α) :=
  match listing.items.find? test with
  | some item => .ok (some item)
  | none =>
    match listing.failure with
    | some e => .error e
    | none => .ok none

/-- The first item. -/
def head? (listing : Listing ε α) : Except ε (Option α) :=
  listing.find? fun _ => true

/-- All items, if the end was reached. -/
def all (listing : Listing ε α) : Except ε (List α) :=
  match listing.failure with
  | some e => .error e
  | none => .ok listing.items

end Listing

end CommitSeal
