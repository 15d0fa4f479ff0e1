import CommitSeal.Octets.Basic

/-!
# Octets as text
-/

namespace CommitSeal.Octets

/-- The text that octets encode in UTF-8, if they do. -/
def text? (octets : Octets) : Option String :=
  String.fromUTF8? ⟨octets.toArray⟩

end CommitSeal.Octets
