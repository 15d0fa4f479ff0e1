import CommitSeal.Text.CodePoint

/-!
# Which texts have a UTF-8 form

Every string has one, the octets of `Octets.ofText` (`Octets.ofPoints?_points`); of the texts with
surrogates none has (`Octets.ofPoints?_eq_none_iff`).
-/

namespace CommitSeal.Octets

/-- The UTF-8 form of characters is that of each, one after the other. -/
theorem ofPoints?_map_char (chars : List Char) :
    ofPoints? (chars.map .char) = some (chars.flatMap String.utf8EncodeChar) := by
  induction chars with
  | nil => rfl
  | cons c chars ih => simp [ofPoints?, ih]

@[simp]
theorem ofPoints?_points (text : String) : ofPoints? (Text.points text) = some (ofText text) :=
  ofPoints?_map_char text.toList

/-- A text lacks a UTF-8 form exactly if there is a surrogate in it. -/
theorem ofPoints?_eq_none_iff {points : List CodePoint} :
    ofPoints? points = none ↔ ∃ index, CodePoint.surrogate index ∈ points := by
  induction points with
  | nil => simp [ofPoints?]
  | cons point points ih =>
    cases point with
    | char c => simp [ofPoints?, ih]
    | surrogate index => simp only [ofPoints?, true_iff]; exact ⟨index, List.mem_cons_self⟩

end CommitSeal.Octets
