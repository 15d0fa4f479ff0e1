import CommitSeal.Proofs.Packet.Number

/-!
# Reading at a position

A reader takes its text from the front of the octets that it is given. Where a packet body is read
from a position instead (`Packet.readAt`), what is in front of the position is passed over, and the
answer is the position behind the text. Numbers that were written one behind the other, with
anything around them, are so read one after the other: without their leading zeros, and up to the
position where the last of them ends (`Packet.readMpisAt_encoded`).
-/

namespace CommitSeal.Packet

/-! ## Positions -/

/-- Reads from a position; the answer is the value, and the position behind what was taken for
it. -/
def readAt {α : Type} (read : Octets → Except PacketError (α × Octets)) (data : Octets)
    (position : Nat) : Except PacketError (α × Nat) :=
  match read (data.drop position) with
  | .error e => .error e
  | .ok (value, rest) => .ok (value, data.length - rest.length)

/-- What a reader takes from the front, it takes from any position. -/
theorem Takes.readAt {α : Type} {read : Octets → Except PacketError (α × Octets)} {text : Octets}
    {value : α} (htakes : Takes read text value) (front behind : Octets) :
    readAt read (front ++ text ++ behind) front.length = .ok (value, (front ++ text).length) := by
  have hdrop : (front ++ text ++ behind).drop front.length = text ++ behind := by
    rw [List.append_assoc, List.drop_left]
  have hposition : (front ++ text ++ behind).length - behind.length = (front ++ text).length := by
    rw [List.length_append, Nat.add_sub_cancel]
  simp only [Packet.readAt, hdrop, htakes behind, hposition]

/-! ## Numbers from a position on -/

/-- Reads as many numbers as are asked for, each from the position behind the one before it. -/
def readMpisAt (data : Octets) : (count position : Nat) → Except PacketError (List Octets × Nat)
  | 0, position => .ok ([], position)
  | count + 1, position =>
    match readAt readMpi data position with
    | .error e => .error e
    | .ok (value, position) =>
      match readMpisAt data count position with
      | .error e => .error e
      | .ok (values, position) => .ok (value :: values, position)

theorem readMpisAt_numberTexts {values : List Octets} (hvalues : ∀ value ∈ values, IsNumber value)
    (front behind : Octets) :
    readMpisAt (front ++ values.flatMap numberText ++ behind) values.length front.length
      = .ok (values.map Octets.dropZeros, (front ++ values.flatMap numberText).length) := by
  -- A number that is read becomes a part of what is in front of the next one.
  induction values generalizing front with
  | nil => simp only [List.length_nil, readMpisAt, List.map_nil, List.flatMap_nil, List.append_nil]
  | cons value values ih =>
    obtain ⟨hvalue, hothers⟩ := List.forall_mem_cons.mp hvalues
    have hfirst := (takes_numberText hvalue).readAt front (values.flatMap numberText ++ behind)
    have hlater := ih hothers (front ++ numberText value)
    simp only [List.append_assoc] at hfirst hlater ⊢
    simp only [List.flatMap_cons, List.append_assoc, List.length_cons, readMpisAt, hfirst, hlater,
      List.map_cons]

theorem mapM_encodeMpi {values : List Octets} (hvalues : ∀ value ∈ values, IsNumber value) :
    values.mapM encodeMpi = .ok (values.map numberText) := by
  induction values with
  | nil => rfl
  | cons value values ih =>
    obtain ⟨hvalue, hothers⟩ := List.forall_mem_cons.mp hvalues
    rw [List.mapM_cons, encodeMpi_of_isNumber hvalue, ih hothers]
    rfl

/-- Values of at most 65535 bits each, leading zeros not counted, are all written. Whatever is put
in front of what is written and behind it, the values are read from there without their leading
zeros, and reading ends where what is behind them starts. -/
theorem readMpisAt_encoded {values : List Octets}
    (hvalues : ∀ value ∈ values,
      Octets.bitLength (Octets.toNat (Octets.dropZeros value)) ≤ maxNumberBits)
    (front behind : Octets) :
    ∃ texts, values.mapM encodeMpi = .ok texts ∧
      readMpisAt (front ++ texts.flatten ++ behind) values.length front.length
        = .ok (values.map Octets.dropZeros, (front ++ texts.flatten).length) := by
  have hnumbers : ∀ value ∈ values, IsNumber value := by
    intro value hmem
    have hbits := hvalues value hmem
    rw [Octets.toNat_dropZeros] at hbits
    exact Octets.bitLength_le_iff.mp hbits
  refine ⟨values.map numberText, mapM_encodeMpi hnumbers, ?_⟩
  rw [← List.flatMap_def]
  exact readMpisAt_numberTexts hnumbers front behind

/-- Two zeros, nothing, and a number of nine bits behind a zero, in the midst of other octets. -/
theorem readMpisAt_encoded_zeros :
    (∀ value ∈ [[0, 0], [], [0, 1, 0xFF]],
      Octets.bitLength (Octets.toNat (Octets.dropZeros value)) ≤ maxNumberBits) ∧
    ∃ texts, [[0, 0], [], [0, 1, 0xFF]].mapM encodeMpi = .ok texts ∧
      readMpisAt ([4, 2] ++ texts.flatten ++ [0, 7]) 3 2
        = .ok ([[], [], [1, 0xFF]], ([4, 2] ++ texts.flatten).length) := by
  have hbits : ∀ value ∈ [[0, 0], [], [0, 1, 0xFF]],
      Octets.bitLength (Octets.toNat (Octets.dropZeros value)) ≤ maxNumberBits := by decide
  exact ⟨hbits, readMpisAt_encoded hbits [4, 2] [0, 7]⟩

end CommitSeal.Packet
