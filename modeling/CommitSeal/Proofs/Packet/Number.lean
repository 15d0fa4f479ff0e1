import CommitSeal.Packet.Number
import CommitSeal.Proofs.Octets.BigEndian

/-!
# Numbers and fields, written and read

A number is written behind its bit count, without leading zeros (`Packet.numberText`), and a field
behind its length (`Packet.prefixedText`). A reader takes what was written from the front of the
octets, whatever is behind it (`Packet.takes_numberText`, `Packet.takes_prefixedText`), and numbers
that stand one behind the other are read one after the other (`Packet.readMpis_numberTexts`).

Whatever else a reader accepts is taken from the front in the same way, so that what is behind it is
of no account (`Packet.exists_takes_of_readMpi`, `Packet.exists_takes_of_readPrefixed`).
-/

namespace CommitSeal

/-- The octets that a field takes at most: a number of 65535 bits is longer than any prefixed
field. -/
def PublicKey.maxFieldLength : Nat := 2 + 8192

namespace Packet

/-- A reader takes a text from the front of any octets: it gives the value, and leaves what is
behind the text. -/
def Takes {α : Type} (read : Octets → Except PacketError (α × Octets)) (text : Octets)
    (value : α) : Prop :=
  ∀ rest, read (text ++ rest) = .ok (value, rest)

/-! ## Numbers -/

/-- The most bits that a bit count of two octets can say. -/
def maxNumberBits : Nat := 65535

/-- Octets that can be written as a number. Leading zeros do not count. -/
def IsNumber (value : Octets) : Prop := Octets.toNat value < 2 ^ maxNumberBits

/-- A number as it is written: its bit count in two octets, and its octets without leading zeros. -/
def numberText (value : Octets) : Octets :=
  Octets.ofNat 2 (Octets.bitLength (Octets.toNat value)) ++ Octets.dropZeros value

theorem IsNumber.bitLength_lt {value : Octets} (hvalue : IsNumber value) :
    Octets.bitLength (Octets.toNat value) < 65536 := by
  have hbits : Octets.bitLength (Octets.toNat value) ≤ maxNumberBits :=
    Octets.bitLength_le_iff.mpr hvalue
  exact Nat.lt_succ_of_le hbits

theorem encodeMpi_of_isNumber {value : Octets} (hvalue : IsNumber value) :
    encodeMpi value = .ok (numberText value) := by
  simp only [encodeMpi, Octets.toNat_dropZeros, if_pos hvalue.bitLength_lt]
  rfl

/-- What has too many bits is not written. -/
theorem encodeMpi_of_not_isNumber {value : Octets} (hvalue : ¬ IsNumber value) :
    encodeMpi value = .error .numberTooLong := by
  have hbits : ¬ Octets.bitLength (Octets.toNat value) < 65536 := fun hlt =>
    hvalue (Octets.bitLength_le_iff.mp (Nat.le_of_lt_succ hlt))
  simp only [encodeMpi, Octets.toNat_dropZeros, if_neg hbits]

theorem length_numberText_le {value : Octets} (hvalue : IsNumber value) :
    (numberText value).length ≤ PublicKey.maxFieldLength := by
  have hbits := hvalue.bitLength_lt
  rw [numberText, List.length_append, Octets.length_ofNat, Octets.length_dropZeros,
    PublicKey.maxFieldLength]
  omega

/-- A reader of numbers takes as many octets as the bit count says. -/
theorem takes_of_length {high low : UInt8} {value : Octets}
    (hlength : value.length = (256 * high.toNat + low.toNat + 7) / 8) :
    Takes readMpi (high :: low :: value) value := by
  intro rest
  have htake : (value ++ rest).take ((256 * high.toNat + low.toNat + 7) / 8) = value :=
    List.take_left' hlength
  have hdrop : (value ++ rest).drop ((256 * high.toNat + low.toNat + 7) / 8) = rest :=
    List.drop_left' hlength
  simp only [List.cons_append, readMpi, htake, hdrop, if_pos hlength]

/-- What is written for a number is read back without its leading zeros. -/
theorem takes_numberText {value : Octets} (hvalue : IsNumber value) :
    Takes readMpi (numberText value) (Octets.dropZeros value) := by
  obtain ⟨high, low, hcount⟩ : ∃ high low,
      Octets.ofNat 2 (Octets.bitLength (Octets.toNat value)) = [high, low] := ⟨_, _, rfl⟩
  have hbits : 256 * high.toNat + low.toNat = Octets.bitLength (Octets.toNat value) := by
    have hread : Octets.toNat (Octets.ofNat 2 (Octets.bitLength (Octets.toNat value)))
        = Octets.bitLength (Octets.toNat value) := Octets.toNat_ofNat_of_lt hvalue.bitLength_lt
    rw [hcount] at hread
    simpa [Octets.toNat] using hread
  rw [numberText, hcount]
  show Takes readMpi (high :: low :: Octets.dropZeros value) (Octets.dropZeros value)
  apply takes_of_length
  rw [hbits, Octets.length_dropZeros]

theorem exists_takes_of_readMpi {octets value rest : Octets}
    (hread : readMpi octets = .ok (value, rest)) :
    ∃ text, octets = text ++ rest ∧ text.length ≤ PublicKey.maxFieldLength ∧
      Takes readMpi text value := by
  unfold readMpi at hread
  split at hread
  · rename_i high low behind
    simp only at hread
    split at hread
    · rename_i htaken
      obtain ⟨rfl, rfl⟩ := Prod.mk.inj (Except.ok.inj hread)
      refine ⟨high :: low :: behind.take ((256 * high.toNat + low.toNat + 7) / 8), ?_, ?_,
        takes_of_length htaken⟩
      · rw [List.cons_append, List.cons_append, List.take_append_drop]
      · have hhigh := high.toNat_lt
        have hlow := low.toNat_lt
        rw [List.length_cons, List.length_cons, htaken, PublicKey.maxFieldLength]
        omega
    · cases hread
  · cases hread

/-! ## Numbers one behind the other -/

/-- Reads as many numbers as are asked for; the answer is their octets as written, and what
follows. -/
def readMpis : Nat → Octets → Except PacketError (List Octets × Octets)
  | 0, rest => .ok ([], rest)
  | count + 1, rest =>
    match readMpi rest with
    | .error e => .error e
    | .ok (value, rest) =>
      match readMpis count rest with
      | .error e => .error e
      | .ok (values, rest) => .ok (value :: values, rest)

theorem readMpis_numberTexts {values : List Octets} (hvalues : ∀ value ∈ values, IsNumber value) :
    Takes (readMpis values.length) (values.flatMap numberText) (values.map Octets.dropZeros) := by
  intro rest
  induction values with
  | nil => rfl
  | cons value values ih =>
    obtain ⟨hvalue, hothers⟩ := List.forall_mem_cons.mp hvalues
    simp only [List.flatMap_cons, List.append_assoc, List.length_cons, readMpis,
      takes_numberText hvalue _, ih hothers, List.map_cons]

/-! ## Prefixed fields -/

/-- A field as it is written behind its length. -/
def prefixedText (value : Octets) : Octets := UInt8.ofNat value.length :: value

/-- A reader of fields takes as many octets as the length says, if it is none of the reserved
lengths. -/
theorem takes_of_size {size : UInt8} (hsize : ¬ (size = 0 ∨ size = 0xFF)) {value : Octets}
    (hlength : value.length = size.toNat) : Takes readPrefixed (size :: value) value := by
  intro rest
  have htake : (value ++ rest).take size.toNat = value := List.take_left' hlength
  have hdrop : (value ++ rest).drop size.toNat = rest := List.drop_left' hlength
  simp only [List.cons_append, readPrefixed, if_neg hsize, htake, hdrop, if_pos hlength]

theorem takes_prefixedText {value : Octets} (hmin : 1 ≤ value.length) (hmax : value.length ≤ 254) :
    Takes readPrefixed (prefixedText value) value := by
  have hvalue : (UInt8.ofNat value.length).toNat = value.length := by
    rw [UInt8.toNat_ofNat']
    omega
  apply takes_of_size _ hvalue.symm
  rintro (hsize | hsize)
  · have hzero : value.length = 0 := by rw [← hvalue, hsize]; rfl
    omega
  · have hlast : value.length = 255 := by rw [← hvalue, hsize]; rfl
    omega

theorem exists_takes_of_readPrefixed {octets value rest : Octets}
    (hread : readPrefixed octets = .ok (value, rest)) :
    ∃ text, octets = text ++ rest ∧ text.length ≤ PublicKey.maxFieldLength ∧
      Takes readPrefixed text value := by
  unfold readPrefixed at hread
  split at hread
  · cases hread
  · rename_i size behind
    split at hread
    · cases hread
    · rename_i hsize
      simp only at hread
      split at hread
      · rename_i htaken
        obtain ⟨rfl, rfl⟩ := Prod.mk.inj (Except.ok.inj hread)
        refine ⟨size :: behind.take size.toNat, ?_, ?_, takes_of_size hsize htaken⟩
        · rw [List.cons_append, List.take_append_drop]
        · have hlimit := size.toNat_lt
          rw [List.length_cons, htaken, PublicKey.maxFieldLength]
          omega
      · cases hread

end Packet

end CommitSeal
