import CommitSeal.Packet.SecretKey
import CommitSeal.Proofs.Packet.PublicPart

/-!
# The parts of a secret key body

An unprotected secret key body is put together from a public part, an octet that says that there is
no protection, the secret numbers of the algorithm and a checksum, with no marks between them. All
of these are read back from it (`PublicKey.unprotectedSecretBody_parts`), since each reader stops
where its part ends. A value with more bits than a bit count can say is the one thing that there is
no body for (`PublicKey.unprotectedSecretBody_of_not_isNumber`).
-/

namespace CommitSeal

open Packet (IsNumber numberText readMpis)

theorem Octets.sum_eq (octets : Octets) : sum octets = (octets.map UInt8.toNat).sum := by
  rw [sum, List.sum_eq_foldl, List.foldl_map]

/-! ## Secret numbers -/

variable {secret : List (String × Octets)} {fields : List KeyField} {values : List Octets}

/-- The numbers of a table are written one behind the other. -/
theorem encodeSecretFields_of_values (hvalues : fields.map (secretValue? secret) = values.map some)
    (hnumbers : ∀ value ∈ values, IsNumber value) :
    encodeSecretFields secret fields = .ok (values.flatMap numberText) := by
  induction fields generalizing values with
  | nil =>
    obtain rfl : values = [] := List.map_eq_nil_iff.mp hvalues.symm
    rfl
  | cons field fields ih =>
    cases values with
    | nil => cases hvalues
    | cons value values =>
      obtain ⟨hfield, hrest⟩ := List.cons.inj hvalues
      obtain ⟨hnumber, hothers⟩ := List.forall_mem_cons.mp hnumbers
      simp only [encodeSecretFields, hfield, Option.getD_some,
        Packet.encodeMpi_of_isNumber hnumber, ih hrest hothers, List.flatMap_cons]

/-- If one of the values has too many bits, nothing is written. -/
theorem encodeSecretFields_of_not_isNumber
    (hvalues : fields.map (secretValue? secret) = values.map some) {value : Octets}
    (hmem : value ∈ values) (hvalue : ¬ IsNumber value) :
    encodeSecretFields secret fields = .error .numberTooLong := by
  induction fields generalizing values with
  | nil =>
    obtain rfl : values = [] := List.map_eq_nil_iff.mp hvalues.symm
    cases hmem
  | cons field fields ih =>
    cases values with
    | nil => cases hmem
    | cons first values =>
      obtain ⟨hfield, hrest⟩ := List.cons.inj hvalues
      simp only [encodeSecretFields, hfield, Option.getD_some]
      by_cases hfirst : IsNumber first
      · obtain rfl | hlater := List.mem_cons.mp hmem
        · exact absurd hfirst hvalue
        · simp only [Packet.encodeMpi_of_isNumber hfirst, ih hrest hlater]
      · simp only [Packet.encodeMpi_of_not_isNumber hfirst]

theorem length_numberTexts_le (hnumbers : ∀ value ∈ values, IsNumber value) :
    (values.flatMap numberText).length ≤ values.length * PublicKey.maxFieldLength := by
  induction values with
  | nil => exact Nat.le_refl 0
  | cons value values ih =>
    obtain ⟨hvalue, hothers⟩ := List.forall_mem_cons.mp hnumbers
    have hfirst := Packet.length_numberText_le hvalue
    have hrest := ih hothers
    rw [List.flatMap_cons, List.length_append, List.length_cons, Nat.succ_mul]
    omega

/-- No name is missing from a table that has a value for each field. -/
theorem missingSecretNames_of_values {family : KeyFamily}
    (hvalues : family.secretFields.map (secretValue? secret) = values.map some) :
    missingSecretNames family secret = [] := by
  rw [missingSecretNames, List.map_eq_nil_iff, List.filter_eq_nil_iff]
  intro field hfield
  have hvalue : secretValue? secret field ∈ values.map some :=
    hvalues ▸ List.mem_map_of_mem hfield
  obtain ⟨value, -, hvalue⟩ := List.mem_map.mp hvalue
  simp [← hvalue]

namespace PublicKey

/-- A secret body starts with the public part of its key. -/
theorem exists_secretPart {key : PublicKey} {body : Octets}
    (hbody : key.unprotectedSecretBody secret = .ok body) : ∃ part, body = key.body ++ part := by
  unfold unprotectedSecretBody at hbody
  split at hbody
  · split at hbody
    · cases hbody
    · exact ⟨_, (Except.ok.inj hbody).symm⟩
  · cases hbody

/-- A body is not made if a value has too many bits. -/
theorem unprotectedSecretBody_of_not_isNumber {key : PublicKey}
    (hvalues : key.family.secretFields.map (secretValue? secret) = values.map some) {value : Octets}
    (hmem : value ∈ values) (hvalue : ¬ IsNumber value) :
    key.unprotectedSecretBody secret = .error .numberTooLong := by
  simp only [unprotectedSecretBody, missingSecretNames_of_values hvalues,
    encodeSecretFields_of_not_isNumber hvalues hmem hvalue]

/-- A body is made otherwise, and its length is bounded by that of the public part. -/
theorem exists_unprotectedSecretBody {key : PublicKey}
    (hvalues : key.family.secretFields.map (secretValue? secret) = values.map some)
    (hnumbers : ∀ value ∈ values, IsNumber value) :
    ∃ body, key.unprotectedSecretBody secret = .ok body ∧
      body.length ≤ key.body.length + 3 + values.length * maxFieldLength := by
  refine ⟨key.body ++ 0 :: (values.flatMap numberText
    ++ Octets.ofNat 2 (Octets.sum (values.flatMap numberText))), ?_, ?_⟩
  · simp only [unprotectedSecretBody, missingSecretNames_of_values hvalues,
      encodeSecretFields_of_values hvalues hnumbers]
  · have hlength := length_numberTexts_le hnumbers
    rw [List.length_append, List.length_cons, List.length_append, Octets.length_ofNat]
    omega

/-- A secret body is made for a key that was read and a table with a number for each secret field of
its algorithm. Reading the key from it gives the key again, up to an octet that is zero. Behind that
octet the numbers are read without their leading zeros, in the order of the fields, and then two
octets are left, which are the sum of the octets of the numbers modulo 65536. -/
theorem unprotectedSecretBody_parts {octets tail : Octets} {key : PublicKey}
    (hparse : parse octets = .ok (key, tail))
    (hvalues : key.family.secretFields.map (secretValue? secret) = values.map some)
    (hnumbers : ∀ value ∈ values, IsNumber value) :
    ∃ numbers checksum,
      key.unprotectedSecretBody secret = .ok (key.body ++ 0 :: (numbers ++ checksum)) ∧
      parse (key.body ++ 0 :: (numbers ++ checksum)) = .ok (key, 0 :: (numbers ++ checksum)) ∧
      readMpis key.family.secretFields.length (numbers ++ checksum)
        = .ok (values.map Octets.dropZeros, checksum) ∧
      checksum.length = 2 ∧
      Octets.toNat checksum = (numbers.map UInt8.toNat).sum % 65536 := by
  have hcount : key.family.secretFields.length = values.length := by
    simpa using congrArg List.length hvalues
  refine ⟨values.flatMap numberText, Octets.ofNat 2 (Octets.sum (values.flatMap numberText)), ?_,
    (takes_body hparse).2.1 _, ?_, Octets.length_ofNat _ _, ?_⟩
  · simp only [unprotectedSecretBody, missingSecretNames_of_values hvalues,
      encodeSecretFields_of_values hvalues hnumbers]
  · rw [hcount]
    exact Packet.readMpis_numberTexts hnumbers _
  · rw [Octets.toNat_ofNat, Octets.sum_eq, show 256 ^ 2 = 65536 from rfl]

/-! ## A body with four numbers -/

/-- The public part of a tiny RSA key. -/
def fourNumbersPublic : Octets :=
  [0x04, 0x5B, 0xEB, 0x32, 0x63, 0x01, 0x00, 0x04, 0x0F, 0x00, 0x02, 0x03]

/-- A table with its secret numbers, one of them zero and one with a leading zero, and with a value
for something else. -/
def fourNumbers : List (String × Octets) :=
  [("u", [0x00, 0x00]), ("p", [0x03]), ("curve", [0x2B]), ("q", [0x05]), ("d", [0x00, 0x03])]

/-- The body has the numbers in the order of the algorithm. -/
theorem unprotectedSecretBody_fourNumbers :
    ∃ key, parse fourNumbersPublic = .ok (key, []) ∧
    key.family.secretFields.map (secretValue? fourNumbers)
      = [[0x00, 0x03], [0x03], [0x05], [0x00, 0x00]].map some ∧
    ∃ numbers checksum,
      key.unprotectedSecretBody fourNumbers = .ok (key.body ++ 0 :: (numbers ++ checksum)) ∧
      readMpis 4 (numbers ++ checksum) = .ok ([[0x03], [0x03], [0x05], []], checksum) := by
  obtain ⟨key, hparse, hfamily⟩ :
      ∃ key, parse fourNumbersPublic = .ok (key, []) ∧ key.family = .rsa := ⟨_, rfl, rfl⟩
  have hvalues : key.family.secretFields.map (secretValue? fourNumbers)
      = [[0x00, 0x03], [0x03], [0x05], [0x00, 0x00]].map some := by
    rw [hfamily]
    rfl
  have hnumbers : ∀ value ∈ [[0x00, 0x03], [0x03], [0x05], [0x00, 0x00]], IsNumber value := by
    simp only [List.forall_mem_cons, List.not_mem_nil, false_imp_iff, implies_true, and_true]
    refine ⟨?_, ?_, ?_, ?_⟩ <;> exact Octets.bitLength_le_iff.mp (by decide)
  obtain ⟨numbers, checksum, hbody, -, hread, -⟩ :=
    unprotectedSecretBody_parts hparse hvalues hnumbers
  rw [hfamily] at hread
  exact ⟨key, hparse, hvalues, numbers, checksum, hbody, hread⟩

end PublicKey

end CommitSeal
