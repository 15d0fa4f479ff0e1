import CommitSeal.Packet.PublicKey
import CommitSeal.Proofs.Packet.Number

/-!
# The public part of a key

A key packet starts with its public part, and the reader of keys stops where that part ends. What is
written for a key (`PublicKey.Draft.text`) is read to that key in front of any octets, and whatever
is read to a key has the body of the key in front, with anything behind it
(`PublicKey.parse_publicPart`). The secret part of a packet is therefore of no account for the
fingerprint.

The fingerprint is taken over the public part with its length in two octets in front, so it is
another thing to rely on that a public part is never too long for them
(`PublicKey.length_body_lt`).
-/

namespace CommitSeal

/-! ## Fields -/

namespace KeyField

/-- A field has room for a value: for 1 to 254 octets if they stand behind their length, and else
for a number. -/
def Holds (field : KeyField) (value : Octets) : Prop :=
  if field.isPrefixed then 1 ≤ value.length ∧ value.length ≤ 254 else Packet.IsNumber value

/-- A value as it is written for a field. -/
def text (field : KeyField) (value : Octets) : Octets :=
  if field.isPrefixed then Packet.prefixedText value else Packet.numberText value

/-- What a field says of a value: of a number its octets without leading zeros. -/
def reading (field : KeyField) (value : Octets) : Octets :=
  if field.isPrefixed then value else Octets.dropZeros value

end KeyField

namespace PublicKey

open Packet (Takes)

theorem takes_text {field : KeyField} {value : Octets} (hvalue : field.Holds value) :
    Takes (readField field) (field.text value) (field.reading value) := by
  intro rest
  unfold KeyField.Holds at hvalue
  unfold readField KeyField.text KeyField.reading
  by_cases hprefixed : field.isPrefixed
  · rw [if_pos hprefixed] at hvalue
    simp only [if_pos hprefixed]
    exact Packet.takes_prefixedText hvalue.1 hvalue.2 rest
  · rw [if_neg hprefixed] at hvalue
    simp only [if_neg hprefixed]
    exact Packet.takes_numberText hvalue rest

theorem exists_takes_of_readField {field : KeyField} {octets value rest : Octets}
    (hread : readField field octets = .ok (value, rest)) :
    ∃ text, octets = text ++ rest ∧ text.length ≤ maxFieldLength ∧
      Takes (readField field) text value := by
  unfold Takes readField at *
  by_cases hprefixed : field.isPrefixed
  · simp only [if_pos hprefixed] at hread ⊢
    exact Packet.exists_takes_of_readPrefixed hread
  · simp only [if_neg hprefixed] at hread ⊢
    exact Packet.exists_takes_of_readMpi hread

/-- A field is taken, and then the others. -/
theorem takes_cons {field : KeyField} {more : List KeyField} {first text value : Octets}
    {values : List (KeyField × Octets)} (hfirst : Takes (readField field) first value)
    (hmore : Takes (readFields more) text values) :
    Takes (readFields (field :: more)) (first ++ text) ((field, value) :: values) := by
  intro rest
  rw [List.append_assoc]
  simp only [readFields, hfirst _, hmore _]

/-- Fields written one behind the other are read one after the other. -/
theorem takes_texts {values : List (KeyField × Octets)}
    (hvalues : ∀ entry ∈ values, entry.1.Holds entry.2) :
    Takes (readFields (values.map Prod.fst)) (values.flatMap fun entry => entry.1.text entry.2)
      (values.map fun entry => (entry.1, entry.1.reading entry.2)) := by
  induction values with
  | nil => exact fun rest => rfl
  | cons entry values ih =>
    obtain ⟨hentry, hothers⟩ := List.forall_mem_cons.mp hvalues
    rw [List.map_cons, List.map_cons, List.flatMap_cons]
    exact takes_cons (takes_text hentry) (ih hothers)

theorem exists_takes_of_readFields {fields : List KeyField} {octets rest : Octets}
    {values : List (KeyField × Octets)} (hread : readFields fields octets = .ok (values, rest)) :
    ∃ text, octets = text ++ rest ∧ text.length ≤ fields.length * maxFieldLength ∧
      Takes (readFields fields) text values := by
  induction fields generalizing octets values with
  | nil =>
    obtain ⟨rfl, rfl⟩ := Prod.mk.inj (Except.ok.inj hread)
    exact ⟨[], rfl, Nat.zero_le _, fun other => rfl⟩
  | cons field more ih =>
    unfold readFields at hread
    split at hread
    · cases hread
    · rename_i value behind hfield
      split at hread
      · cases hread
      · rename_i others rest' hmore
        obtain ⟨rfl, rfl⟩ := Prod.mk.inj (Except.ok.inj hread)
        obtain ⟨first, rfl, hfirst, htakes⟩ := exists_takes_of_readField hfield
        obtain ⟨text, rfl, htext, hothers⟩ := ih hmore
        refine ⟨first ++ text, by rw [List.append_assoc], ?_, takes_cons htakes hothers⟩
        rw [List.length_append, List.length_cons, Nat.succ_mul]
        omega

/-- The fields that are read are those that are asked for, in their order. -/
theorem fields_of_readFields {fields : List KeyField} {octets rest : Octets}
    {values : List (KeyField × Octets)} (hread : readFields fields octets = .ok (values, rest)) :
    values.map Prod.fst = fields := by
  induction fields generalizing octets values with
  | nil =>
    obtain ⟨rfl, -⟩ := Prod.mk.inj (Except.ok.inj hread)
    rfl
  | cons field more ih =>
    unfold readFields at hread
    split at hread
    · cases hread
    · split at hread
      · cases hread
      · rename_i hmore
        obtain ⟨rfl, rfl⟩ := Prod.mk.inj (Except.ok.inj hread)
        rw [List.map_cons, ih hmore]

/-! ## Keys -/

/-- The octets of a public part, of which `fields` are those of the fields. -/
def publicText (created : Octets) (algorithm : UInt8) (fields : Octets) : Octets :=
  4 :: (created ++ algorithm :: fields)

/-- A public part is taken if its fields are. -/
theorem takes_publicText {created : Octets} (hcreated : created.length = 4) {algorithm : UInt8}
    {family : KeyFamily} (hfamily : KeyFamily.ofAlgorithm? algorithm = some family)
    {text : Octets} {fields : List (KeyField × Octets)}
    (htext : Takes (readFields family.publicFields) text fields) :
    Takes parse (publicText created algorithm text)
      { created := Octets.toNat created, algorithm, family, fields
        body := publicText created algorithm text } := by
  obtain ⟨t1, t2, t3, t4, rfl⟩ : ∃ t1 t2 t3 t4, created = [t1, t2, t3, t4] := by
    match created, hcreated with
    | [t1, t2, t3, t4], _ => exact ⟨t1, t2, t3, t4, rfl⟩
  intro rest
  have hbody : (publicText [t1, t2, t3, t4] algorithm text ++ rest).take
      ((publicText [t1, t2, t3, t4] algorithm text ++ rest).length - rest.length)
        = publicText [t1, t2, t3, t4] algorithm text := by
    rw [List.length_append, Nat.add_sub_cancel, List.take_left]
  simp only [publicText, List.cons_append, List.nil_append] at hbody ⊢
  simp only [parse, ne_eq, not_true_eq_false, if_false, hfamily, htext rest, hbody]

theorem length_publicFields_le (family : KeyFamily) : family.publicFields.length ≤ 4 := by
  cases family <;> decide

/-- What is read to a key starts with the body of the key, which is taken from the front and not too
long. -/
theorem takes_body {octets rest : Octets} {key : PublicKey}
    (hparse : parse octets = .ok (key, rest)) :
    octets = key.body ++ rest ∧ Takes parse key.body key ∧ key.body.length < 65536 := by
  have hread := hparse
  unfold parse at hread
  split at hread
  · rename_i version t1 t2 t3 t4 algorithm behind
    split at hread
    · cases hread
    · rename_i hversion
      split at hread
      · cases hread
      · rename_i family hfamily
        split at hread
        · cases hread
        · rename_i fields secret hfields
          obtain ⟨-, rfl⟩ := Prod.mk.inj (Except.ok.inj hread)
          obtain ⟨text, rfl, hlength, htext⟩ := exists_takes_of_readFields hfields
          obtain rfl : version = 4 := Decidable.not_not.mp hversion
          have hcreated : [t1, t2, t3, t4].length = 4 := rfl
          have htakes := takes_publicText hcreated hfamily htext
          obtain ⟨rfl, -⟩ := Prod.mk.inj (Except.ok.inj (hparse.symm.trans (htakes secret)))
          refine ⟨rfl, htakes, ?_⟩
          -- Six octets and four fields at most, which is about half of what fits.
          have hcount := Nat.mul_le_mul_right maxFieldLength (length_publicFields_le family)
          simp only [publicText, List.length_cons, List.length_append, List.length_nil]
          simp only [maxFieldLength] at hlength hcount
          omega
  · cases hread

/-- A key that is read has the public fields of its family. -/
theorem fields_of_parse {octets rest : Octets} {key : PublicKey}
    (hparse : parse octets = .ok (key, rest)) :
    key.fields.map Prod.fst = key.family.publicFields := by
  unfold parse at hparse
  split at hparse
  · split at hparse
    · cases hparse
    · split at hparse
      · cases hparse
      · split at hparse
        · cases hparse
        · rename_i hfields
          obtain ⟨rfl, -⟩ := Prod.mk.inj (Except.ok.inj hparse)
          exact fields_of_readFields hfields
  · cases hparse

/-- Of a key that is read, the octets of a field are those that stand with it. -/
theorem field?_eq_some_iff {octets rest : Octets} {key : PublicKey}
    (hparse : parse octets = .ok (key, rest)) {field : KeyField} {value : Octets} :
    key.field? field = some value ↔ (field, value) ∈ key.fields := by
  have hdistinct : (key.fields.map Prod.fst).Nodup := by
    rw [fields_of_parse hparse]
    cases key.family <;> decide
  rw [field?, List.lookup_eq_some_iff]
  constructor
  · rintro ⟨front, behind, hsplit, -⟩
    rw [hsplit]
    exact List.mem_append_right _ List.mem_cons_self
  · intro hmem
    obtain ⟨front, behind, hsplit⟩ := List.append_of_mem hmem
    refine ⟨front, behind, hsplit, fun known hknown => ?_⟩
    rw [hsplit, List.map_append, List.nodup_append] at hdistinct
    have hother := hdistinct.2.2 known.1 (List.mem_map_of_mem hknown) field
      (List.mem_map.mpr ⟨_, List.mem_cons_self, rfl⟩)
    simpa using Ne.symm hother

theorem length_body_lt {octets rest : Octets} {key : PublicKey}
    (hparse : parse octets = .ok (key, rest)) : key.body.length < 65536 :=
  (takes_body hparse).2.2

/-- The keys of a certificate start with that of its first packet. -/
theorem listing_of_items {certificate : Octets} {first : Packet} {packets : List Packet}
    (hframe : (Packet.frame certificate).items = first :: packets)
    (htag : Packet.isKeyTag first.tag = true) {key : PublicKey} {rest : Octets}
    (hparse : parse first.body = .ok (key, rest)) :
    ∃ others, listing certificate = .cons key others := by
  unfold listing Listing.filterMapM
  rw [hframe, Listing.collect, if_pos htag]
  simp only [hparse]
  exact ⟨_, rfl⟩

/-! ## Keys as they are written -/

/-- A key to be written: a value for each of its fields. -/
structure Draft where
  created : Nat
  algorithm : UInt8
  family : KeyFamily
  values : List (KeyField × Octets)

namespace Draft

/-- A draft is sound if its algorithm is handled and each field of the algorithm, in the order of
the packet, has room for its value. -/
structure Sound (draft : Draft) : Prop where
  created : draft.created < 2 ^ 32
  family : KeyFamily.ofAlgorithm? draft.algorithm = some draft.family
  fields : draft.values.map Prod.fst = draft.family.publicFields
  values : ∀ entry ∈ draft.values, entry.1.Holds entry.2

/-- The octets of the public part. -/
def text (draft : Draft) : Octets :=
  publicText (Octets.ofNat 4 draft.created) draft.algorithm
    (draft.values.flatMap fun entry => entry.1.text entry.2)

/-- The key that is written. -/
def key (draft : Draft) : PublicKey where
  created := draft.created
  algorithm := draft.algorithm
  family := draft.family
  fields := draft.values.map fun entry => (entry.1, entry.1.reading entry.2)
  body := draft.text

end Draft

theorem takes_draft {draft : Draft} (hsound : draft.Sound) : Takes parse draft.text draft.key := by
  have htexts := takes_texts hsound.values
  rw [hsound.fields] at htexts
  have htakes := takes_publicText (Octets.length_ofNat 4 draft.created) hsound.family htexts
  rwa [Octets.toNat_ofNat_of_lt (show draft.created < 256 ^ 4 from hsound.created)] at htakes

/-- What is written for a key is read to that key, and what is behind it is left. Conversely,
whatever is read to a key is the body of the key and what is left, and with anything else behind the
body the same key is read. The length of the body fits into the two octets that the fingerprint has
for it. So the body alone, as a public packet has it, is read to a key with the same fingerprint and
identifier as that of a packet with a secret part. -/
theorem parse_publicPart :
    (∀ draft : Draft, draft.Sound → ∀ tail, parse (draft.text ++ tail) = .ok (draft.key, tail)) ∧
    ∀ octets key tail, parse octets = .ok (key, tail) →
      octets = key.body ++ tail ∧
      (∀ other, parse (key.body ++ other) = .ok (key, other)) ∧
      (key.body.length < 65536 ∧
        Octets.toNat (Octets.ofNat 2 key.body.length) = key.body.length) ∧
      ∃ counterpart, parse key.body = .ok (counterpart, []) ∧
        counterpart.fingerprint = key.fingerprint ∧ counterpart.keyId = key.keyId := by
  refine ⟨fun draft hsound => takes_draft hsound, ?_⟩
  intro octets key tail hparse
  obtain ⟨hsplit, htakes, hlength⟩ := takes_body hparse
  refine ⟨hsplit, htakes, ⟨hlength, ?_⟩, key, ?_, rfl, rfl⟩
  · exact Octets.toNat_ofNat_of_lt hlength
  · have halone := htakes []
    rwa [List.append_nil] at halone

/-! ## A key with fields of both kinds -/

/-- A key with two prefixed fields and a number that has a leading zero. -/
def curveDraft : Draft where
  created := 0x5BEB3263
  algorithm := 18
  family := .ecdh
  values := [(.oid, [0x2B, 0x06]), (.q, [0x00, 0x40, 0x01]), (.kdf, [0x03, 0x01, 0x08, 0x07])]

/-- It is read without the leading zero, and an octet behind it is left. -/
theorem parse_publicPart_curve :
    curveDraft.Sound ∧
    parse [0x04, 0x5B, 0xEB, 0x32, 0x63, 0x12, 0x02, 0x2B, 0x06, 0x00, 0x0F, 0x40, 0x01, 0x04, 0x03,
        0x01, 0x08, 0x07, 0x00]
      = .ok ({ curveDraft.key with
          fields := [(.oid, [0x2B, 0x06]), (.q, [0x40, 0x01]), (.kdf, [0x03, 0x01, 0x08, 0x07])] },
        [0x00]) ∧
    ∃ counterpart, parse curveDraft.text = .ok (counterpart, []) ∧
      counterpart.fingerprint = curveDraft.key.fingerprint := by
  have hsound : curveDraft.Sound := by
    refine ⟨by decide, rfl, rfl, ?_⟩
    simp only [curveDraft, List.forall_mem_cons, List.not_mem_nil, false_imp_iff, implies_true,
      and_true]
    exact ⟨⟨by decide, by decide⟩, Octets.bitLength_le_iff.mp (by decide), by decide, by decide⟩
  have hread := parse_publicPart.1 curveDraft hsound [0x00]
  obtain ⟨-, -, -, counterpart, halone, hfingerprint, -⟩ := parse_publicPart.2 _ _ _ hread
  exact ⟨hsound, hread, counterpart, halone, hfingerprint⟩

end PublicKey

end CommitSeal
