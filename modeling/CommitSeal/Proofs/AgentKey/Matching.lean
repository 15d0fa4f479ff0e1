import CommitSeal.Proofs.AgentKey.Parameters
import CommitSeal.Proofs.Packet.PublicPart
import Mathlib.Logic.Relation

/-!
# Matching stored keys to public keys

A stored key fits a public key if it is of the same family and states the numbers of the public key
(`AgentKey.fits_iff_stated`): the first entry of each has the same value. What a key states of a
number is read off its elements (`AgentKey.stated?`), and many changes to the elements leave it as
it is (`AgentKey.Change`): values are padded, elements that are no entries of a number come and go,
and elements that are not entries of one number change places. However many such changes are made,
and whatever the kind of the key becomes, it fits the same public keys
(`AgentKey.fits_eq_of_changes`).
-/

namespace CommitSeal

/-- The public fields of a family that are numbers. -/
def KeyFamily.numbers (family : KeyFamily) : List KeyField :=
  family.publicFields.filter fun field => !field.isPrefixed

namespace PublicKey

/-- The numbers of a key that is read are the fields of it that are numbers, with their values. -/
theorem mem_numbers_iff {octets rest : Octets} {key : PublicKey}
    (hparse : parse octets = .ok (key, rest)) {field : KeyField} :
    field ∈ key.family.numbers ↔
      field.isPrefixed = false ∧ ∃ value, (field, value) ∈ key.fields := by
  rw [KeyFamily.numbers, List.mem_filter, ← fields_of_parse hparse, List.mem_map]
  constructor
  · rintro ⟨⟨⟨known, value⟩, hmem, rfl⟩, hnumber⟩
    exact ⟨by simpa using hnumber, value, hmem⟩
  · rintro ⟨hnumber, value, hmem⟩
    exact ⟨⟨_, hmem, rfl⟩, by simpa using hnumber⟩

theorem number_of_mem {octets rest : Octets} {key : PublicKey}
    (hparse : parse octets = .ok (key, rest)) {field : KeyField} {value : Octets}
    (hmem : (field, value) ∈ key.fields) : key.number field = Octets.toNat value := by
  rw [number, (field?_eq_some_iff hparse).mpr hmem, Option.getD_some]

end PublicKey

namespace AgentKey

open SExpr (atom list)

/-! ## What a key states -/

/-- The number that elements state for a field: the value of its first entry. -/
def stated? (elements : List SExpr) (field : KeyField) : Option Nat :=
  ((elements.filterMap parameter?).lookup field.name).map Octets.toNat

theorem stated?_eq_some_iff {elements : List SExpr} {field : KeyField} {number : Nat} :
    stated? elements field = some number ↔
      ∃ stored, FirstEntry elements field stored ∧ Octets.toNat stored = number := by
  rw [stated?, Option.map_eq_some_iff]
  simp only [lookup_parameters]

/-- Another number is stated for a field, or none at all. -/
theorem stated?_ne_some_iff {elements : List SExpr} {field : KeyField} {number : Nat} :
    stated? elements field ≠ some number ↔
      (∀ stored, entry field stored ∉ elements) ∨
        ∃ stored, FirstEntry elements field stored ∧ Octets.toNat stored ≠ number := by
  rw [ne_eq, stated?_eq_some_iff]
  constructor
  · intro hnot
    by_cases hthere : ∃ stored, entry field stored ∈ elements
    · obtain ⟨stored, hmem⟩ := hthere
      obtain ⟨first, hfirst⟩ := exists_firstEntry hmem
      exact .inr ⟨first, hfirst, fun hnumber => hnot ⟨first, hfirst, hnumber⟩⟩
    · exact .inl fun stored hmem => hthere ⟨stored, hmem⟩
  · rintro (hnone | ⟨first, hfirst, hother⟩) ⟨stored, hstored, hnumber⟩
    · exact hnone stored hstored.mem
    · rw [hfirst.unique hstored] at hother
      exact hother hnumber

/-- Of a public field it is compared what is stated, unless it is no number. -/
theorem fieldMatches_iff {key : AgentKey} {field : KeyField} {value : Octets} :
    fieldMatches key.parameters (field, value) = true ↔
      (field.isPrefixed = false → stated? key.elements field = some (Octets.toNat value)) := by
  have hclear : key.parameters.lookup field.name
      = (key.elements.filterMap parameter?).lookup field.name := by
    rw [parameters, lookup_foldl_addFirst, List.nil_append]
  unfold fieldMatches stated?
  rw [hclear]
  cases field.isPrefixed with
  | true => simp
  | false =>
    cases (key.elements.filterMap parameter?).lookup field.name <;> simp

/-- A key fits a public key that was read if it is of the family and states the numbers. -/
theorem fits_iff_stated {octets rest : Octets} {publicKey : PublicKey}
    (hparse : PublicKey.parse octets = .ok (publicKey, rest)) (key : AgentKey) :
    key.fits publicKey = true ↔
      key.family? = some (Family.ofKeyFamily publicKey.family) ∧
        ∀ field ∈ publicKey.family.numbers,
          stated? key.elements field = some (publicKey.number field) := by
  unfold fits
  rw [Bool.and_eq_true, beq_iff_eq, List.all_eq_true]
  refine and_congr_right fun _ => ⟨fun hall field hfield => ?_, fun hall known hknown => ?_⟩
  · obtain ⟨hnumber, value, hmem⟩ := (PublicKey.mem_numbers_iff hparse).mp hfield
    rw [PublicKey.number_of_mem hparse hmem]
    exact fieldMatches_iff.mp (hall _ hmem) hnumber
  · obtain ⟨field, value⟩ := known
    refine fieldMatches_iff.mpr fun hnumber => ?_
    rw [← PublicKey.number_of_mem hparse hknown]
    exact hall field ((PublicKey.mem_numbers_iff hparse).mpr ⟨hnumber, value, hknown⟩)

/-! ## Changes that are not seen -/

/-- An element is no entry of a field. -/
def Foreign (field : KeyField) (element : SExpr) : Prop := ∀ value, element ≠ entry field value

theorem foreign_of_ne {field known : KeyField} (hname : field.name ≠ known.name) (value : Octets) :
    Foreign field (entry known value) :=
  fun _ hentry => hname (entry_inj hentry).1.symm

/-- A protection is no entry. -/
theorem foreign_of_isProtection {element : SExpr} (hprotection : isProtection element = true)
    (field : KeyField) : Foreign field element := by
  rintro value rfl
  revert hprotection
  cases field <;> simp only [isProtection, SExpr.headedBy, entry] <;> decide

/-- An entry of a secret field is no entry of a number of the same family. -/
theorem foreign_of_secretField {family : KeyFamily} {field : KeyField}
    (hfield : field ∈ family.secretFields) (value : Octets) :
    ∀ number ∈ family.numbers, Foreign number (entry field value) := by
  intro number hnumber
  refine foreign_of_ne (fun hname => ?_) value
  have hdistinct : ∀ number ∈ family.numbers, ∀ field ∈ family.secretFields,
      number.name ≠ field.name := by
    cases family <;> decide
  exact hdistinct number hnumber field hfield hname

/-- One change to elements that leaves alone what is stated for some fields. -/
inductive Change (fields : List KeyField) : List SExpr → List SExpr → Prop where
  /-- An element is added that is no entry of theirs. -/
  | add (front behind : List SExpr) {element : SExpr}
      (hforeign : ∀ field ∈ fields, Foreign field element) :
      Change fields (front ++ behind) (front ++ element :: behind)
  /-- A value is written with more zeros in front. -/
  | pad (front behind : List SExpr) (field : KeyField) (zeros : Nat) (value : Octets) :
      Change fields (front ++ entry field value :: behind)
        (front ++ entry field (List.replicate zeros 0 ++ value) :: behind)
  /-- Two neighbours change places that are not entries of one of them. -/
  | swap (front behind : List SExpr) {first second : SExpr}
      (hforeign : ∀ field ∈ fields, Foreign field first ∨ Foreign field second) :
      Change fields (front ++ first :: second :: behind) (front ++ second :: first :: behind)

theorem stated?_append (front behind : List SExpr) (field : KeyField) :
    stated? (front ++ behind) field = (stated? front field).or (stated? behind field) := by
  rw [stated?, List.filterMap_append, List.lookup_append]
  cases hfront : (front.filterMap parameter?).lookup field.name <;> simp [stated?, hfront]

theorem stated?_cons_of_foreign {field : KeyField} {element : SExpr}
    (hforeign : Foreign field element) (behind : List SExpr) :
    stated? (element :: behind) field = stated? behind field := by
  rw [stated?, lookup_parameters_cons hforeign, stated?]

theorem stated?_cons_entry (field : KeyField) (value : Octets) (behind : List SExpr) :
    stated? (entry field value :: behind) field = some (Octets.toNat value) :=
  stated?_eq_some_iff.mpr ⟨value, ⟨[], behind, rfl, nofun⟩, rfl⟩

/-- A change leaves alone what is stated. -/
theorem Change.stated?_eq {fields : List KeyField} {elements changed : List SExpr}
    (hchange : Change fields elements changed) {field : KeyField} (hfield : field ∈ fields) :
    stated? changed field = stated? elements field := by
  cases hchange with
  | add front behind hforeign =>
    rw [stated?_append, stated?_append, stated?_cons_of_foreign (hforeign field hfield)]
  | pad front behind known zeros value =>
    rw [stated?_append, stated?_append]
    refine congrArg (Option.or (stated? front field)) ?_
    by_cases hname : field.name = known.name
    · have hsame : ∀ other, entry known other = entry field other := fun other => by
        rw [entry, entry, hname]
      rw [hsame, hsame, stated?_cons_entry, stated?_cons_entry, Octets.toNat_padded]
    · rw [stated?_cons_of_foreign (foreign_of_ne hname _),
        stated?_cons_of_foreign (foreign_of_ne hname _)]
  | swap front behind hforeign =>
    rename_i first second
    rw [stated?_append, stated?_append]
    refine congrArg (Option.or (stated? front field)) ?_
    have hcons : ∀ element rest, stated? (element :: rest) field
        = (stated? [element] field).or (stated? rest field) :=
      fun element rest => stated?_append [element] rest field
    -- The one that is no entry is passed over on either side of the other.
    rcases hforeign field hfield with hfirst | hsecond
    · rw [stated?_cons_of_foreign hfirst, hcons second, stated?_cons_of_foreign hfirst]
      exact (hcons second behind).symm
    · rw [stated?_cons_of_foreign hsecond, hcons first (second :: behind),
        stated?_cons_of_foreign hsecond]
      exact hcons first behind

/-- So do changes made and undone, however many. -/
theorem stated?_eq_of_changes {fields : List KeyField} {elements changed : List SExpr}
    (hchanges : Relation.EqvGen (Change fields) elements changed) {field : KeyField}
    (hfield : field ∈ fields) : stated? changed field = stated? elements field := by
  induction hchanges with
  | rel elements changed hchange => exact hchange.stated?_eq hfield
  | refl elements => rfl
  | symm elements changed _ ih => exact ih.symm
  | trans elements between changed _ _ ih ih' => exact ih'.trans ih

/-- Keys of one family whose elements differ in such changes fit the same public keys. -/
theorem fits_eq_of_changes {octets rest : Octets} {publicKey : PublicKey}
    (hparse : PublicKey.parse octets = .ok (publicKey, rest)) {key other : AgentKey}
    (hfamily : other.family? = key.family?)
    (hchanges : Relation.EqvGen (Change publicKey.family.numbers) key.elements other.elements) :
    other.fits publicKey = key.fits publicKey := by
  rw [Bool.eq_iff_iff, fits_iff_stated hparse, fits_iff_stated hparse, hfamily]
  refine and_congr_right fun _ => forall₂_congr fun field hfield => ?_
  rw [stated?_eq_of_changes hchanges hfield]

/-! ## Matching -/

/-- A stored key fits a public key that was read if both are of one family and the first entry of
each number has its value; it does not fit if the families differ, if there is no entry of some
number, or if the first one has another value. Neither the kind of the key matters nor the atom for
its family, nor changes to its elements that leave alone what they state; and among the elements
that may be added or left out are secret numbers, protections, and all that are no list of two
atoms. -/
theorem fits_by_numbers {octets rest : Octets} {publicKey : PublicKey}
    (hparse : PublicKey.parse octets = .ok (publicKey, rest)) (key : AgentKey) :
    (key.fits publicKey = true ↔
      key.family? = some (Family.ofKeyFamily publicKey.family) ∧
      ∀ field ∈ publicKey.family.numbers, ∃ stored, FirstEntry key.elements field stored ∧
        Octets.toNat stored = publicKey.number field) ∧
    (key.fits publicKey = false ↔
      key.family? ≠ some (Family.ofKeyFamily publicKey.family) ∨
      ∃ field ∈ publicKey.family.numbers, (∀ stored, entry field stored ∉ key.elements) ∨
        ∃ stored, FirstEntry key.elements field stored ∧
          Octets.toNat stored ≠ publicKey.number field) ∧
    (∀ other : AgentKey, other.family? = key.family? →
      Relation.EqvGen (Change publicKey.family.numbers) key.elements other.elements →
      other.fits publicKey = key.fits publicKey) ∧
    ∀ front element behind,
      (∃ field ∈ publicKey.family.secretFields, ∃ value, element = entry field value) ∨
        isProtection element = true ∨ parameter? element = none →
      Change publicKey.family.numbers (front ++ behind) (front ++ element :: behind) := by
  have hiff := fits_iff_stated hparse key
  refine ⟨?_, ?_, fun other hfamily hchanges => fits_eq_of_changes hparse hfamily hchanges, ?_⟩
  · simpa only [stated?_eq_some_iff] using hiff
  · rw [← Bool.not_eq_true, hiff, not_and_or]
    refine or_congr Iff.rfl ?_
    simp only [not_forall, exists_prop, ← stated?_ne_some_iff, ne_eq]
  · rintro front element behind (⟨field, hfield, value, rfl⟩ | hprotection | hnone)
    · exact .add front behind (foreign_of_secretField hfield value)
    · exact .add front behind fun number _ => foreign_of_isProtection hprotection number
    · refine .add front behind fun number _ value hentry => ?_
      rw [parameter?_eq_some_iff.mpr hentry] at hnone
      cases hnone

/-! ## A key on a curve -/

/-- The public part of a key with a curve, which no number stands for, and a point. -/
def pointText : Octets :=
  [0x04, 0x00, 0x00, 0x00, 0x00, 0x16, 0x02, 0x2B, 0x06, 0x00, 0x0F, 0x40, 0x01]

/-- The key that it is read to. -/
def pointKey : PublicKey where
  created := 0
  algorithm := 22
  family := .eddsa
  fields := [(.oid, [0x2B, 0x06]), (.q, [0x40, 0x01])]
  body := pointText

/-- A stored key on a curve. -/
def storedPoint (kind : Kind) (elements : List SExpr) : AgentKey where
  kind := kind
  algorithm := Octets.ofText "ecc"
  elements := elements

/-- The point alone makes a key fit, and so it does with zeros in front, among other elements and
in a protected key. If another point stands in front of it, the key does not fit. -/
theorem fits_by_numbers_point :
    PublicKey.parse pointText = .ok (pointKey, []) ∧
    (storedPoint .plain [entry .q [0x40, 0x01]]).fits pointKey = true ∧
    (storedPoint .guarded [list [atom (Octets.ofText "protected")], entry .d [0x05],
      entry .q [0x00, 0x40, 0x01]]).fits pointKey = true ∧
    (storedPoint .plain [entry .q [0x40, 0x02], entry .q [0x40, 0x01]]).fits pointKey = false := by
  have hparse : PublicKey.parse pointText = .ok (pointKey, []) := rfl
  have hnumbers : ∀ field ∈ pointKey.family.numbers, field = .q := by decide
  obtain ⟨hfits, -, hchanges, hadd⟩ :=
    fits_by_numbers hparse (storedPoint .plain [entry .q [0x40, 0x01]])
  obtain ⟨-, hother, -, -⟩ :=
    fits_by_numbers hparse (storedPoint .plain [entry .q [0x40, 0x02], entry .q [0x40, 0x01]])
  have halone : (storedPoint .plain [entry .q [0x40, 0x01]]).fits pointKey = true := by
    refine hfits.mpr ⟨rfl, fun field hfield => ?_⟩
    obtain rfl := hnumbers field hfield
    exact ⟨[0x40, 0x01], ⟨[], [], rfl, nofun⟩, rfl⟩
  refine ⟨hparse, halone, ?_, ?_⟩
  · rw [hchanges (storedPoint .guarded _) rfl]
    · exact halone
    · have hpadded : Change pointKey.family.numbers [entry .q [0x40, 0x01]]
          [entry .q [0x00, 0x40, 0x01]] := .pad [] [] .q 1 [0x40, 0x01]
      have hsecret := hadd [] (entry .d [0x05]) [entry .q [0x00, 0x40, 0x01]]
        (.inl ⟨.d, List.mem_cons_self, _, rfl⟩)
      have hprotected := hadd [] (list [atom (Octets.ofText "protected")])
        [entry .d [0x05], entry .q [0x00, 0x40, 0x01]] (.inr (.inr rfl))
      exact ((Relation.EqvGen.rel _ _ hpadded).trans _ _ _ (.rel _ _ hsecret)).trans _ _ _
        (.rel _ _ hprotected)
  · refine hother.mpr (.inr ⟨.q, by decide, .inr ⟨[0x40, 0x02], ⟨[], _, rfl, nofun⟩, by decide⟩⟩)

end AgentKey

end CommitSeal
