import CommitSeal.Proofs.AgentKey.Parameters

/-!
# Repeated parameters of a key in the clear

The elements of a key in the clear are read twice: as parameters of its file, by which the key is
matched and its modulus is checked, and as secret parameters, with which signatures are made. What
is no entry is passed over both times, but of several entries of a field the first reading keeps
the first and the second reading the last.

The two readings therefore give a field one value exactly if its entries end as they begin
(`AgentKey.Concordant`), and they agree on a whole key exactly if that holds of every secret field
of its family (`AgentKey.clear_agrees_iff`). A key without two different entries of a field is read
alike both times (`AgentKey.lookup_clear_of_unprotect`).
-/

namespace CommitSeal.AgentKey

open SExpr (atom list)

/-! ## First and last entries -/

/-- The first and the last entry of a field have one value. -/
def Concordant (elements : List SExpr) (field : KeyField) : Prop :=
  ∀ first last, FirstEntry elements field first → LastEntry elements field last → first = last

/-- Whether a field is concordant is seen at its first and last entries. -/
theorem concordant_iff {elements : List SExpr} {field : KeyField} {first last : Octets}
    (hfirst : FirstEntry elements field first) (hlast : LastEntry elements field last) :
    Concordant elements field ↔ first = last := by
  constructor
  · exact fun hconcordant => hconcordant first last hfirst hlast
  · rintro rfl other behind hother hbehind
    exact (hother.unique hfirst).trans (hlast.unique hbehind)

/-- A field whose entries do not differ is concordant, however many there are. -/
theorem concordant_of_forall_mem {elements : List SExpr} {field : KeyField}
    (hsame : ∀ value other, entry field value ∈ elements → entry field other ∈ elements →
      value = other) : Concordant elements field :=
  fun first last hfirst hlast => hsame first last hfirst.mem hlast.mem

/-! ## The two readings -/

/-- Where a secret parameter is collected, the field has a clear one too: the value of its first
entry, as that of the last one is the secret one. -/
theorem readings_of_collectSecret {key : AgentKey} {family : Family}
    {secret : List (String × Octets)}
    (hcollect : collectSecret family key.elements = .ok secret) {field : KeyField}
    (hfield : field ∈ family.secretFields) :
    ∃ first last, FirstEntry key.elements field first ∧ LastEntry key.elements field last ∧
      key.parameters.lookup field.name = some first ∧ secret.lookup field.name = some last ∧
      (first = last ↔ Concordant key.elements field) := by
  obtain ⟨last, hsecret, hlast⟩ := lastEntry_of_collectSecret hcollect hfield
  obtain ⟨first, hfirst⟩ := exists_firstEntry hlast.mem
  exact ⟨first, last, hfirst, hlast, (lookup_clear key).mpr hfirst, hsecret,
    (concordant_iff hfirst hlast).symm⟩

/-- The two readings agree on all names that are collected exactly if each of their fields is
concordant. -/
theorem agree_iff_concordant {key : AgentKey} {family : Family} {secret : List (String × Octets)}
    (hcollect : collectSecret family key.elements = .ok secret) :
    (∀ name value, (name, value) ∈ secret → key.parameters.lookup name = some value) ↔
      ∀ field ∈ family.secretFields, Concordant key.elements field := by
  obtain ⟨values, rfl, hlast⟩ := collectSecret_eq_ok hcollect
  constructor
  · intro hagree field hfield
    have hclear := hagree field.name (values field.name) (List.mem_map.mpr ⟨field, hfield, rfl⟩)
    exact (concordant_iff ((lookup_clear key).mp hclear) (hlast field hfield)).mpr rfl
  · intro hconcordant name value hmem
    obtain ⟨field, hfield, hentry⟩ := List.mem_map.mp hmem
    obtain ⟨rfl, rfl⟩ := Prod.mk.inj hentry
    obtain ⟨first, hfirst⟩ := exists_firstEntry (hlast field hfield).mem
    rw [(lookup_clear key).mpr hfirst,
      (concordant_iff hfirst (hlast field hfield)).mp (hconcordant field hfield)]

/-- The secret elements of a key in the clear that is unprotected are all its elements. -/
theorem collectSecret_of_plain {key : AgentKey} {passphrase : Option Octets} {context : Context}
    {secret : List (String × Octets)} (hkind : key.kind = .plain)
    (hsecret : key.unprotect passphrase context = .ok secret) :
    ∃ family, key.family? = some family ∧ collectSecret family key.elements = .ok secret := by
  obtain ⟨family, elements, hfamily, helements, hcollect, -⟩ := unprotect_eq_ok hsecret
  unfold secretElements at helements
  rw [hkind] at helements
  obtain rfl := Except.ok.inj helements
  exact ⟨family, hfamily, hcollect⟩

/-- A key in the clear is unprotected to the last values of its secret fields, while its parameters
are the first ones. The two agree on all names exactly if every secret field of the family is
concordant. -/
theorem clear_agrees_iff {key : AgentKey} {passphrase : Option Octets} {context : Context}
    {secret : List (String × Octets)} (hkind : key.kind = .plain)
    (hsecret : key.unprotect passphrase context = .ok secret) :
    ∃ family, key.family? = some family ∧
      secret.map Prod.fst = family.secretFields.map KeyField.name ∧
      (∀ field ∈ family.secretFields, ∃ first last,
        FirstEntry key.elements field first ∧ LastEntry key.elements field last ∧
        key.parameters.lookup field.name = some first ∧ secret.lookup field.name = some last ∧
        (first = last ↔ Concordant key.elements field)) ∧
      ((∀ name value, (name, value) ∈ secret → key.parameters.lookup name = some value) ↔
        ∀ field ∈ family.secretFields, Concordant key.elements field) := by
  obtain ⟨family, hfamily, hcollect⟩ := collectSecret_of_plain hkind hsecret
  refine ⟨family, hfamily, ?_, fun field => readings_of_collectSecret hcollect,
    agree_iff_concordant hcollect⟩
  obtain ⟨values, rfl, -⟩ := collectSecret_eq_ok hcollect
  rw [List.map_map]
  rfl

/-- So a key in the clear is read alike both times if no field has two entries that differ. -/
theorem lookup_clear_of_unprotect {key : AgentKey} {passphrase : Option Octets} {context : Context}
    {secret : List (String × Octets)} (hkind : key.kind = .plain)
    (hsecret : key.unprotect passphrase context = .ok secret)
    (hsame : ∀ field value other, entry field value ∈ key.elements →
      entry field other ∈ key.elements → value = other) {name : String} {value : Octets}
    (hmem : (name, value) ∈ secret) : key.parameters.lookup name = some value := by
  obtain ⟨family, -, hcollect⟩ := collectSecret_of_plain hkind hsecret
  exact (agree_iff_concordant hcollect).mpr
    (fun field _ => concordant_of_forall_mem (hsame field)) name value hmem

/-! ## A key with two values for its secret -/

/-- A key on a curve, with some values for its one secret field. -/
def repeatedKey (values : List Octets) : AgentKey where
  kind := .plain
  algorithm := Octets.ofText "ecc"
  elements := values.map (entry .d)

/-- A key is unprotected to the last of three values; its parameters tell the same if the first
one is the last one too. -/
theorem clear_agrees_iff_repeated :
    (repeatedKey [[1], [2], [1]]).kind = .plain ∧
    (repeatedKey [[1], [2], [1]]).unprotect none {} = .ok [("d", [1])] ∧
    (∀ name value, (name, value) ∈ [("d", ([1] : Octets))] →
      (repeatedKey [[1], [2], [1]]).parameters.lookup name = some value) ∧
    (repeatedKey [[1], [2]]).kind = .plain ∧
    (repeatedKey [[1], [2]]).unprotect none {} = .ok [("d", [2])] ∧
    ¬ ∀ name value, (name, value) ∈ [("d", ([2] : Octets))] →
      (repeatedKey [[1], [2]]).parameters.lookup name = some value := by
  have hfamily : ∀ values, (repeatedKey values).family? = some .curve := fun _ => rfl
  have hreturning : (repeatedKey [[1], [2], [1]]).unprotect none {} = .ok [("d", [1])] := rfl
  have hchanging : (repeatedKey [[1], [2]]).unprotect none {} = .ok [("d", [2])] := rfl
  obtain ⟨family, hsome, -, hreadings, hagree⟩ := clear_agrees_iff rfl hreturning
  obtain ⟨other, hother, -, hreadings', hagree'⟩ := clear_agrees_iff rfl hchanging
  obtain rfl := Option.some.inj ((hfamily _).symm.trans hsome)
  obtain rfl := Option.some.inj ((hfamily _).symm.trans hother)
  refine ⟨rfl, hreturning, hagree.mpr fun field hfield => ?_, rfl, hchanging, fun hall => ?_⟩
  · obtain ⟨first, last, -, -, hclear, hlast, hiff⟩ := hreadings field hfield
    obtain rfl : field = .d := by simpa [Family.secretFields] using hfield
    rw [← hiff]
    exact (Option.some.inj hclear).symm.trans (Option.some.inj hlast)
  · obtain ⟨first, last, -, -, hclear, hlast, hiff⟩ := hreadings' .d List.mem_cons_self
    have hfirst : [1] = first := Option.some.inj hclear
    have hsecond : [2] = last := Option.some.inj hlast
    have hsame := hiff.mpr (hagree'.mp hall .d List.mem_cons_self)
    rw [← hfirst, ← hsecond] at hsame
    exact absurd hsame (by decide)

/-- The two readings do not agree on every key in the clear that can be loaded. -/
theorem not_forall_clear_agrees :
    ¬ ∀ (file : Octets) (key : AgentKey) (passphrase : Option Octets) (context : Context)
        (secret : List (String × Octets)),
      load file = .ok key → key.kind = .plain → key.unprotect passphrase context = .ok secret →
        ∀ name value, (name, value) ∈ secret → key.parameters.lookup name = some value := by
  intro hall
  have hload : load (Octets.ofText "(private-key(ecc(d #01#)(d #02#)))")
      = .ok (repeatedKey [[1], [2]]) := rfl
  have hclear : (repeatedKey [[1], [2]]).parameters.lookup "d" = some [2] :=
    hall _ _ none {} [("d", [2])] hload rfl rfl "d" [2] List.mem_cons_self
  have hfirst : (repeatedKey [[1], [2]]).parameters.lookup "d" = some [1] := rfl
  rw [hfirst] at hclear
  exact absurd (Option.some.inj hclear) (by decide)

end CommitSeal.AgentKey
