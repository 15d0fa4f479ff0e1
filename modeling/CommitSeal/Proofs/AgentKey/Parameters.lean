import CommitSeal.AgentKey.Unprotect
import Mathlib.Data.List.Basic

/-!
# Parameters of stored keys

A parameter is an element that is a list of two atoms, a name and a value. Of several with one name,
the first counts among the clear parameters (`AgentKey.FirstEntry`) and the last among the secret
ones (`AgentKey.LastEntry`). The tables that the reader makes of elements are looked up accordingly
(`AgentKey.lookup_parameters`, `AgentKey.collectSecret_of_lastEntry`). What a key is unprotected to
are the last entries among its secret elements (`AgentKey.unprotect_eq_ok`,
`AgentKey.lastEntry_of_collectSecret`).
-/

namespace CommitSeal

/-! ## Names -/

namespace Octets

/-- The character that an octet of an ASCII text is shown as. -/
def asciiChar (octet : UInt8) : Char :=
  if octet < 0x80 then Char.ofNat octet.toNat else Char.ofNat 0xFFFD

/-- An ASCII character is shown for its own code only. -/
theorem asciiChar_eq_iff {octet : UInt8} {c : Char} (hascii : c.toNat < 0x80) :
    asciiChar octet = c ↔ octet = UInt8.ofNat c.toNat := by
  unfold asciiChar
  constructor
  · rintro rfl
    split at hascii
    · rename_i hoctet
      have hcodes : ∀ code < 0x80, (Char.ofNat code).toNat = code := by decide +kernel
      rw [if_pos hoctet, hcodes octet.toNat (UInt8.lt_iff_toNat_lt.mp hoctet), UInt8.ofNat_toNat]
    · exact absurd hascii (by decide)
  · rintro rfl
    have hcode : (UInt8.ofNat c.toNat).toNat = c.toNat := by
      rw [UInt8.toNat_ofNat']
      omega
    rw [if_pos (UInt8.lt_iff_toNat_lt.mpr (by rw [hcode]; exact hascii)), hcode, Char.ofNat_toNat]

/-- A text of ASCII characters is that of one octet string only. -/
theorem asciiText_eq_iff {octets : Octets} {text : String}
    (hascii : ∀ c ∈ text.toList, c.toNat < 0x80) :
    asciiText octets = text ↔ octets = ofText text := by
  have hshown : asciiText octets = text ↔ octets.map asciiChar = text.toList := by
    rw [← String.toList_inj, asciiText, String.toList_ofList]
    rfl
  have hwritten : ∀ chars : List Char, (∀ c ∈ chars, c.toNat < 0x80) → ∀ octets : Octets,
      octets.map asciiChar = chars ↔ octets = chars.flatMap String.utf8EncodeChar := by
    intro chars hchars
    induction chars with
    | nil => simp
    | cons c chars ih =>
      have hc : c.toNat < 0x80 := hchars c List.mem_cons_self
      have hrest := ih fun other hother => hchars other (List.mem_cons_of_mem _ hother)
      have hcode : String.utf8EncodeChar c = [UInt8.ofNat c.toNat] := by
        have hval : c.val.toNat ≤ 127 := Nat.le_of_lt_succ hc
        simp only [String.utf8EncodeChar, if_pos hval]
        rfl
      intro octets
      cases octets with
      | nil => simp [hcode]
      | cons octet octets =>
        simp [hcode, hrest, asciiChar_eq_iff hc]
  rw [hshown, hwritten text.toList hascii octets, ofText]

end Octets

/-! ## Entries -/

namespace AgentKey

/-- The element that gives a field a value. -/
def entry (field : KeyField) (value : Octets) : SExpr :=
  .list [.atom (Octets.ofText field.name), .atom value]

/-- The first entry of a field among elements has the given value. -/
def FirstEntry (elements : List SExpr) (field : KeyField) (value : Octets) : Prop :=
  ∃ front behind, elements = front ++ entry field value :: behind ∧
    ∀ other, entry field other ∉ front

/-- The last entry of a field among elements has the given value. -/
def LastEntry (elements : List SExpr) (field : KeyField) (value : Octets) : Prop :=
  ∃ front behind, elements = front ++ entry field value :: behind ∧
    ∀ other, entry field other ∉ behind

theorem FirstEntry.mem {elements : List SExpr} {field : KeyField} {value : Octets}
    (hfirst : FirstEntry elements field value) : entry field value ∈ elements := by
  obtain ⟨front, behind, rfl, -⟩ := hfirst
  exact List.mem_append_right _ List.mem_cons_self

theorem LastEntry.mem {elements : List SExpr} {field : KeyField} {value : Octets}
    (hlast : LastEntry elements field value) : entry field value ∈ elements := by
  obtain ⟨front, behind, rfl, -⟩ := hlast
  exact List.mem_append_right _ List.mem_cons_self

/-- The reader takes nothing else for a field. -/
theorem parameter?_eq_some_iff {element : SExpr} {field : KeyField} {value : Octets} :
    parameter? element = some (field.name, value) ↔ element = entry field value := by
  have hascii : ∀ c ∈ field.name.toList, c.toNat < 0x80 := by
    have hall : (field.name.toList.all fun c => decide (c.toNat < 0x80)) = true := by
      cases field <;> decide
    exact fun c hc => of_decide_eq_true (List.all_eq_true.mp hall c hc)
  constructor
  · intro hparameter
    unfold parameter? at hparameter
    split at hparameter
    · obtain ⟨hname, rfl⟩ := Prod.mk.inj (Option.some.inj hparameter)
      rw [(Octets.asciiText_eq_iff hascii).mp hname]
      rfl
    · cases hparameter
  · rintro rfl
    rw [entry, parameter?, (Octets.asciiText_eq_iff hascii).mpr rfl]

/-- Entries are told apart by their fields and values. -/
theorem entry_inj {field known : KeyField} {value other : Octets}
    (hentry : entry field value = entry known other) : field.name = known.name ∧ value = other := by
  have hparameter := parameter?_eq_some_iff.mpr hentry
  rw [parameter?_eq_some_iff.mpr rfl] at hparameter
  exact Prod.mk.inj (Option.some.inj hparameter)

/-- The first entry is in front, or there is none in front of it. -/
theorem firstEntry_cons {element : SExpr} {elements : List SExpr} {field : KeyField}
    {value : Octets} :
    FirstEntry (element :: elements) field value ↔ element = entry field value ∨
      (∀ other, element ≠ entry field other) ∧ FirstEntry elements field value := by
  constructor
  · rintro ⟨front, behind, hsplit, hfront⟩
    cases front with
    | nil => exact .inl (List.cons.inj hsplit).1
    | cons first front =>
      obtain ⟨rfl, hrest⟩ := List.cons.inj hsplit
      refine .inr ⟨?_, front, behind, hrest, ?_⟩
      · intro other hother
        exact hfront other (by rw [← hother]; exact List.mem_cons_self)
      · intro other hother
        exact hfront other (List.mem_cons_of_mem _ hother)
  · rintro (rfl | ⟨hfirst, front, behind, rfl, hfront⟩)
    · exact ⟨[], elements, rfl, fun other hother => by cases hother⟩
    · refine ⟨element :: front, behind, rfl, ?_⟩
      intro other hother
      rcases List.mem_cons.mp hother with hhere | hthere
      · exact hfirst other hhere.symm
      · exact hfront other hthere

/-- What is no entry of a field does not show when the field is looked up. -/
theorem lookup_parameters_cons {element : SExpr} {field : KeyField}
    (hother : ∀ other, element ≠ entry field other) (elements : List SExpr) :
    ((element :: elements).filterMap parameter?).lookup field.name
      = (elements.filterMap parameter?).lookup field.name := by
  cases hparameter : parameter? element with
  | none => rw [List.filterMap_cons_none hparameter]
  | some found =>
    obtain ⟨name, known⟩ := found
    have hname : field.name ≠ name := by
      rintro rfl
      exact hother known (parameter?_eq_some_iff.mp hparameter)
    rw [List.filterMap_cons_some hparameter, List.lookup_cons, beq_false_of_ne hname]

/-- Looking a field up in the table of all parameters gives its first entry. -/
theorem lookup_parameters {elements : List SExpr} {field : KeyField} {value : Octets} :
    (elements.filterMap parameter?).lookup field.name = some value ↔
      FirstEntry elements field value := by
  induction elements with
  | nil => simp [FirstEntry]
  | cons element elements ih =>
    rw [firstEntry_cons]
    by_cases hhere : ∃ known, element = entry field known
    · obtain ⟨known, rfl⟩ := hhere
      rw [List.filterMap_cons_some (parameter?_eq_some_iff.mpr rfl), List.lookup_cons,
        beq_self_eq_true]
      constructor
      · intro hvalue
        rw [Option.some.inj hvalue]
        exact .inl rfl
      · rintro (hentry | ⟨hother, -⟩)
        · rw [(entry_inj hentry).2]
        · exact absurd rfl (hother known)
    · have hother : ∀ other, element ≠ entry field other := fun other hentry =>
        hhere ⟨other, hentry⟩
      rw [lookup_parameters_cons hother, ih]
      constructor
      · exact fun hrest => .inr ⟨hother, hrest⟩
      · rintro (hentry | ⟨-, hrest⟩)
        · exact absurd hentry (hother value)
        · exact hrest

theorem FirstEntry.unique {elements : List SExpr} {field : KeyField} {value other : Octets}
    (hvalue : FirstEntry elements field value) (hother : FirstEntry elements field other) :
    value = other :=
  Option.some.inj ((lookup_parameters.mpr hvalue).symm.trans (lookup_parameters.mpr hother))

/-- Where there is an entry, there is a first one. -/
theorem exists_firstEntry {elements : List SExpr} {field : KeyField} {value : Octets}
    (hmem : entry field value ∈ elements) : ∃ first, FirstEntry elements field first := by
  cases hlookup : (elements.filterMap parameter?).lookup field.name with
  | some first => exact ⟨first, lookup_parameters.mp hlookup⟩
  | none =>
    have hthere : (field.name, value) ∈ elements.filterMap parameter? :=
      List.mem_filterMap.mpr ⟨_, hmem, parameter?_eq_some_iff.mpr rfl⟩
    simpa using List.lookup_eq_none_iff.mp hlookup _ hthere

/-! ## Clear parameters -/

/-- Adding entries to a table unless their names are there keeps what the table gives, and else
gives the first entry that is added. -/
theorem lookup_foldl_addFirst (name : String) (entries : List (String × Octets)) :
    ∀ table : List (String × Octets),
      (entries.foldl addFirst table).lookup name = (table ++ entries).lookup name := by
  induction entries with
  | nil =>
    intro table
    rw [List.foldl_nil, List.append_nil]
  | cons added entries ih =>
    intro table
    rw [List.foldl_cons, ih, addFirst]
    by_cases hknown : table.any (fun known => known.1 == added.1) = true
    · -- The name is there already, so that its new entry does not show.
      rw [if_pos hknown, List.lookup_append, List.lookup_append]
      cases htable : table.lookup name with
      | some value => rfl
      | none =>
        have hname : (name == added.1) = false := by
          rw [List.lookup_eq_none_iff] at htable
          obtain ⟨known, hmem, hsame⟩ := List.any_eq_true.mp hknown
          rw [← beq_iff_eq.mp hsame, ← Bool.not_eq_true]
          exact fun h => absurd h (by simpa using htable known hmem)
        rw [List.lookup_cons, hname]
    · rw [if_neg hknown, List.append_assoc, List.singleton_append]

/-- Of several clear parameters with one name the first counts. -/
theorem lookup_clear (key : AgentKey) {field : KeyField} {value : Octets} :
    key.parameters.lookup field.name = some value ↔ FirstEntry key.elements field value := by
  rw [parameters, lookup_foldl_addFirst, List.nil_append, lookup_parameters]

/-! ## Secret parameters -/

/-- The last entry is the first one from behind. -/
theorem firstEntry_reverse {elements : List SExpr} {field : KeyField} {value : Octets} :
    FirstEntry elements.reverse field value ↔ LastEntry elements field value := by
  constructor
  · rintro ⟨front, behind, hsplit, hfront⟩
    refine ⟨behind.reverse, front.reverse, ?_, ?_⟩
    · rw [← List.reverse_reverse elements, hsplit]
      simp
    · intro other hother
      exact hfront other (List.mem_reverse.mp hother)
  · rintro ⟨front, behind, rfl, hbehind⟩
    refine ⟨behind.reverse, front.reverse, by simp, ?_⟩
    intro other hother
    exact hbehind other (List.mem_reverse.mp hother)

theorem LastEntry.unique {elements : List SExpr} {field : KeyField} {value other : Octets}
    (hvalue : LastEntry elements field value) (hother : LastEntry elements field other) :
    value = other :=
  (firstEntry_reverse.mpr hvalue).unique (firstEntry_reverse.mpr hother)

/-- Of several secret parameters with one name the last counts. -/
theorem lastValue?_eq_some_iff {elements : List SExpr} {field : KeyField} {value : Octets} :
    lastValue? field.name (elements.filterMap parameter?) = some value ↔
      LastEntry elements field value := by
  rw [lastValue?, ← List.filterMap_reverse, lookup_parameters, firstEntry_reverse]

/-- If every field of a family has an entry, their values are collected. -/
theorem collectSecret_of_lastEntry {family : Family} {elements : List SExpr}
    {values : KeyField → Octets}
    (hentries : ∀ field ∈ family.secretFields, LastEntry elements field (values field)) :
    collectSecret family elements
      = .ok (family.secretFields.map fun field => (field.name, values field)) := by
  have hvalue : ∀ field ∈ family.secretFields,
      lastValue? field.name (elements.filterMap parameter?) = some (values field) :=
    fun field hfield => lastValue?_eq_some_iff.mpr (hentries field hfield)
  have hnone : (family.secretFields.filter fun field =>
      (lastValue? field.name (elements.filterMap parameter?)).isNone) = [] := by
    rw [List.filter_eq_nil_iff]
    intro field hfield
    rw [hvalue field hfield]
    exact Bool.false_ne_true
  unfold collectSecret
  simp only [hnone]
  congr 1
  refine List.map_congr_left fun field hfield => ?_
  rw [hvalue field hfield, Option.getD_some]

/-- A table of fields and values that depend on their names is looked up by name. -/
theorem lookup_map_name {fields : List KeyField} (value : String → Octets) {field : KeyField}
    (hfield : field ∈ fields) :
    (fields.map fun known => (known.name, value known.name)).lookup field.name
      = some (value field.name) := by
  induction fields with
  | nil => cases hfield
  | cons first fields ih =>
    rw [List.map_cons, List.lookup_cons]
    by_cases hname : field.name = first.name
    · rw [hname, beq_self_eq_true]
    · rw [beq_false_of_ne hname]
      rcases List.mem_cons.mp hfield with rfl | hlater
      · exact absurd rfl hname
      · exact ih hlater

/-- What is collected are the values of the last entries, one for every field of the family. -/
theorem collectSecret_eq_ok {family : Family} {elements : List SExpr}
    {secret : List (String × Octets)} (hcollect : collectSecret family elements = .ok secret) :
    ∃ values : String → Octets,
      secret = family.secretFields.map (fun field => (field.name, values field.name)) ∧
        ∀ field ∈ family.secretFields, LastEntry elements field (values field.name) := by
  unfold collectSecret at hcollect
  simp only at hcollect
  split at hcollect
  · rename_i hnone
    refine ⟨fun name => (lastValue? name (elements.filterMap parameter?)).getD [],
      (Except.ok.inj hcollect).symm, fun field hfield => ?_⟩
    have hthere : lastValue? field.name (elements.filterMap parameter?) ≠ none := by
      intro hmissing
      have habsent := List.filter_eq_nil_iff.mp hnone field hfield
      rw [hmissing] at habsent
      exact habsent rfl
    obtain ⟨value, hvalue⟩ := Option.ne_none_iff_exists'.mp hthere
    simp only [hvalue, Option.getD_some]
    exact lastValue?_eq_some_iff.mp hvalue
  · cases hcollect

/-- What is collected for a field is the value of its last entry. -/
theorem lastEntry_of_collectSecret {family : Family} {elements : List SExpr}
    {secret : List (String × Octets)} (hcollect : collectSecret family elements = .ok secret)
    {field : KeyField} (hfield : field ∈ family.secretFields) :
    ∃ value, secret.lookup field.name = some value ∧ LastEntry elements field value := by
  obtain ⟨values, rfl, hlast⟩ := collectSecret_eq_ok hcollect
  exact ⟨values field.name, lookup_map_name values hfield, hlast field hfield⟩

/-! ## What an unprotected key is made of -/

/-- A key that is unprotected is one of a family, and its secret parameters are collected from its
secret elements and go with the clear ones. -/
theorem unprotect_eq_ok {key : AgentKey} {passphrase : Option Octets} {context : Context}
    {secret : List (String × Octets)} (hsecret : key.unprotect passphrase context = .ok secret) :
    ∃ family elements, key.family? = some family ∧
      secretElements key passphrase context = .ok elements ∧
      collectSecret family elements = .ok secret ∧
      consistent family key.parameters secret = true := by
  unfold unprotect at hsecret
  split at hsecret
  · cases hsecret
  · rename_i family hfamily
    split at hsecret
    · cases hsecret
    · rename_i elements helements
      unfold acceptSecret at hsecret
      split at hsecret
      · cases hsecret
      · rename_i found hcollect
        split at hsecret
        · rename_i hconsistent
          obtain rfl := Except.ok.inj hsecret
          exact ⟨family, elements, hfamily, helements, hcollect, hconsistent⟩
        · cases hsecret

end AgentKey

end CommitSeal
