import CommitSeal.Proofs.AgentKey.Parameters
import CommitSeal.Proofs.Cipher.Modes
import CommitSeal.Proofs.Octets.Numeral
import CommitSeal.Proofs.SExpr.Agreement

/-!
# Protecting stored keys

A key is protected by putting its secret elements into a payload, which is encrypted under a key
that is derived from a passphrase and takes the place of the elements (`AgentKey.Draft.file`). This
module writes down how, and shows that the reader undoes it in both modes: the file is loaded, and
with the same passphrase it yields the secret parameters (`AgentKey.unprotect_file`).

Each part of the file is read back by a lemma of its own: the file by `AgentKey.load_file`, the
protection element by `AgentKey.protection_protectionItems`, the payload by
`AgentKey.decryptCbc_ciphertext` and `AgentKey.decryptOcb_ciphertext`.
-/

namespace CommitSeal.AgentKey

open SExpr (atom list canonical lengthLimit WithinLimit)

/-! ## What is written -/

/-- Octets of the initial block or nonce of a mode. -/
def Mode.ivLength : Mode → Nat
  | cbc => 16
  | ocb => 12

/-- Octets that a mode adds to what it encrypts. -/
def Mode.overhead : Mode → Nat
  | cbc => 0
  | ocb => Cipher.Ocb.tagLength

/-- A key that is to be protected, and what is chosen for its protection. -/
structure Draft where
  algorithm : Octets
  /-- The clear elements in front of the protection. -/
  before : List SExpr
  /-- The clear elements behind the protection. -/
  after : List SExpr
  secret : List SExpr
  mode : Mode
  salt : Octets
  /-- The decimal digits of the count. -/
  countText : Octets
  iv : Octets
  /-- What the payload is filled up with. -/
  padding : Octets

namespace Draft

variable (draft : Draft)

/-- The number of octets to hash, or its coded form. -/
def count : Nat := Numeral.valueOf 10 draft.countText

/-- The items of the payload: the secret elements, and with chaining the code of the whole key. -/
def payloadItems : List SExpr :=
  match draft.mode with
  | .cbc => [list draft.secret, list [atom (Octets.ofText "hash"), atom (Octets.ofText "sha1"),
      atom (authenticationCode draft.algorithm (draft.before ++ draft.secret ++ draft.after))]]
  | .ocb => [list draft.secret]

/-- The payload as it is encrypted. -/
def payload : Octets := canonical (list draft.payloadItems) ++ draft.padding

/-- The payload encrypted under a key. -/
def ciphertext (key : Octets) : Octets :=
  match draft.mode with
  | .cbc => Cipher.cbcEncrypt key draft.iv draft.payload
  | .ocb => Cipher.Ocb.encrypt key draft.iv draft.payload
      (canonicalKey draft.algorithm (draft.before ++ draft.after))

/-- The items of the protection element. -/
def protectionItems (key : Octets) : List SExpr :=
  [atom (Octets.ofText "protected"), atom (Octets.ofText draft.mode.name),
    list [list [atom (Octets.ofText "sha1"), atom draft.salt, atom draft.countText],
      atom draft.iv],
    atom (draft.ciphertext key)]

/-- What the protection element says. -/
def protection (key : Octets) : Protection where
  mode := draft.mode
  salt := draft.salt
  count := draft.count
  iv := draft.iv
  ciphertext := draft.ciphertext key

/-- The protected key. -/
def protectedKey (key : Octets) : AgentKey where
  kind := .guarded
  algorithm := draft.algorithm
  elements := draft.before ++ list (draft.protectionItems key) :: draft.after

/-- The items of the expression that is the file of a key. -/
def fileItems (key : Octets) : List SExpr :=
  [atom (draft.protectedKey key).kind.atom,
    list (atom draft.algorithm :: (draft.protectedKey key).elements)]

/-- The file of the protected key. -/
def file (key : Octets) : Octets := canonical (list (draft.fileItems key))

/-- What a draft must be for its file to be read, as a key of a family with the given secret
values. -/
structure Sound (family : Family) (values : KeyField → Octets) : Prop where
  /-- The algorithm is one of the family. -/
  ofAtom : Family.ofAtom? draft.algorithm = some family
  /-- No element in front of the protection would be taken for it. -/
  before : ∀ element ∈ draft.before, isProtection element = false
  /-- Every secret field has an entry, the last of which has its value. -/
  entries : ∀ field ∈ family.secretFields, LastEntry draft.secret field (values field)
  /-- The factors of an RSA modulus that is stored in the clear multiply to it. -/
  modulus : family = .rsa → ∀ modulus, FirstEntry (draft.before ++ draft.after) .n modulus →
    Octets.toNat (values .p) * Octets.toNat (values .q) = Octets.toNat modulus
  salt : draft.salt.length = 8
  iv : draft.iv.length = draft.mode.ivLength
  /-- The count is written in decimal digits, and not too many. -/
  countText : Numeral.AllDigits 10 draft.countText ∧ draft.countText ≠ [] ∧
    draft.countText.length ≤ Numeral.maxDecimalDigits
  /-- With chaining the payload is filled up to whole blocks. -/
  padding : draft.mode = .cbc → draft.payload.length % 16 = 0
  /-- No atom is too long for a length prefix. -/
  clear : WithinLimit (list (draft.before ++ draft.after)).atoms
  ciphertext : draft.payload.length + draft.mode.overhead < lengthLimit

end Draft

/-! ## Deriving the key -/

/-- A salt that is not empty is enough for a key to be derived. -/
theorem exists_derive (passphrase : Octets) {salt : Octets} (hsalt : salt.length = 8)
    (count length : Nat) : ∃ derived, S2k.derive passphrase salt count length = .ok derived := by
  have hcount : ∃ octets, S2k.octetCount count = .ok octets := by
    unfold S2k.octetCount
    by_cases hlarge : 256 ≤ (count : Int)
    · exact ⟨_, if_pos hlarge⟩
    · have hexponent : ¬ (count : Int) / 16 + 6 < 0 := by omega
      rw [if_neg hlarge]
      simp only [if_neg hexponent]
      exact ⟨_, rfl⟩
  have hdata : (salt ++ passphrase).isEmpty = false := by
    cases salt with
    | nil => cases hsalt
    | cons first salt => rfl
  obtain ⟨octets, hoctets⟩ := hcount
  simp only [S2k.derive, hoctets, hdata]
  exact ⟨_, rfl⟩

/-! ## Reading the file -/

variable {draft : Draft} {family : Family} {values : KeyField → Octets}

theorem length_ciphertext (hsound : draft.Sound family values) (key : Octets) :
    (draft.ciphertext key).length = draft.payload.length + draft.mode.overhead := by
  unfold Draft.ciphertext
  cases hmode : draft.mode with
  | cbc => exact Cipher.length_cbcEncrypt key draft.iv (hsound.padding hmode)
  | ocb => exact Cipher.Ocb.length_encrypt key draft.iv draft.payload _

/-- No algorithm is named by an atom that is too long. -/
theorem length_algorithm {algorithm : Octets} (hfamily : Family.ofAtom? algorithm = some family) :
    algorithm.length < lengthLimit := by
  have hall : ∀ known ∈ Family.atoms, (Octets.ofText known.1).length < lengthLimit := by decide
  unfold Family.ofAtom? at hfamily
  obtain ⟨known, hfound, -⟩ := Option.map_eq_some_iff.mp hfamily
  have hname := List.find?_some hfound
  rw [← beq_iff_eq.mp hname]
  exact hall known (List.mem_of_find?_eq_some hfound)

/-- No atom of the file is too long for a length prefix. -/
theorem withinLimit_fileItems (hsound : draft.Sound family values) (key : Octets) :
    WithinLimit (list (draft.fileItems key)).atoms := by
  have halgorithm := length_algorithm hsound.ofAtom
  have hmode : (Octets.ofText draft.mode.name).length < lengthLimit := by
    cases draft.mode <;> decide
  have hsalt : draft.salt.length < lengthLimit := by
    rw [hsound.salt]
    decide
  have hcountText : draft.countText.length < lengthLimit :=
    Nat.lt_of_le_of_lt hsound.countText.2.2 (by decide)
  have hiv : draft.iv.length < lengthLimit := by
    rw [hsound.iv]
    cases draft.mode <;> decide
  have hciphertext : (draft.ciphertext key).length < lengthLimit := by
    rw [length_ciphertext hsound]
    exact hsound.ciphertext
  have hclear := SExpr.withinLimit_list.mp hsound.clear
  simp only [Draft.fileItems, Draft.protectedKey, Draft.protectionItems, SExpr.withinLimit_list,
    SExpr.withinLimit_atom, List.forall_mem_cons, List.forall_mem_append, List.not_mem_nil,
    false_imp_iff, implies_true, and_true] at hclear ⊢
  refine ⟨by decide, halgorithm, hclear.1, ⟨by decide, hmode, ⟨?_, hiv⟩, hciphertext⟩, hclear.2⟩
  exact ⟨by decide, hsalt, hcountText⟩

/-- The file is loaded to the protected key. -/
theorem load_file (hsound : draft.Sound family values) (key : Octets) :
    load (draft.file key) = .ok (draft.protectedKey key) := by
  have hparse : SExpr.parseKeyFile (draft.file key) = .ok (draft.fileItems key) :=
    SExpr.parseKeyFile_canonical (withinLimit_fileItems hsound key)
  have hkind : Kind.ofAtom? (draft.protectedKey key).kind.atom = some .guarded := by
    show Kind.ofAtom? Kind.guarded.atom = some .guarded
    decide
  rw [load, hparse]
  simp only [Draft.fileItems, ofItems, hkind]
  rfl

/-! ## Reading the protection -/

/-- The protection is the first element that is headed as one. -/
theorem splitProtection_append {before after items : List SExpr}
    (hbefore : ∀ element ∈ before, isProtection element = false)
    (hitems : isProtection (list items) = true) :
    splitProtection (before ++ list items :: after) = some (before, items, after) := by
  induction before with
  | nil => simp [splitProtection, hitems]
  | cons element before ih =>
    have helement := hbefore element List.mem_cons_self
    have hrest := ih fun other hother => hbefore other (List.mem_cons_of_mem _ hother)
    rw [List.cons_append, splitProtection.eq_def]
    simp only [helement, hrest, Bool.false_eq_true, if_false, Option.map_some]

/-- The items of the element for a protection, with the digits of its count. -/
def Protection.items (stated : Protection) (countText : Octets) : List SExpr :=
  [atom (Octets.ofText "protected"), atom (Octets.ofText stated.mode.name),
    list [list [atom (Octets.ofText "sha1"), atom stated.salt, atom countText], atom stated.iv],
    atom stated.ciphertext]

/-- The element says what the protection is. -/
theorem protection_items {stated : Protection} {countText : Octets}
    (hcount : Numeral.int? 10 countText = some stated.count) (hsalt : stated.salt.length = 8) :
    protection (stated.items countText) = .ok stated := by
  have hascii : Octets.isAscii (Octets.ofText stated.mode.name) = true := by
    cases stated.mode <;> decide
  have hmode : Mode.ofName? (Octets.asciiText (Octets.ofText stated.mode.name))
      = some stated.mode := by
    cases stated.mode <;> decide
  simp only [Protection.items, protection, s2kParts?, hcount, Option.map_some, hascii, hmode]
  have hsupported : ¬ (Octets.ofText "sha1" ≠ Octets.ofText "sha1" ∨ stated.salt.length ≠ 8) := by
    rw [hsalt]
    decide
  rw [if_neg (by decide), if_neg hsupported]

/-- The protection element says what was chosen. -/
theorem protection_protectionItems (hsound : draft.Sound family values) (key : Octets) :
    protection (draft.protectionItems key) = .ok (draft.protection key) := by
  obtain ⟨hdigits, hne, hlength⟩ := hsound.countText
  have hcount : Numeral.int? 10 draft.countText = some (draft.protection key).count :=
    Numeral.int?_of_allDigits hdigits hne fun _ => hlength
  exact protection_items hcount hsound.salt

/-! ## Reading the payload -/

/-- The payload is read in front of anything. -/
theorem parsePadded_payload (hsound : draft.Sound family values) (behind : Octets) :
    SExpr.parsePadded (draft.payload ++ behind) = .ok draft.payloadItems := by
  have hatoms : WithinLimit (list draft.payloadItems).atoms := by
    intro octets hoctets
    have hlength := SExpr.length_le_of_mem_atoms _ hoctets
    have hpayload := hsound.ciphertext
    rw [Draft.payload, List.length_append] at hpayload
    omega
  rw [Draft.payload, List.append_assoc]
  exact SExpr.parsePadded_canonical hatoms _

theorem payload_ne_nil (draft : Draft) : draft.payload.length ≠ 0 := by
  rw [Draft.payload, canonical, List.length_append, List.length_cons]
  omega

/-- With chaining the secret elements come back, and the code is that of the key around them. -/
theorem decryptCbc_ciphertext (hsound : draft.Sound family values) (hmode : draft.mode = .cbc)
    (key : Octets) :
    decryptCbc draft.algorithm key draft.iv (draft.ciphertext key) draft.before draft.after
      = .ok draft.secret := by
  have hlength := length_ciphertext hsound key
  have hwhole := hsound.padding hmode
  have hiv := hsound.iv
  -- The zeros that the buffer has behind the payload are padding like any other.
  have hparse := parsePadded_payload hsound (List.replicate 15 0)
  have hplain : Cipher.cbcDecrypt key draft.iv (draft.ciphertext key) = draft.payload := by
    rw [Draft.ciphertext, hmode]
    exact Cipher.cbcDecrypt_cbcEncrypt key draft.iv hwhole
  rw [hmode] at hlength hiv
  have hwellFormed : ¬ ((draft.ciphertext key).isEmpty = true ∨
      (draft.ciphertext key).length % 16 ≠ 0 ∨ draft.iv.length ≠ 16) := by
    have hne := payload_ne_nil draft
    rw [List.isEmpty_iff_length_eq_zero, hlength, hiv]
    show ¬ (draft.payload.length + 0 = 0 ∨ (draft.payload.length + 0) % 16 ≠ 0 ∨ 16 ≠ 16)
    omega
  rw [decryptCbc, if_neg hwellFormed, hplain, hparse]
  simp only [Draft.payloadItems, hmode, payloadParts?, and_self, if_true]

/-- With OCB they come back as well, and the clear elements are what they were. -/
theorem decryptOcb_ciphertext (hsound : draft.Sound family values) (hmode : draft.mode = .ocb)
    (key : Octets) :
    decryptOcb draft.algorithm key draft.iv (draft.ciphertext key) draft.before draft.after
      = .ok draft.secret := by
  have hlength := length_ciphertext hsound key
  have hiv := hsound.iv
  have hparse := parsePadded_payload hsound []
  have hplain : Cipher.Ocb.decrypt? key draft.iv (draft.ciphertext key)
      (canonicalKey draft.algorithm (draft.before ++ draft.after)) = some draft.payload := by
    rw [Draft.ciphertext, hmode]
    exact Cipher.Ocb.decrypt?_encrypt key draft.iv draft.payload _
  rw [hmode] at hlength hiv
  have hwellFormed : ¬ (draft.iv.length ≠ 12 ∨ (draft.ciphertext key).length ≤ 16) := by
    have hne := payload_ne_nil draft
    rw [hlength, hiv]
    show ¬ (12 ≠ 12 ∨ draft.payload.length + 16 ≤ 16)
    omega
  rw [List.append_nil] at hparse
  rw [decryptOcb, if_neg hwellFormed, hplain]
  simp only [hparse, Draft.payloadItems, hmode]

/-- In either mode the secret elements come back. -/
theorem decrypt_protection (hsound : draft.Sound family values) (key : Octets) :
    decrypt draft.algorithm (draft.protection key) draft.before draft.after key
      = .ok draft.secret := by
  cases hmode : draft.mode with
  | cbc =>
    have hprotection : (draft.protection key).mode = .cbc := hmode
    simp only [decrypt, hprotection]
    exact decryptCbc_ciphertext hsound hmode key
  | ocb =>
    have hprotection : (draft.protection key).mode = .ocb := hmode
    simp only [decrypt, hprotection]
    exact decryptOcb_ciphertext hsound hmode key

/-! ## The secret parameters -/

/-- The values of the secret fields go with the clear parameters. -/
theorem acceptSecret_secret (hsound : draft.Sound family values) (key : Octets) :
    acceptSecret (draft.protectedKey key) family draft.secret
      = .ok (family.secretFields.map fun field => (field.name, values field)) := by
  have hcollect := collectSecret_of_lastEntry hsound.entries
  -- The protection is no parameter, so that the clear ones are those around it.
  have hclear : ∀ modulus, (draft.protectedKey key).parameters.lookup "n" = some modulus →
      FirstEntry (draft.before ++ draft.after) .n modulus := by
    intro modulus hmodulus
    have hentry : FirstEntry (draft.protectedKey key).elements .n modulus :=
      (lookup_clear (draft.protectedKey key)).mp hmodulus
    rw [← lookup_parameters] at hentry ⊢
    rw [Draft.protectedKey, List.filterMap_append, List.filterMap_cons_none (by rfl)] at hentry
    rwa [List.filterMap_append]
  have hconsistent : consistent family (draft.protectedKey key).parameters
      (family.secretFields.map fun field => (field.name, values field)) = true := by
    unfold consistent
    split
    · rename_i modulus hmodulus
      have hproduct := hsound.modulus rfl modulus (hclear modulus hmodulus)
      rw [beq_iff_eq, ← hproduct]
      rfl
    · rfl
  rw [acceptSecret, hcollect]
  exact if_pos hconsistent

/-- Unprotecting undoes protecting, in both modes. With a passphrase and the salt and the count of a
draft a key is derived; the file that is made with it is loaded, and the same passphrase yields the
value of every secret field. -/
theorem unprotect_file {draft : Draft} {family : Family} {values : KeyField → Octets}
    (hsound : draft.Sound family values) (passphrase : Octets) {context : Context}
    (hmode : draft.mode ∈ context.modes) :
    ∃ derived key,
      S2k.derive passphrase draft.salt draft.count context.keyLength = .ok derived ∧
      load (draft.file derived) = .ok key ∧
      key.unprotect (some passphrase) context
        = .ok (family.secretFields.map fun field => (field.name, values field)) := by
  obtain ⟨derived, hderived⟩ :=
    exists_derive passphrase hsound.salt draft.count context.keyLength
  refine ⟨derived, draft.protectedKey derived, hderived, load_file hsound derived, ?_⟩
  have hfamily : (draft.protectedKey derived).family? = some family := hsound.ofAtom
  have hsplit : splitProtection (draft.protectedKey derived).elements
      = some (draft.before, draft.protectionItems derived, draft.after) :=
    splitProtection_append hsound.before (by rfl)
  have hsupported : (!context.modes.contains (draft.protection derived).mode) = false := by
    rw [Bool.not_eq_false', List.contains_iff_mem]
    exact hmode
  have helements : secretElements (draft.protectedKey derived) (some passphrase) context
      = .ok draft.secret := by
    have hread := protection_protectionItems hsound derived
    have hdecrypt : decrypt (draft.protectedKey derived).algorithm (draft.protection derived)
        draft.before draft.after derived = .ok draft.secret := decrypt_protection hsound derived
    have hkind : (draft.protectedKey derived).kind = .guarded := rfl
    have hkey : S2k.derive passphrase (draft.protection derived).salt
        (draft.protection derived).count context.keyLength = .ok derived := hderived
    unfold secretElements
    simp only [hkind, hsplit, hread, hsupported, hkey, hdecrypt, Bool.false_eq_true, if_false]
  rw [unprotect, hfamily]
  simp only [helements]
  exact acceptSecret_secret hsound derived

/-- A small RSA key with a modulus of 6, in which the parameters `n` and `p` are there twice. -/
def smallDraft (mode : Mode) : Draft where
  algorithm := Octets.ofText "rsa"
  before := [entry .n [6], entry .e [5]]
  after := [entry .n [7]]
  secret := [entry .p [9], entry .d [1], entry .p [2], entry .q [3], entry .u [2]]
  mode := mode
  salt := [1, 2, 3, 4, 5, 6, 7, 8]
  countText := Octets.ofText "65536"
  iv := List.replicate mode.ivLength 0xFF
  padding := List.replicate 15 0x20

/-- The values of its secret fields. -/
def smallValues : KeyField → Octets
  | .d => [1]
  | .p => [2]
  | .q => [3]
  | .u => [2]
  | _ => []

theorem sound_smallDraft (mode : Mode) : (smallDraft mode).Sound .rsa smallValues where
  ofAtom := by
    show Family.ofAtom? (Octets.ofText "rsa") = some .rsa
    decide
  before := by
    show ∀ element ∈ [entry .n [6], entry .e [5]], isProtection element = false
    decide
  entries := by
    have hvalues : ∀ field ∈ Family.rsa.secretFields, lastValue? field.name
        ([entry .p [9], entry .d [1], entry .p [2], entry .q [3], entry .u [2]].filterMap
          parameter?) = some (smallValues field) := by
      decide
    exact fun field hfield => lastValue?_eq_some_iff.mp (hvalues field hfield)
  modulus := by
    rintro - modulus hfirst
    have hlookup : ([entry .n [6], entry .e [5], entry .n [7]].filterMap parameter?).lookup
        KeyField.n.name = some [6] := by
      decide
    obtain rfl := Option.some.inj (hlookup.symm.trans (lookup_parameters.mpr hfirst))
    decide
  salt := rfl
  iv := by cases mode <;> rfl
  countText := by
    refine ⟨?_, ?_, ?_⟩
    · show ∀ octet ∈ Octets.ofText "65536", (Numeral.digit? 10 octet).isSome = true
      exact List.all_eq_true.mp (by decide)
    · show Octets.ofText "65536" ≠ []
      decide
    · show (Octets.ofText "65536").length ≤ Numeral.maxDecimalDigits
      decide
  padding := by
    intro hmode
    obtain rfl : mode = .cbc := hmode
    decide +kernel
  clear := by
    show ∀ octets ∈ (list [entry .n [6], entry .e [5], entry .n [7]]).atoms,
      octets.length < lengthLimit
    decide
  ciphertext := by
    cases mode <;> decide +kernel

/-- What the small key is unprotected to. -/
def smallSecret : List (String × Octets) := [("d", [1]), ("p", [2]), ("q", [3]), ("u", [2])]

theorem unprotect_file_small :
    ((smallDraft .cbc).Sound .rsa smallValues ∧ ∃ derived key,
      S2k.derive [0x70] (smallDraft .cbc).salt (smallDraft .cbc).count 16 = .ok derived ∧
      load ((smallDraft .cbc).file derived) = .ok key ∧
      key.unprotect (some [0x70]) {} = .ok smallSecret) ∧
    ((smallDraft .ocb).Sound .rsa smallValues ∧ ∃ derived key,
      S2k.derive [0x70] (smallDraft .ocb).salt (smallDraft .ocb).count 16 = .ok derived ∧
      load ((smallDraft .ocb).file derived) = .ok key ∧
      key.unprotect (some [0x70]) {} = .ok smallSecret) := by
  have hcbc : (smallDraft .cbc).mode ∈ ({} : Context).modes := by decide
  have hocb : (smallDraft .ocb).mode ∈ ({} : Context).modes := by decide
  exact ⟨⟨sound_smallDraft .cbc, unprotect_file (sound_smallDraft .cbc) [0x70] hcbc⟩,
    sound_smallDraft .ocb, unprotect_file (sound_smallDraft .ocb) [0x70] hocb⟩

end CommitSeal.AgentKey
