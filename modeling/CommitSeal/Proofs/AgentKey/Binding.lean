import CommitSeal.Proofs.AgentKey.Authentication
import CommitSeal.Proofs.SExpr.Injective

/-!
# What the code of a key binds

With chaining the clear elements of a protected key are not encrypted, but the payload carries a
code of the whole key: the digest of the canonical form of its algorithm and its elements, the
secret ones in the place of the protection (`AgentKey.Decryption.sequence`). Since the canonical
form determines what it is a form of, two keys with the same secret elements and the same code have
the same sequence, unless the digest collides (`AgentKey.clear_part_bound`).

The sequence does not say where the protection stands in it: it may be moved along elements that are
equal to secret ones (`AgentKey.clear_part_bound_moved`).
-/

namespace CommitSeal.AgentKey

open SExpr (atom list canonical)

/-! ## Decryption -/

/-- What a passphrase makes of a key that is protected with chaining: the elements around the
protection, and the secret elements and the code that its payload is decrypted to. Whether the code
is that of the key is left open. -/
structure Decryption (key : AgentKey) (passphrase : Octets) (context : Context) where
  before : List SExpr
  /-- The items of the protection. -/
  items : List SExpr
  after : List SExpr
  stated : Protection
  derived : Octets
  secret : List SExpr
  code : Octets
  kind : key.kind = .guarded
  split : splitProtection key.elements = some (before, items, after)
  reads : protection items = .ok stated
  mode : stated.mode = .cbc
  supported : Mode.cbc ∈ context.modes
  iv : stated.iv.length = 16
  ciphertext : Mode.cbc.Admits stated.ciphertext
  derives : S2k.derive passphrase stated.salt stated.count context.keyLength = .ok derived
  payload : ∃ more, SExpr.parsePadded (Cipher.cbcDecrypt derived stated.iv stated.ciphertext)
    = .ok (list secret
        :: list [atom (Octets.ofText "hash"), atom (Octets.ofText "sha1"), atom code] :: more)

/-- The algorithm and the elements of a key, secret ones in the place of the protection. -/
def sequenceOf (algorithm : Octets) (before secret after : List SExpr) : List SExpr :=
  atom algorithm :: (before ++ secret ++ after)

/-- The digest does not collide on the canonical forms of two sequences. -/
def Separated (sequence other : List SExpr) : Prop :=
  Digest.sha1 (canonical (list sequence)) = Digest.sha1 (canonical (list other)) →
    canonical (list sequence) = canonical (list other)

/-- What is decrypted with chaining has an initial block, and whole blocks of ciphertext. -/
theorem wellFormed_of_decryptCbc {algorithm derived iv ciphertext : Octets}
    {before after secret : List SExpr}
    (hdecrypt : decryptCbc algorithm derived iv ciphertext before after = .ok secret) :
    iv.length = 16 ∧ Mode.cbc.Admits ciphertext := by
  unfold decryptCbc at hdecrypt
  split at hdecrypt
  · cases hdecrypt
  · rename_i hwellFormed
    simp only [not_or, List.isEmpty_iff, Decidable.not_not] at hwellFormed
    exact ⟨hwellFormed.2.2, hwellFormed.1, hwellFormed.2.1⟩

namespace Decryption

variable {key : AgentKey} {passphrase : Octets} {context : Context}

/-- What the code of a key is to be the digest of. -/
def sequence (opening : Decryption key passphrase context) : List SExpr :=
  sequenceOf key.algorithm opening.before opening.secret opening.after

/-- The secret elements are accepted if the code is that of the key around them, and else the
passphrase is taken for a bad one. -/
theorem secretElements_eq (opening : Decryption key passphrase context) :
    secretElements key (some passphrase) context
      = if Digest.sha1 (canonical (list opening.sequence)) = opening.code then .ok opening.secret
        else .error .badPassphrase := by
  -- Neither the octets behind the payload nor the items behind the code are looked at.
  obtain ⟨more, hparse⟩ := opening.payload
  have hpadded := (SExpr.parsePadded_append_zeros 15).mpr hparse
  have hparts := payloadParts?_eq_some_iff.mpr
    ⟨more, show _ = list opening.secret :: list [_, _, atom opening.code] :: more from rfl⟩
  have hdecrypt : decrypt key.algorithm opening.stated opening.before opening.after opening.derived
      = if Digest.sha1 (canonical (list opening.sequence)) = opening.code then .ok opening.secret
        else .error .badPassphrase := by
    rw [decrypt, opening.mode]
    show decryptCbc key.algorithm opening.derived opening.stated.iv opening.stated.ciphertext
      opening.before opening.after = _
    rw [decryptCbc, if_neg (not_malformedCbc opening.iv opening.ciphertext), hpadded]
    simp only [hparts]
    rfl
  unfold secretElements
  simp [opening.kind, opening.split, opening.reads, opening.mode, opening.supported,
    opening.derives, hdecrypt]

/-- The code of a key that is unprotected is that of its sequence. -/
theorem code_of_unprotect (opening : Decryption key passphrase context)
    {values : List (String × Octets)}
    (hopens : key.unprotect (some passphrase) context = .ok values) :
    Digest.sha1 (canonical (list opening.sequence)) = opening.code := by
  obtain ⟨family, elements, -, helements, -, -⟩ := unprotect_eq_ok hopens
  rw [opening.secretElements_eq] at helements
  by_cases hcode : Digest.sha1 (canonical (list opening.sequence)) = opening.code
  · exact hcode
  · rw [if_neg hcode] at helements
    cases helements

/-- A code that is not that of its sequence is the sign of a bad passphrase. -/
theorem unprotect_of_ne (opening : Decryption key passphrase context) {family : Family}
    (hfamily : key.family? = some family)
    (hcode : Digest.sha1 (canonical (list opening.sequence)) ≠ opening.code) :
    key.unprotect (some passphrase) context = .error .badPassphrase := by
  rw [unprotect, hfamily]
  simp only [opening.secretElements_eq, if_neg hcode]

/-- Every key that is unprotected and whose protection is one with chaining was decrypted so. -/
theorem exists_of_unprotect {values : List (String × Octets)} {before items after : List SExpr}
    {stated : Protection} (hopens : key.unprotect (some passphrase) context = .ok values)
    (hkind : key.kind = .guarded)
    (hsplit : splitProtection key.elements = some (before, items, after))
    (hreads : protection items = .ok stated) (hmode : stated.mode = .cbc) :
    ∃ opening : Decryption key passphrase context,
      opening.before = before ∧ opening.items = items ∧ opening.after = after := by
  obtain ⟨family, elements, -, helements, -, -⟩ := unprotect_eq_ok hopens
  -- Each check on the way to the secret elements was passed, and gives a field.
  unfold secretElements at helements
  simp only [hkind, hsplit, hreads, hmode] at helements
  split at helements
  · cases helements
  · rename_i hcontains
    have hsupported : Mode.cbc ∈ context.modes := by simpa using hcontains
    split at helements
    · cases helements
    · rename_i derived hderives
      rw [decrypt, hmode] at helements
      have hdecrypt : decryptCbc key.algorithm derived stated.iv stated.ciphertext before after
          = .ok elements := helements
      obtain ⟨hiv, hciphertext⟩ := wellFormed_of_decryptCbc hdecrypt
      have hpayload := (decryptCbc_eq_ok_iff hiv hciphertext derived elements).mp hdecrypt
      exact ⟨{ before, items, after, stated, derived, secret := elements, code := _, kind := hkind
               split := hsplit, reads := hreads, mode := hmode, supported := hsupported, iv := hiv
               ciphertext := hciphertext, derives := hderives, payload := hpayload }, rfl, rfl, rfl⟩

/-- A key with other clear elements around the same protection is decrypted to the same payload. -/
def change (opening : Decryption key passphrase context) {changed : AgentKey}
    {before after : List SExpr} (hkind : changed.kind = .guarded)
    (hsplit : splitProtection changed.elements = some (before, opening.items, after)) :
    Decryption changed passphrase context :=
  { opening with before, after, kind := hkind, split := hsplit }

end Decryption

/-! ## Binding -/

/-- Sequences that the digest separates are equal if their digests are. -/
theorem Separated.eq {sequence other : List SExpr} (hseparated : Separated sequence other)
    (hdigest : Digest.sha1 (canonical (list sequence)) = Digest.sha1 (canonical (list other))) :
    sequence = other :=
  SExpr.list.inj (SExpr.canonical_injective (hseparated hdigest))

/-- Two keys that are unprotected with the same secret elements and the same code have the same
algorithm and elements, the secret ones in the place of the protection, unless the digest collides
on them. And if anything around the protection of such a key is changed, the key is not unprotected
any more, unless the change leaves that sequence as it was. As long as the algorithm is known, the
change passes for a bad passphrase. -/
theorem clear_part_bound {key₁ key₂ : AgentKey} {passphrase₁ passphrase₂ : Octets}
    {context₁ context₂ : Context} {values₁ values₂ : List (String × Octets)}
    (opening₁ : Decryption key₁ passphrase₁ context₁)
    (opening₂ : Decryption key₂ passphrase₂ context₂)
    (hopens₁ : key₁.unprotect (some passphrase₁) context₁ = .ok values₁)
    (hopens₂ : key₂.unprotect (some passphrase₂) context₂ = .ok values₂)
    (hsecret : opening₁.secret = opening₂.secret) (hcode : opening₁.code = opening₂.code)
    (hseparated : Separated opening₁.sequence opening₂.sequence) :
    atom key₁.algorithm :: (opening₁.before ++ opening₁.secret ++ opening₁.after)
        = atom key₂.algorithm :: (opening₂.before ++ opening₁.secret ++ opening₂.after) ∧
      ∀ (changed : AgentKey) (before after : List SExpr), changed.kind = .guarded →
        splitProtection changed.elements = some (before, opening₁.items, after) →
        Separated opening₁.sequence
          (sequenceOf changed.algorithm before opening₁.secret after) →
        (∃ e, changed.unprotect (some passphrase₁) context₁ = .error e ∧
          (changed.family? ≠ none → e = .badPassphrase)) ∨
        atom changed.algorithm :: (before ++ opening₁.secret ++ after)
          = atom key₁.algorithm :: (opening₁.before ++ opening₁.secret ++ opening₁.after) := by
  have hcode₁ := opening₁.code_of_unprotect hopens₁
  have hcode₂ := opening₂.code_of_unprotect hopens₂
  constructor
  · rw [← hcode₁, ← hcode₂] at hcode
    have hsequence := hseparated.eq hcode
    unfold Decryption.sequence at hsequence
    rwa [← hsecret] at hsequence
  · intro changed before after hkind hsplit hchanged
    -- The payload is the one that it was, so that the code is still that of the sequence.
    let opening := opening₁.change hkind hsplit
    by_cases hsame : Digest.sha1 (canonical (list opening.sequence)) = opening.code
    · right
      exact (hchanged.eq (hcode₁.trans hsame.symm)).symm
    · left
      cases hfamily : changed.family? with
      | none =>
        refine ⟨.unsupportedAlgorithm changed.algorithm, ?_, fun hknown => absurd rfl hknown⟩
        rw [unprotect, hfamily]
      | some family => exact ⟨.badPassphrase, opening.unprotect_of_ne hfamily hsame, fun _ => rfl⟩

/-! ## Drafts -/

namespace Draft.Sound

variable {draft : Draft} {family : Family} {fieldValues : KeyField → Octets}

/-- The protection that is made of a draft is well formed. -/
theorem protectedBy (hsound : draft.Sound family fieldValues) (derived : Octets) :
    (draft.protectedKey derived).ProtectedBy (draft.protection derived) draft.before
      draft.after where
  kind := rfl
  family := ⟨family, hsound.ofAtom⟩
  elements := by
    obtain ⟨hdigits, hne, hlength⟩ := hsound.countText
    exact ⟨draft.countText, Numeral.int?_of_allDigits hdigits hne fun _ => hlength, rfl⟩
  before := hsound.before
  salt := hsound.salt
  count := Int.natCast_nonneg _
  iv := hsound.iv
  ciphertext := by
    have hlength := length_ciphertext hsound derived
    have hne := payload_ne_nil draft
    show draft.mode.Admits (draft.ciphertext derived)
    cases hmode : draft.mode with
    | cbc =>
      have hwhole := hsound.padding hmode
      rw [hmode] at hlength
      refine ⟨fun hnil => hne ?_, ?_⟩
      · rw [hnil] at hlength
        exact hlength.symm
      · rw [hlength]
        exact hwhole
    | ocb =>
      rw [hmode] at hlength
      show 16 < (draft.ciphertext derived).length
      rw [hlength]
      show 16 < draft.payload.length + 16
      omega

variable {derived passphrase : Octets} {context : Context}

/-- What is made of a draft is unprotected, in either mode. -/
theorem unprotect_eq (hsound : draft.Sound family fieldValues)
    (hsupported : draft.mode ∈ context.modes)
    (hderives : S2k.derive passphrase draft.salt draft.count context.keyLength = .ok derived) :
    (draft.protectedKey derived).unprotect (some passphrase) context
      = .ok (family.secretFields.map fun field => (field.name, fieldValues field)) := by
  have hfamily : (draft.protectedKey derived).family? = some family := hsound.ofAtom
  have helements := (hsound.protectedBy derived).secretElements_some hsupported hderives
  have hdecrypt : decrypt (draft.protectedKey derived).algorithm (draft.protection derived)
      draft.before draft.after derived = .ok draft.secret := decrypt_protection hsound derived
  rw [unprotect, hfamily]
  simp only [helements, hdecrypt]
  exact acceptSecret_secret hsound derived

/-- With chaining it is decrypted to what was put into it. -/
def opening (hsound : draft.Sound family fieldValues) (hmode : draft.mode = .cbc)
    (hsupported : Mode.cbc ∈ context.modes)
    (hderives : S2k.derive passphrase draft.salt draft.count context.keyLength = .ok derived) :
    Decryption (draft.protectedKey derived) passphrase context where
  before := draft.before
  items := draft.protectionItems derived
  after := draft.after
  stated := draft.protection derived
  derived := derived
  secret := draft.secret
  code := authenticationCode draft.algorithm (draft.before ++ draft.secret ++ draft.after)
  kind := rfl
  split := splitProtection_append hsound.before (by rfl)
  reads := protection_protectionItems hsound derived
  mode := hmode
  supported := hsupported
  iv := by
    show draft.iv.length = 16
    rw [hsound.iv, hmode]
    rfl
  ciphertext := by
    have hadmits : draft.mode.Admits (draft.ciphertext derived) :=
      (hsound.protectedBy derived).ciphertext
    rwa [hmode] at hadmits
  derives := hderives
  payload := by
    have hplain : Cipher.cbcDecrypt derived draft.iv (draft.ciphertext derived)
        = draft.payload := by
      rw [Draft.ciphertext, hmode]
      exact Cipher.cbcDecrypt_cbcEncrypt derived draft.iv (hsound.padding hmode)
    have hparse := parsePadded_payload hsound []
    rw [List.append_nil, ← hplain] at hparse
    refine ⟨[], hparse.trans ?_⟩
    simp only [Draft.payloadItems, hmode]

end Draft.Sound

/-! ## A protection that is moved -/

/-- A key with its parameter `x` under protection, and with given elements around it. -/
def movedDraft (before after : List SExpr) : Draft where
  algorithm := Octets.ofText "dsa"
  before
  after
  secret := [entry .x [5]]
  mode := .cbc
  salt := [1, 2, 3, 4, 5, 6, 7, 8]
  countText := Octets.ofText "96"
  iv := List.replicate 16 0x55
  padding := List.replicate 15 0

/-- The key with `x` in the clear as well, in front of its protection or behind it. -/
theorem sound_movedDraft {before after : List SExpr}
    (haround : (before = [entry .x [5]] ∧ after = []) ∨ (before = [] ∧ after = [entry .x [5]])) :
    (movedDraft before after).Sound .dsa fun _ => [5] where
  ofAtom := by
    show Family.ofAtom? (Octets.ofText "dsa") = some .dsa
    decide
  before := by
    rcases haround with ⟨rfl, rfl⟩ | ⟨rfl, rfl⟩
    · show ∀ element ∈ [entry .x [5]], isProtection element = false
      decide
    · nofun
  entries := by
    intro field hfield
    obtain rfl := List.mem_singleton.mp hfield
    exact ⟨[], [], rfl, nofun⟩
  modulus := nofun
  salt := rfl
  iv := rfl
  countText := by
    refine ⟨?_, ?_, ?_⟩
    · show ∀ octet ∈ Octets.ofText "96", (Numeral.digit? 10 octet).isSome = true
      exact List.all_eq_true.mp (by decide)
    · show Octets.ofText "96" ≠ []
      decide
    · show (Octets.ofText "96").length ≤ Numeral.maxDecimalDigits
      decide
  padding := by
    intro _
    rcases haround with ⟨rfl, rfl⟩ | ⟨rfl, rfl⟩ <;> decide +kernel
  clear := by
    rcases haround with ⟨rfl, rfl⟩ | ⟨rfl, rfl⟩
    · show ∀ octets ∈ (list [entry .x [5]]).atoms, octets.length < SExpr.lengthLimit
      decide
    · show ∀ octets ∈ (list [entry .x [5]]).atoms, octets.length < SExpr.lengthLimit
      decide
  ciphertext := by
    rcases haround with ⟨rfl, rfl⟩ | ⟨rfl, rfl⟩ <;> decide +kernel

/-- Two keys with the same secret elements and the same code that differ in where the protection
stands: behind the clear element, and in front of it. The sequence is that of both. -/
theorem clear_part_bound_moved :
    ∃ (key₁ key₂ : AgentKey) (opening₁ : Decryption key₁ [0x70] {})
      (opening₂ : Decryption key₂ [0x71] {}),
      (∃ values, key₁.unprotect (some [0x70]) {} = .ok values) ∧
      (∃ values, key₂.unprotect (some [0x71]) {} = .ok values) ∧
      opening₁.secret = opening₂.secret ∧ opening₁.code = opening₂.code ∧
      Separated opening₁.sequence opening₂.sequence ∧
      (opening₁.before, opening₁.after) = ([entry .x [5]], []) ∧
      (opening₂.before, opening₂.after) = ([], [entry .x [5]]) ∧
      atom key₁.algorithm :: (opening₁.before ++ opening₁.secret ++ opening₁.after)
        = atom key₂.algorithm :: (opening₂.before ++ opening₁.secret ++ opening₂.after) := by
  have hsound₁ := sound_movedDraft (.inl ⟨rfl, rfl⟩)
  have hsound₂ := sound_movedDraft (.inr ⟨rfl, rfl⟩)
  have hcbc : Mode.cbc ∈ ({} : Context).modes := by decide
  obtain ⟨derived₁, hderives₁⟩ := exists_derive [0x70] hsound₁.salt (movedDraft _ _).count 16
  obtain ⟨derived₂, hderives₂⟩ := exists_derive [0x71] hsound₂.salt (movedDraft _ _).count 16
  let opening₁ : Decryption _ [0x70] {} := hsound₁.opening rfl hcbc hderives₁
  let opening₂ : Decryption _ [0x71] {} := hsound₂.opening rfl hcbc hderives₂
  have hopens₁ := hsound₁.unprotect_eq hcbc hderives₁
  have hopens₂ := hsound₂.unprotect_eq hcbc hderives₂
  have hsequence : sequenceOf (Octets.ofText "dsa") [entry .x [5]] [entry .x [5]] []
      = sequenceOf (Octets.ofText "dsa") [] [entry .x [5]] [entry .x [5]] := rfl
  have hcode : opening₁.code = opening₂.code := by
    show Digest.sha1 (canonical (list
        (sequenceOf (Octets.ofText "dsa") [entry .x [5]] [entry .x [5]] [])))
      = Digest.sha1 (canonical (list
        (sequenceOf (Octets.ofText "dsa") [] [entry .x [5]] [entry .x [5]])))
    rw [hsequence]
  have hseparated : Separated opening₁.sequence opening₂.sequence := by
    intro _
    show canonical (list (sequenceOf (Octets.ofText "dsa") [entry .x [5]] [entry .x [5]] []))
      = canonical (list (sequenceOf (Octets.ofText "dsa") [] [entry .x [5]] [entry .x [5]]))
    rw [hsequence]
  obtain ⟨hbound, -⟩ :=
    clear_part_bound opening₁ opening₂ hopens₁ hopens₂ rfl hcode hseparated
  exact ⟨_, _, opening₁, opening₂, ⟨_, hopens₁⟩, ⟨_, hopens₂⟩, rfl, hcode, hseparated, rfl, rfl,
    hbound⟩

end CommitSeal.AgentKey
