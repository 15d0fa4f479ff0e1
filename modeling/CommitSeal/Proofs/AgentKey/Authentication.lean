import CommitSeal.KeyStore.Unlocking
import CommitSeal.Proofs.AgentKey.Protection
import CommitSeal.Proofs.SExpr.Padding

/-!
# What a wrong passphrase leads to

Under a wrong passphrase the payload of a protected key decrypts to octets of any kind. This module
classifies what is made of them. A protection that is well formed (`AgentKey.ProtectedBy`) makes a
payload authentic or not (`AgentKey.Authentic`): with chaining the octets have to be secret elements
and the code of the key around them, with OCB the tag has to fit.

A payload that is not authentic is a failure to decrypt, whatever its octets look like. A key that
is broken is reported only behind an authentic payload
(`AgentKey.unprotect_undecrypted_unless_authentic`).
-/

namespace CommitSeal.AgentKey

open SExpr (atom list canonical)

/-! ## Well-formed protection -/

/-- The ciphertexts that a mode admits. -/
def Mode.Admits (mode : Mode) (ciphertext : Octets) : Prop :=
  match mode with
  | .cbc => ciphertext ≠ [] ∧ ciphertext.length % 16 = 0
  | .ocb => 16 < ciphertext.length

/-- A key of a family has a well-formed protection, between clear elements. -/
structure ProtectedBy (key : AgentKey) (stated : Protection) (before after : List SExpr) :
    Prop where
  kind : key.kind = .guarded
  family : ∃ family, key.family? = some family
  elements : ∃ countText, Numeral.int? 10 countText = some stated.count ∧
    key.elements = before ++ list (stated.items countText) :: after
  /-- No element in front of the protection would be taken for it. -/
  before : ∀ element ∈ before, isProtection element = false
  salt : stated.salt.length = 8
  count : 0 ≤ stated.count
  iv : stated.iv.length = stated.mode.ivLength
  ciphertext : stated.mode.Admits stated.ciphertext

/-! ## Authentic payloads -/

/-- Decrypted octets are secret elements and the code of the key with these elements in the place
of the protection. -/
def Holds (algorithm : Octets) (before after : List SExpr) (plain : Octets)
    (secret : List SExpr) : Prop :=
  ∃ more, SExpr.parsePadded plain
    = .ok (list secret
        :: list [atom (Octets.ofText "hash"), atom (Octets.ofText "sha1"),
            atom (Digest.sha1 (canonical (list (atom algorithm :: (before ++ secret ++ after)))))]
        :: more)

/-- The payload of a protection is authentic under a derived key. -/
def Authentic (algorithm : Octets) (stated : Protection) (before after : List SExpr)
    (derived : Octets) : Prop :=
  match stated.mode with
  | .cbc => ∃ secret, Holds algorithm before after
      (Cipher.cbcDecrypt derived stated.iv stated.ciphertext) secret
  | .ocb => Cipher.Ocb.decrypt? derived stated.iv stated.ciphertext
      (canonical (list (atom algorithm :: (before ++ after)))) ≠ none

theorem payloadParts?_eq_some_iff {payload secret : List SExpr} {code : Octets} :
    payloadParts? payload = some (secret, code) ↔
      ∃ more, payload = list secret
        :: list [atom (Octets.ofText "hash"), atom (Octets.ofText "sha1"), atom code] :: more := by
  constructor
  · intro hparts
    unfold payloadParts? at hparts
    split at hparts
    · split at hparts
      · rename_i hnames
        obtain ⟨rfl, rfl⟩ := Prod.mk.inj (Option.some.inj hparts)
        rw [hnames.1, hnames.2]
        exact ⟨_, rfl⟩
      · cases hparts
    · cases hparts
  · rintro ⟨more, rfl⟩
    rfl

section Decrypting

variable {algorithm iv ciphertext : Octets} {before after : List SExpr}

theorem not_malformedCbc (hiv : iv.length = 16) (hciphertext : Mode.cbc.Admits ciphertext) :
    ¬ (ciphertext.isEmpty = true ∨ ciphertext.length % 16 ≠ 0 ∨ iv.length ≠ 16) := by
  simp [hciphertext.1, hciphertext.2, hiv]

/-- With chaining the secret elements are those that the decrypted octets hold. -/
theorem decryptCbc_eq_ok_iff (hiv : iv.length = 16) (hciphertext : Mode.cbc.Admits ciphertext)
    (key : Octets) (secret : List SExpr) :
    decryptCbc algorithm key iv ciphertext before after = .ok secret ↔
      Holds algorithm before after (Cipher.cbcDecrypt key iv ciphertext) secret := by
  rw [decryptCbc, if_neg (not_malformedCbc hiv hciphertext)]
  constructor
  · intro hdecrypt
    split at hdecrypt
    · cases hdecrypt
    · -- The zeros behind the octets in the buffer have no part in the payload.
      rename_i payload hparse
      split at hdecrypt
      · cases hdecrypt
      · rename_i found code hparts
        split at hdecrypt
        · rename_i hcode
          obtain rfl := Except.ok.inj hdecrypt
          obtain ⟨more, rfl⟩ := payloadParts?_eq_some_iff.mp hparts
          refine ⟨more, ?_⟩
          rw [(SExpr.parsePadded_append_zeros 15).mp hparse, ← hcode]
          rfl
        · cases hdecrypt
  · rintro ⟨more, hparse⟩
    rw [(SExpr.parsePadded_append_zeros 15).mpr hparse]
    simp only [payloadParts?_eq_some_iff.mpr ⟨more, rfl⟩]
    exact if_pos rfl

/-- Whatever else the octets are is the sign of a bad passphrase. -/
theorem decryptCbc_eq_error (hiv : iv.length = 16) (hciphertext : Mode.cbc.Admits ciphertext)
    {key : Octets} {e : UnprotectError}
    (hdecrypt : decryptCbc algorithm key iv ciphertext before after = .error e) :
    e = .badPassphrase := by
  rw [decryptCbc, if_neg (not_malformedCbc hiv hciphertext)] at hdecrypt
  split at hdecrypt
  · exact (Except.error.inj hdecrypt).symm
  · split at hdecrypt
    · exact (Except.error.inj hdecrypt).symm
    · split at hdecrypt
      · cases hdecrypt
      · exact (Except.error.inj hdecrypt).symm

/-- With OCB a tag that does not fit is the sign of a bad passphrase. -/
theorem decryptOcb_of_none (hiv : iv.length = 12) (hciphertext : Mode.ocb.Admits ciphertext)
    {key : Octets}
    (htag : Cipher.Ocb.decrypt? key iv ciphertext (canonicalKey algorithm (before ++ after))
      = none) :
    decryptOcb algorithm key iv ciphertext before after = .error .badPassphrase := by
  have hlong : 16 < ciphertext.length := hciphertext
  rw [decryptOcb, if_neg (by omega), htag]

/-- Behind a tag that fits are secret elements or a payload that is malformed. -/
theorem decryptOcb_of_some (hiv : iv.length = 12) (hciphertext : Mode.ocb.Admits ciphertext)
    {key plain : Octets}
    (htag : Cipher.Ocb.decrypt? key iv ciphertext (canonicalKey algorithm (before ++ after))
      = some plain) :
    (∃ secret, decryptOcb algorithm key iv ciphertext before after = .ok secret) ∨
      decryptOcb algorithm key iv ciphertext before after = .error .malformedPayload := by
  have hlong : 16 < ciphertext.length := hciphertext
  rw [decryptOcb, if_neg (by omega), htag]
  simp only
  split
  · exact .inr rfl
  · exact .inl ⟨_, rfl⟩
  · exact .inr rfl

end Decrypting

/-! ## Protected keys -/

section Protected

variable {key : AgentKey} {stated : Protection} {before after : List SExpr}

/-- In either mode a payload that is not authentic is the sign of a bad passphrase. -/
theorem ProtectedBy.decrypt_of_not_authentic (hkey : key.ProtectedBy stated before after)
    {derived : Octets} (hauthentic : ¬ Authentic key.algorithm stated before after derived) :
    decrypt key.algorithm stated before after derived = .error .badPassphrase := by
  have hiv := hkey.iv
  have hciphertext := hkey.ciphertext
  unfold decrypt
  unfold Authentic at hauthentic
  cases hmode : stated.mode with
  | cbc =>
    rw [hmode] at hiv hciphertext
    simp only [hmode] at hauthentic ⊢
    cases hdecrypt : decryptCbc key.algorithm derived stated.iv stated.ciphertext before after with
    | error e => rw [decryptCbc_eq_error hiv hciphertext hdecrypt]
    | ok secret =>
      -- What is decrypted with chaining is authentic.
      exact absurd ⟨secret, (decryptCbc_eq_ok_iff hiv hciphertext derived secret).mp hdecrypt⟩
        hauthentic
  | ocb =>
    rw [hmode] at hiv hciphertext
    simp only [hmode, ne_eq, not_not] at hauthentic ⊢
    exact decryptOcb_of_none hiv hciphertext hauthentic

/-- Behind an authentic payload are secret elements or a payload that is malformed. -/
theorem ProtectedBy.decrypt_of_authentic (hkey : key.ProtectedBy stated before after)
    {derived : Octets} (hauthentic : Authentic key.algorithm stated before after derived) :
    (∃ secret, decrypt key.algorithm stated before after derived = .ok secret) ∨
      decrypt key.algorithm stated before after derived = .error .malformedPayload := by
  have hiv := hkey.iv
  have hciphertext := hkey.ciphertext
  unfold decrypt
  unfold Authentic at hauthentic
  cases hmode : stated.mode with
  | cbc =>
    rw [hmode] at hiv hciphertext
    simp only [hmode] at hauthentic ⊢
    obtain ⟨secret, hholds⟩ := hauthentic
    exact .inl ⟨secret, (decryptCbc_eq_ok_iff hiv hciphertext derived secret).mpr hholds⟩
  | ocb =>
    rw [hmode] at hiv hciphertext
    simp only [hmode] at hauthentic ⊢
    obtain ⟨plain, htag⟩ := Option.ne_none_iff_exists'.mp hauthentic
    exact decryptOcb_of_some hiv hciphertext htag

/-- Secret elements are accepted, or the key cannot be used. -/
theorem acceptSecret_cases (key : AgentKey) (family : Family) (elements : List SExpr) :
    (∃ secret, acceptSecret key family elements = .ok secret) ∨
      ∃ e, acceptSecret key family elements = .error e ∧
        e.fault = .failed (.undecodable e.message) := by
  unfold acceptSecret
  cases hcollect : collectSecret family elements with
  | error e =>
    refine .inr ⟨e, rfl, ?_⟩
    -- The one reason not to collect the parameters is that some are missing.
    unfold collectSecret at hcollect
    simp only at hcollect
    split at hcollect
    · cases hcollect
    · obtain rfl := Except.error.inj hcollect
      rfl
  | ok secret =>
    simp only
    split
    · exact .inl ⟨secret, rfl⟩
    · exact .inr ⟨.modulusMismatch, rfl, rfl⟩

/-- The protection is found and read. -/
theorem ProtectedBy.exists_items (hkey : key.ProtectedBy stated before after) :
    ∃ items, splitProtection key.elements = some (before, items, after) ∧
      protection items = .ok stated := by
  obtain ⟨countText, hcount, helements⟩ := hkey.elements
  refine ⟨stated.items countText, ?_, protection_items hcount hkey.salt⟩
  rw [helements]
  exact splitProtection_append hkey.before rfl

variable {context : Context}

/-- Without a passphrase there is nothing to derive a key from. -/
theorem ProtectedBy.secretElements_none (hkey : key.ProtectedBy stated before after)
    (hmode : stated.mode ∈ context.modes) :
    secretElements key none context = .error .passphraseRequired := by
  obtain ⟨items, hsplit, hread⟩ := hkey.exists_items
  unfold secretElements
  simp [hkey.kind, hsplit, hread, hmode]

/-- With a passphrase the secret elements are what the payload is decrypted to. -/
theorem ProtectedBy.secretElements_some (hkey : key.ProtectedBy stated before after)
    (hmode : stated.mode ∈ context.modes) {passphrase derived : Octets}
    (hderived : S2k.derive passphrase stated.salt stated.count context.keyLength = .ok derived) :
    secretElements key (some passphrase) context
      = decrypt key.algorithm stated before after derived := by
  obtain ⟨items, hsplit, hread⟩ := hkey.exists_items
  unfold secretElements
  simp [hkey.kind, hsplit, hread, hmode, hderived]

/-- A payload that is not authentic under the derived key ends unlocking. -/
theorem ProtectedBy.unprotect_of_not_authentic (hkey : key.ProtectedBy stated before after)
    (hmode : stated.mode ∈ context.modes) {passphrase derived : Octets}
    (hderived : S2k.derive passphrase stated.salt stated.count context.keyLength = .ok derived)
    (hauthentic : ¬ Authentic key.algorithm stated before after derived) :
    key.unprotect (some passphrase) context = .error .badPassphrase := by
  obtain ⟨family, hfamily⟩ := hkey.family
  rw [unprotect, hfamily]
  simp only [hkey.secretElements_some hmode hderived, hkey.decrypt_of_not_authentic hauthentic]

/-- A key with a well-formed protection, in a mode that is available, ends in a failure to decrypt
without a passphrase, and under every passphrase that decrypts its payload to one that is not
authentic. Only behind an authentic payload it yields the secret parameters, or is found to be one
that cannot be used. -/
theorem unprotect_undecrypted_unless_authentic (hkey : key.ProtectedBy stated before after)
    (hmode : stated.mode ∈ context.modes) :
    (∃ e, key.unprotect none context = .error e ∧ e.fault = .failed (.undecrypted e.message)) ∧
    ∀ passphrase, ∃ derived,
      S2k.derive passphrase stated.salt stated.count context.keyLength = .ok derived ∧
      (¬ Authentic key.algorithm stated before after derived →
        ∃ e, key.unprotect (some passphrase) context = .error e ∧
          e.fault = .failed (.undecrypted e.message)) ∧
      (Authentic key.algorithm stated before after derived →
        (∃ secret, key.unprotect (some passphrase) context = .ok secret) ∨
        ∃ e, key.unprotect (some passphrase) context = .error e ∧
          e.fault = .failed (.undecodable e.message)) := by
  obtain ⟨family, hfamily⟩ := hkey.family
  refine ⟨⟨.passphraseRequired, ?_, rfl⟩, fun passphrase => ?_⟩
  · rw [unprotect, hfamily]
    simp only [hkey.secretElements_none hmode]
  · obtain ⟨count, hcount⟩ := Int.eq_ofNat_of_zero_le hkey.count
    obtain ⟨derived, hderived⟩ := exists_derive passphrase hkey.salt count context.keyLength
    rw [← hcount] at hderived
    refine ⟨derived, hderived, fun hauthentic => ?_, fun hauthentic => ?_⟩
    · exact ⟨_, hkey.unprotect_of_not_authentic hmode hderived hauthentic, rfl⟩
    · have helements := hkey.secretElements_some hmode hderived
      rw [unprotect, hfamily]
      rcases hkey.decrypt_of_authentic hauthentic with ⟨elements, hdecrypt⟩ | hdecrypt
      · simp only [helements, hdecrypt]
        exact acceptSecret_cases key family elements
      · refine .inr ⟨.malformedPayload, ?_, rfl⟩
        simp only [helements, hdecrypt]

end Protected

/-! ## A payload too short to be authentic -/

/-- A protection with one block of ciphertext. -/
def oneBlock : Protection where
  mode := .cbc
  salt := [1, 2, 3, 4, 5, 6, 7, 8]
  count := 96
  iv := List.replicate 16 0x55
  ciphertext := List.replicate 16 0xAA

/-- A key that is protected by it, with a clear element in front and another behind. -/
def oneBlockKey : AgentKey where
  kind := .guarded
  algorithm := Octets.ofText "dsa"
  elements := [entry .p [23], list (oneBlock.items (Octets.ofText "96")), entry .g [2]]

/-- A payload that holds a code has more octets than one block. -/
theorem not_authentic_oneBlock (algorithm : Octets) (before after : List SExpr)
    (derived : Octets) : ¬ Authentic algorithm oneBlock before after derived := by
  rintro ⟨secret, more, hparse⟩
  have hcode : Digest.sha1 (canonical (list (atom algorithm :: (before ++ secret ++ after))))
      ∈ (list (list secret :: list [atom (Octets.ofText "hash"), atom (Octets.ofText "sha1"),
          atom (Digest.sha1 (canonical (list (atom algorithm :: (before ++ secret ++ after)))))]
        :: more)).atoms := by
    simp [SExpr.atoms, SExpr.atomsOfItems]
  have hlong := SExpr.length_le_of_mem_atoms _ hcode
  have hshort := SExpr.length_canonical_le_of_parsePadded hparse
  have hdigest : ∀ message, (Digest.sha1 message).length = 20 := fun message => rfl
  have hblock : (Cipher.cbcDecrypt derived oneBlock.iv oneBlock.ciphertext).length = 16 := rfl
  rw [hdigest] at hlong
  omega

/-- No passphrase unlocks the key, and none makes it a broken one. -/
theorem unprotect_oneBlockKey :
    oneBlockKey.ProtectedBy oneBlock [entry .p [23]] [entry .g [2]] ∧
      ∀ passphrase, ∃ e, oneBlockKey.unprotect (some passphrase) {} = .error e ∧
        e.fault = .failed (.undecrypted e.message) := by
  have hkey : oneBlockKey.ProtectedBy oneBlock [entry .p [23]] [entry .g [2]] :=
    { kind := rfl
      family := ⟨.dsa, by decide⟩
      elements := ⟨Octets.ofText "96", rfl, rfl⟩
      before := by decide
      salt := rfl
      count := by decide
      iv := rfl
      ciphertext := ⟨nofun, rfl⟩ }
  have hmode : oneBlock.mode ∈ ({} : Context).modes := by decide
  refine ⟨hkey, fun passphrase => ?_⟩
  obtain ⟨-, hall⟩ := unprotect_undecrypted_unless_authentic hkey hmode
  obtain ⟨derived, -, hundecrypted, -⟩ := hall passphrase
  exact hundecrypted (not_authentic_oneBlock _ _ _ derived)

end CommitSeal.AgentKey
