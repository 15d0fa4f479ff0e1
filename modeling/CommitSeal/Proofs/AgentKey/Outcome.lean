import CommitSeal.Proofs.AgentKey.Authentication
import CommitSeal.Proofs.S2k

/-!
# What unprotecting a key ends with

A key file may have been written by anybody. What its protection says is taken for an exponent, for
an initial block and for the blocks of a ciphertext, and whoever unprotects a key relies on it that
odd values end in one of two failures, to decrypt or to use the key at all
(`AgentKey.IsDeclared`): the first is answered by asking for another passphrase, the second is not.

All of them do but one. A cipher is set up with nothing that it does not accept
(`AgentKey.Mode.Accepts`), and what is missing, of the wrong shape or of another kind makes a key
that cannot be used. But a count below −96 is a coded form with a negative exponent
(`AgentKey.Underflows`), and the fault of that is of neither kind
(`AgentKey.unprotect_isDeclared_iff`).
-/

namespace CommitSeal.AgentKey

open SExpr (atom list)

/-! ## Failures that callers are told of -/

/-- A reason is a failure to decrypt, or that of a key that cannot be used. -/
def UnprotectError.IsDeclared (e : UnprotectError) : Prop :=
  e.fault = .failed (.undecrypted e.message) ∨ e.fault = .failed (.undecodable e.message)

/-- An attempt to unprotect a key yields secret parameters, or fails in a way that callers are told
of. -/
def IsDeclared (answer : Except UnprotectError (List (String × Octets))) : Prop :=
  (∃ secret, answer = .ok secret) ∨ ∃ e, answer = .error e ∧ e.IsDeclared

/-- The faults of the string-to-key function are of a kind of their own. -/
theorem UnprotectError.not_isDeclared_s2k (cause : S2k.Error) :
    ¬ (UnprotectError.s2k cause).IsDeclared := by
  cases cause <;> simp [IsDeclared, UnprotectError.fault]

/-! ## The protection element -/

/-- A protection element is read, with a salt of eight octets, or makes the key one that cannot be
used. -/
theorem protection_cases (items : List SExpr) :
    (∃ stated, protection items = .ok stated ∧ stated.salt.length = 8) ∨
      ∃ e, protection items = .error e ∧ e.IsDeclared := by
  unfold protection
  split
  · rename_i mode s2k iv ciphertext
    cases s2kParts? s2k with
    | none => exact .inr ⟨_, rfl, .inr rfl⟩
    | some parts =>
      by_cases hascii : (!Octets.isAscii mode) = true
      · exact .inr ⟨_, if_pos hascii, .inr rfl⟩
      · simp only [if_neg hascii]
        cases Mode.ofName? (Octets.asciiText mode) with
        | none => exact .inr ⟨_, rfl, .inr rfl⟩
        | some known =>
          simp only
          split
          · exact .inr ⟨_, rfl, .inr rfl⟩
          · rename_i hash salt count
            by_cases hs2k : hash ≠ Octets.ofText "sha1" ∨ salt.length ≠ 8
            · exact .inr ⟨_, if_pos hs2k, .inr rfl⟩
            · have hsalt : salt.length = 8 := Decidable.not_not.mp (not_or.mp hs2k).2
              simp only [if_neg hs2k]
              split
              · exact .inl ⟨_, rfl, hsalt⟩
              · exact .inr ⟨_, rfl, .inr rfl⟩
          · exact .inr ⟨_, rfl, .inr rfl⟩
  · exact .inr ⟨_, rfl, .inr rfl⟩

/-! ## The cipher -/

/-- What the cipher of a mode is set up with: a key of one of three lengths, an initial block or
nonce, and a ciphertext. -/
structure Mode.Accepts (mode : Mode) (key iv ciphertext : Octets) : Prop where
  key : key.length ∈ [16, 24, 32]
  iv : iv.length = mode.ivLength
  ciphertext : mode.Admits ciphertext

/-- The reason of a protection that its mode cannot be set up with. -/
def Mode.malformed : Mode → UnprotectError
  | cbc => .malformedCbc
  | ocb => .malformedOcb

theorem Mode.isDeclared_malformed (mode : Mode) : mode.malformed.IsDeclared := by
  cases mode <;> exact .inr rfl

section Decrypting

variable {algorithm derived : Octets} {stated : Protection} {before after : List SExpr}

/-- The initial block and the ciphertext are those of the mode, or nothing is decrypted. -/
theorem admits_or_malformed (algorithm derived : Octets) (stated : Protection)
    (before after : List SExpr) :
    (stated.iv.length = stated.mode.ivLength ∧ stated.mode.Admits stated.ciphertext) ∨
      decrypt algorithm stated before after derived = .error stated.mode.malformed := by
  unfold decrypt
  cases hmode : stated.mode with
  | cbc =>
    by_cases hshape : stated.ciphertext.isEmpty = true ∨ stated.ciphertext.length % 16 ≠ 0 ∨
        stated.iv.length ≠ 16
    · exact .inr (by rw [decryptCbc, if_pos hshape]; rfl)
    · obtain ⟨hne, hrest⟩ := not_or.mp hshape
      obtain ⟨hwhole, hiv⟩ := not_or.mp hrest
      refine .inl ⟨Decidable.not_not.mp hiv, fun hnil => hne ?_, Decidable.not_not.mp hwhole⟩
      rw [hnil]
      rfl
  | ocb =>
    by_cases hshape : stated.iv.length ≠ 12 ∨ stated.ciphertext.length ≤ 16
    · exact .inr (by rw [decryptOcb, if_pos hshape]; rfl)
    · obtain ⟨hnonce, hlong⟩ := not_or.mp hshape
      exact .inl ⟨Decidable.not_not.mp hnonce, Nat.not_le.mp hlong⟩

/-- A payload that is not decrypted is a failure that callers are told of. -/
theorem isDeclared_of_decrypt {e : UnprotectError}
    (hdecrypt : decrypt algorithm stated before after derived = .error e) : e.IsDeclared := by
  obtain ⟨hiv, hciphertext⟩ | hmalformed :=
    admits_or_malformed algorithm derived stated before after
  · unfold decrypt at hdecrypt
    cases hmode : stated.mode with
    | cbc =>
      rw [hmode] at hiv hciphertext hdecrypt
      obtain rfl := decryptCbc_eq_error hiv hciphertext hdecrypt
      exact .inl rfl
    | ocb =>
      rw [hmode] at hiv hciphertext
      simp only [hmode] at hdecrypt
      cases htag : Cipher.Ocb.decrypt? derived stated.iv stated.ciphertext
          (canonicalKey algorithm (before ++ after)) with
      | none =>
        rw [decryptOcb_of_none hiv hciphertext htag] at hdecrypt
        obtain rfl := Except.error.inj hdecrypt
        exact .inl rfl
      | some plain =>
        obtain ⟨secret, hsecret⟩ | hpayload := decryptOcb_of_some hiv hciphertext htag
        · rw [hsecret] at hdecrypt
          cases hdecrypt
        · rw [hpayload] at hdecrypt
          obtain rfl := Except.error.inj hdecrypt
          exact .inr rfl
  · rw [hmalformed] at hdecrypt
    obtain rfl := Except.error.inj hdecrypt
    exact stated.mode.isDeclared_malformed

end Decrypting

/-! ## Counts without an exponent -/

variable {key : AgentKey} {passphrase : Option Octets} {context : Context}

/-- The way to the payload of a key leads over a count that is too low for its coded form: the
algorithm is known, the mode available, and there is a passphrase. -/
structure Underflows (key : AgentKey) (passphrase : Option Octets) (context : Context) : Prop where
  family : key.family? ≠ none
  kind : key.kind = .guarded
  passphrase : passphrase ≠ none
  count : ∃ before items after stated,
    splitProtection key.elements = some (before, items, after) ∧ protection items = .ok stated ∧
      stated.mode ∈ context.modes ∧ stated.count < -96

/-- There is something to hash, since a salt of eight octets was read. -/
theorem salt_append_ne_nil {items : List SExpr} {stated : Protection}
    (hread : protection items = .ok stated) (passphrase : Octets) :
    stated.salt ++ passphrase ≠ [] := by
  obtain ⟨found, hfound, hsalt⟩ | ⟨e, herror, -⟩ := protection_cases items
  · obtain rfl : found = stated := Except.ok.inj (hfound.symm.trans hread)
    intro hnil
    rw [(List.append_eq_nil_iff.mp hnil).1] at hsalt
    cases hsalt
  · rw [hread] at herror
    cases herror

/-- No key is derived from such a count. -/
theorem Underflows.unprotect_eq (hkey : key.Underflows passphrase context) :
    key.unprotect passphrase context = .error (.s2k .negativeExponent) := by
  obtain ⟨family, hfamily⟩ := Option.ne_none_iff_exists'.mp hkey.family
  obtain ⟨given, rfl⟩ := Option.ne_none_iff_exists'.mp hkey.passphrase
  obtain ⟨before, items, after, stated, hsplit, hread, hmode, hlow⟩ := hkey.count
  have hderive : S2k.derive given stated.salt stated.count context.keyLength
      = .error .negativeExponent := by
    obtain ⟨-, hnone⟩ | ⟨hcount, -⟩ := S2k.derive_cases (salt_append_ne_nil hread given)
      stated.count context.keyLength
    · exact hnone
    · omega
  have helements : secretElements key (some given) context
      = .error (.s2k .negativeExponent) := by
    unfold secretElements
    simp [hkey.kind, hsplit, hread, hmode, hderive]
  rw [unprotect, hfamily]
  simp only [helements]

/-- Where the count is not too low, secret elements that are not there are a failure that callers
are told of. -/
theorem isDeclared_of_secretElements {e : UnprotectError} (hfamily : key.family? ≠ none)
    (hcount : ¬ key.Underflows passphrase context)
    (helements : secretElements key passphrase context = .error e) : e.IsDeclared := by
  unfold secretElements at helements
  cases hkind : key.kind with
  | plain =>
    rw [hkind] at helements
    cases helements
  | shadowed =>
    rw [hkind] at helements
    obtain rfl := Except.error.inj helements
    exact .inr rfl
  | guarded =>
    simp only [hkind] at helements
    split at helements
    · obtain rfl := Except.error.inj helements
      exact .inr rfl
    · rename_i before items after hsplit
      obtain ⟨stated, hread, -⟩ | ⟨e', hread, hdeclared⟩ := protection_cases items
      · simp only [hread] at helements
        by_cases hmode : stated.mode ∈ context.modes
        · rw [if_neg (by simpa using hmode)] at helements
          cases passphrase with
          | none =>
            obtain rfl := Except.error.inj helements
            exact .inl rfl
          | some given =>
            obtain ⟨hlow, -⟩ | ⟨-, derived, hderived, -⟩ := S2k.derive_cases
              (salt_append_ne_nil hread given) stated.count context.keyLength
            · exact absurd ⟨hfamily, hkind, nofun, before, items, after, stated, hsplit, hread,
                hmode, hlow⟩ hcount
            · simp only [hderived] at helements
              exact isDeclared_of_decrypt helements
        · rw [if_pos (by simpa using hmode)] at helements
          obtain rfl := Except.error.inj helements
          exact .inr rfl
      · simp only [hread] at helements
        obtain rfl := Except.error.inj helements
        exact hdeclared

/-! ## Outcomes -/

/-- Where the count is not too low, unprotecting a key ends in a way that callers are told of. -/
theorem isDeclared_of_not_underflows (hcount : ¬ key.Underflows passphrase context) :
    IsDeclared (key.unprotect passphrase context) := by
  unfold unprotect
  cases hfamily : key.family? with
  | none => exact .inr ⟨_, rfl, .inr rfl⟩
  | some family =>
    have hknown : key.family? ≠ none := by
      rw [hfamily]
      nofun
    cases helements : secretElements key passphrase context with
    | error e => exact .inr ⟨e, rfl, isDeclared_of_secretElements hknown hcount helements⟩
    | ok elements =>
      obtain ⟨secret, hsecret⟩ | ⟨e, herror, hfault⟩ := acceptSecret_cases key family elements
      · exact .inl ⟨secret, hsecret⟩
      · exact .inr ⟨e, herror, .inr hfault⟩

/-- Every key, with every passphrase or none, is unprotected or fails in one of the two ways that
callers are told of, unless its protection has a count below −96 that a key is to be derived from;
and then it fails with a fault of another kind. What is derived otherwise is a key of the length
that is asked for; and if that is one of AES, then whatever else the protection says, the cipher is
set up with what it accepts, or the key cannot be used. -/
theorem unprotect_isDeclared_iff (key : AgentKey) (passphrase : Option Octets) {context : Context}
    (hlength : context.keyLength ∈ [16, 24, 32]) :
    (IsDeclared (key.unprotect passphrase context) ↔ ¬ key.Underflows passphrase context) ∧
    (key.Underflows passphrase context → ∃ e, key.unprotect passphrase context = .error e ∧
      e.fault = .invalid "negative shift count") ∧
    ∀ items stated before after given derived, protection items = .ok stated →
      S2k.derive given stated.salt stated.count context.keyLength = .ok derived →
      stated.mode.Accepts derived stated.iv stated.ciphertext ∨
        decrypt key.algorithm stated before after derived = .error stated.mode.malformed ∧
          stated.mode.malformed.IsDeclared := by
  refine ⟨⟨fun hdeclared hcount => ?_, isDeclared_of_not_underflows⟩, ?_, ?_⟩
  · rw [hcount.unprotect_eq] at hdeclared
    obtain ⟨secret, hsecret⟩ | ⟨e, herror, he⟩ := hdeclared
    · cases hsecret
    · obtain rfl := Except.error.inj herror
      exact UnprotectError.not_isDeclared_s2k _ he
  · intro hcount
    exact ⟨_, hcount.unprotect_eq, rfl⟩
  · intro items stated before after given derived hread hderived
    have hkey : derived.length ∈ [16, 24, 32] := by
      obtain ⟨-, hnone⟩ | ⟨-, found, hfound, hsize⟩ := S2k.derive_cases
        (salt_append_ne_nil hread given) stated.count context.keyLength
      · rw [hderived] at hnone
        cases hnone
      · obtain rfl : found = derived := Except.ok.inj (hfound.symm.trans hderived)
        rwa [hsize]
    obtain ⟨hiv, hciphertext⟩ | hmalformed :=
      admits_or_malformed key.algorithm derived stated before after
    · exact .inl ⟨hkey, hiv, hciphertext⟩
    · exact .inr ⟨hmalformed, stated.mode.isDeclared_malformed⟩

/-! ## The lowest counts -/

/-- A protection with a count, well formed in all other respects. -/
def countedProtection (count : Int) : Protection where
  mode := .cbc
  salt := Octets.ofText "saltsalt"
  count := count
  iv := Octets.ofText "iviviviviviviviv"
  ciphertext := Octets.ofText "ciphertextcipher"

/-- A key that is protected by it, with the digits of the count. -/
def countedKey (count : Int) (countText : Octets) : AgentKey where
  kind := .guarded
  algorithm := Octets.ofText "ecc"
  elements := [list ((countedProtection count).items countText)]

/-- A key with a count of −97. -/
def lowCountKey : AgentKey := countedKey (-97) (Octets.ofText "-97")

/-- Its file. -/
def lowCountFile : Octets :=
  SExpr.canonical (list [atom lowCountKey.kind.atom,
    list (atom lowCountKey.algorithm :: lowCountKey.elements)])

theorem load_lowCountFile : load lowCountFile = .ok lowCountKey := by
  have hatoms : SExpr.WithinLimit (list [atom lowCountKey.kind.atom,
      list (atom lowCountKey.algorithm :: lowCountKey.elements)]).atoms := by
    unfold SExpr.WithinLimit
    decide +kernel
  have hkind : Kind.ofAtom? lowCountKey.kind.atom = some .guarded := by decide
  rw [load, lowCountFile, SExpr.parseKeyFile_canonical hatoms]
  simp only [ofItems, hkind]
  rfl

theorem family?_countedKey (count : Int) (countText : Octets) :
    (countedKey count countText).family? ≠ none := by
  show Family.ofAtom? (Octets.ofText "ecc") ≠ none
  decide

/-- The protection of a counted key is found and read. -/
theorem protection_countedKey {count : Int} {countText : Octets}
    (hcount : Numeral.int? 10 countText = some count) :
    splitProtection (countedKey count countText).elements
        = some ([], (countedProtection count).items countText, []) ∧
      protection ((countedProtection count).items countText) = .ok (countedProtection count) :=
  ⟨show splitProtection ([] ++ list ((countedProtection count).items countText) :: []) = _ from
      splitProtection_append (List.forall_mem_nil _) rfl,
    protection_items hcount rfl⟩

theorem underflows_lowCountKey (passphrase : Octets) :
    lowCountKey.Underflows (some passphrase) {} where
  family := family?_countedKey _ _
  kind := rfl
  passphrase := nofun
  count := by
    obtain ⟨hsplit, hread⟩ :=
      protection_countedKey (show Numeral.int? 10 (Octets.ofText "-97") = some (-97) from rfl)
    exact ⟨[], _, [], _, hsplit, hread, by decide, by decide⟩

/-- With a count of −96 the cipher is set up, and the answer is one that callers are told of, and
with one less it is not. -/
theorem unprotect_isDeclared_iff_lowest :
    16 ∈ [16, 24, 32] ∧
    IsDeclared ((countedKey (-96) (Octets.ofText "-96")).unprotect (some [0x70]) {}) ∧
    (∃ derived, S2k.derive [0x70] (countedProtection (-96)).salt (-96) 16 = .ok derived ∧
      Mode.cbc.Accepts derived (countedProtection (-96)).iv (countedProtection (-96)).ciphertext) ∧
    ¬ IsDeclared (lowCountKey.unprotect (some [0x70]) {}) ∧
    ∃ e, lowCountKey.unprotect (some [0x70]) {} = .error e ∧
      e.fault = .invalid "negative shift count" := by
  have hlength : ({} : Context).keyLength ∈ [16, 24, 32] := by decide
  obtain ⟨hsplit, hread⟩ :=
    protection_countedKey (show Numeral.int? 10 (Octets.ofText "-96") = some (-96) from rfl)
  obtain ⟨hhigh, -, hcipher⟩ :=
    unprotect_isDeclared_iff (countedKey (-96) (Octets.ofText "-96")) (some [0x70]) hlength
  obtain ⟨hlow, hfault, -⟩ := unprotect_isDeclared_iff lowCountKey (some [0x70]) hlength
  refine ⟨hlength, hhigh.mpr ?_, ?_, fun hdeclared => ?_, hfault (underflows_lowCountKey _)⟩
  · rintro ⟨-, -, -, before, items, after, stated, hfound, hstated, -, hcount⟩
    -- There is one protection only, and its count is −96.
    obtain ⟨-, rfl, -⟩ := Prod.mk.inj (Option.some.inj (hsplit.symm.trans hfound))
    obtain rfl := Except.ok.inj (hread.symm.trans hstated)
    exact absurd hcount (by decide)
  · obtain ⟨hcount, -⟩ | ⟨-, derived, hderived, -⟩ := S2k.derive_cases
      (salt_append_ne_nil hread [0x70]) (-96) ({} : Context).keyLength
    · exact absurd hcount (by decide)
    · refine ⟨derived, hderived, ?_⟩
      obtain haccepts | ⟨hmalformed, -⟩ := hcipher _ _ [] [] _ _ hread hderived
      · exact haccepts
      · have hcbc : decryptCbc (Octets.ofText "ecc") derived (countedProtection (-96)).iv
            (countedProtection (-96)).ciphertext [] [] = .error .malformedCbc := hmalformed
        cases decryptCbc_eq_error rfl ⟨by decide, rfl⟩ hcbc
  · exact hlow.mp hdeclared (underflows_lowCountKey _)

/-- Not every key that can be loaded is unprotected or fails in such a way. -/
theorem not_isDeclared_of_lowCount :
    ¬ ∀ (file : Octets) (key : AgentKey) (passphrase : Option Octets) (context : Context),
      load file = .ok key → context.keyLength ∈ [16, 24, 32] →
        IsDeclared (key.unprotect passphrase context) := by
  intro hall
  obtain ⟨secret, hsecret⟩ | ⟨e, herror, he⟩ :=
    hall lowCountFile _ (some [0x70]) {} load_lowCountFile (by decide)
  · rw [(underflows_lowCountKey [0x70]).unprotect_eq] at hsecret
    cases hsecret
  · rw [(underflows_lowCountKey [0x70]).unprotect_eq] at herror
    obtain rfl := Except.error.inj herror
    exact UnprotectError.not_isDeclared_s2k _ he

end CommitSeal.AgentKey
