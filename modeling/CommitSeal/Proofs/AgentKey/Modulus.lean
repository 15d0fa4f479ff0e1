import CommitSeal.Proofs.AgentKey.Binding
import CommitSeal.Proofs.AgentKey.Matching

/-!
# The factors of an unprotected RSA key

The modulus that a key file states is compared twice: with that of a public key when the file is
matched to it, and with the product of the secret factors when the key is unprotected. Both times
the first entry of the clear elements counts, so that the factors multiply to the modulus of the
public key (`AgentKey.factors_of_fits`), wherever the secret elements come from: the file itself, or
a payload in either mode.
-/

namespace CommitSeal.AgentKey

open SExpr (atom list)

/-! ## The modulus of a file -/

/-- A key that fits a public key states a number for each of its numbers, and the same. -/
theorem firstEntry_of_fits {key : AgentKey} {publicKey : PublicKey}
    (hfits : key.fits publicKey = true) {field : KeyField} {number : Octets}
    (hnumber : (field, number) ∈ publicKey.fields) (hfield : field.isPrefixed = false) :
    ∃ stored, FirstEntry key.elements field stored ∧
      Octets.toNat stored = Octets.toNat number := by
  have hall := List.all_eq_true.mp (Bool.and_eq_true_iff.mp hfits).2 (field, number) hnumber
  exact stated?_eq_some_iff.mp (fieldMatches_iff.mp hall hfield)

/-- A key that fits a public key is of the same family. -/
theorem family?_of_fits {key : AgentKey} {publicKey : PublicKey}
    (hfits : key.fits publicKey = true) :
    key.family? = some (Family.ofKeyFamily publicKey.family) :=
  beq_iff_eq.mp (Bool.and_eq_true_iff.mp hfits).1

/-! ## The factors -/

/-- The factors of an unprotected RSA key multiply to the modulus that its file states. -/
theorem mul_factors_of_unprotect {key : AgentKey} {passphrase : Option Octets} {context : Context}
    {secret : List (String × Octets)} {stored : Octets} (hfamily : key.family? = some .rsa)
    (hstored : FirstEntry key.elements .n stored)
    (hsecret : key.unprotect passphrase context = .ok secret) :
    ∃ elements p q, secretElements key passphrase context = .ok elements ∧
      LastEntry elements .p p ∧ LastEntry elements .q q ∧
      secret.lookup KeyField.p.name = some p ∧ secret.lookup KeyField.q.name = some q ∧
      Octets.toNat p * Octets.toNat q = Octets.toNat stored := by
  obtain ⟨family, elements, hsome, helements, hcollect, hconsistent⟩ := unprotect_eq_ok hsecret
  obtain rfl : family = .rsa := Option.some.inj (hsome.symm.trans hfamily)
  obtain ⟨p, hp, hlastP⟩ := lastEntry_of_collectSecret hcollect
    (show KeyField.p ∈ Family.rsa.secretFields by decide)
  obtain ⟨q, hq, hlastQ⟩ := lastEntry_of_collectSecret hcollect
    (show KeyField.q ∈ Family.rsa.secretFields by decide)
  refine ⟨elements, p, q, helements, hlastP, hlastQ, hp, hq, ?_⟩
  -- The numbers that are multiplied are those of the values that are returned.
  have hmodulus : key.parameters.lookup "n" = some stored := (lookup_clear key).mpr hstored
  have hnumberP : numberOf "p" secret = Octets.toNat p := by
    rw [numberOf, show secret.lookup "p" = some p from hp, Option.getD_some]
  have hnumberQ : numberOf "q" secret = Octets.toNat q := by
    rw [numberOf, show secret.lookup "q" = some q from hq, Option.getD_some]
  unfold consistent at hconsistent
  simp only [hmodulus, hnumberP, hnumberQ, beq_iff_eq] at hconsistent
  exact hconsistent

/-- An RSA key that fits a public key and is unprotected, with or without a passphrase, belongs to
it: its secret factors, the last ones among the secret elements, multiply to the modulus of the
public key. -/
theorem factors_of_fits {key : AgentKey} {publicKey : PublicKey} {modulus : Octets}
    {passphrase : Option Octets} {context : Context} {secret : List (String × Octets)}
    (hfamily : publicKey.family = .rsa) (hmodulus : (.n, modulus) ∈ publicKey.fields)
    (hfits : key.fits publicKey = true)
    (hsecret : key.unprotect passphrase context = .ok secret) :
    ∃ elements p q, secretElements key passphrase context = .ok elements ∧
      LastEntry elements .p p ∧ LastEntry elements .q q ∧
      secret.lookup KeyField.p.name = some p ∧ secret.lookup KeyField.q.name = some q ∧
      Octets.toNat p * Octets.toNat q = Octets.toNat modulus := by
  obtain ⟨stored, hstored, hsame⟩ := firstEntry_of_fits hfits hmodulus rfl
  have hrsa := family?_of_fits hfits
  rw [hfamily] at hrsa
  rw [← hsame]
  exact mul_factors_of_unprotect hrsa hstored hsecret

/-! ## A small key in the clear and under protection -/

/-- The public half of the small key. -/
def smallPublicKey : PublicKey where
  created := 0
  algorithm := 1
  family := .rsa
  fields := [(.n, [6]), (.e, [5])]
  body := []

/-- The small key in the clear, with two entries for the modulus and for one of its factors. -/
def smallPlainKey : AgentKey where
  kind := .plain
  algorithm := Octets.ofText "rsa"
  elements := [entry .q [3], entry .p [9], entry .n [0, 6], entry .e [5], entry .d [1],
    entry .n [7], entry .p [2], entry .u [2]]

/-- The factors are 2 and 3 in the clear as well as under protection in either mode, though other
entries say 7 for the modulus and 9 for a factor. -/
theorem factors_of_fits_small :
    (smallPublicKey.family = .rsa ∧ (.n, [6]) ∈ smallPublicKey.fields) ∧
    (smallPlainKey.fits smallPublicKey = true ∧
      smallPlainKey.unprotect none {} = .ok smallSecret ∧
      ∃ p q, smallSecret.lookup "p" = some p ∧ smallSecret.lookup "q" = some q ∧
        Octets.toNat p * Octets.toNat q = Octets.toNat [6]) ∧
    ∀ mode ∈ [Mode.cbc, Mode.ocb], ∃ derived,
      ((smallDraft mode).protectedKey derived).fits smallPublicKey = true ∧
      ((smallDraft mode).protectedKey derived).unprotect (some [0x70]) {} = .ok smallSecret ∧
      ∃ p q, smallSecret.lookup "p" = some p ∧ smallSecret.lookup "q" = some q ∧
        Octets.toNat p * Octets.toNat q = Octets.toNat [6] := by
  have hmodulus : (KeyField.n, [6]) ∈ smallPublicKey.fields := List.mem_cons_self
  refine ⟨⟨rfl, hmodulus⟩, ?_, ?_⟩
  · have hfits : smallPlainKey.fits smallPublicKey = true := by decide +kernel
    have hsecret : smallPlainKey.unprotect none {} = .ok smallSecret := rfl
    obtain ⟨-, p, q, -, -, -, hp, hq, hproduct⟩ := factors_of_fits rfl hmodulus hfits hsecret
    exact ⟨hfits, hsecret, p, q, hp, hq, hproduct⟩
  · intro mode _
    have hsound := sound_smallDraft mode
    obtain ⟨derived, hderives⟩ := exists_derive [0x70] hsound.salt (smallDraft mode).count 16
    have hsupported : mode ∈ ({} : Context).modes := by cases mode <;> decide
    have hfits : ((smallDraft mode).protectedKey derived).fits smallPublicKey = true := rfl
    have hsecret : ((smallDraft mode).protectedKey derived).unprotect (some [0x70]) {}
        = .ok smallSecret := hsound.unprotect_eq hsupported hderives
    obtain ⟨-, p, q, -, -, -, hp, hq, hproduct⟩ := factors_of_fits rfl hmodulus hfits hsecret
    exact ⟨derived, hfits, hsecret, p, q, hp, hq, hproduct⟩

end CommitSeal.AgentKey
