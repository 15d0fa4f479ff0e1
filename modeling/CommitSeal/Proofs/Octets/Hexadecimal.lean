import CommitSeal.Octets.Basic

/-!
# Octets as hexadecimal digits

An octet has two digits, and any two digits are those of one octet. Octets are so determined by
their digits (`Octets.upperHexChars_injective`), and digits of an even count are those of octets
(`Octets.exists_upperHexChars`).
-/

namespace CommitSeal.Octets

@[simp]
theorem length_upperHexChars (octets : Octets) :
    (upperHexChars octets).length = 2 * octets.length := by
  induction octets with
  | nil => rfl
  | cons octet octets ih =>
    unfold upperHexChars at ih ⊢
    rw [List.flatMap_cons, List.length_append, ih, List.length_cons]
    simp only [List.length_cons, List.length_nil]
    omega

/-- The value of a digit is told by the digit. -/
theorem upperHexDigit_inj {value other : Nat} (hvalue : value < 16) (hother : other < 16)
    (hdigit : upperHexDigit value = upperHexDigit other) : value = other := by
  have hall : ∀ value < 16, ∀ other < 16,
      upperHexDigit value = upperHexDigit other → value = other := by decide
  exact hall value hvalue other hother hdigit

theorem upperHexChars_injective : Function.Injective upperHexChars := by
  intro octets
  induction octets with
  | nil =>
    intro others hdigits
    cases others with
    | nil => rfl
    | cons other others => cases hdigits
  | cons octet octets ih =>
    intro others hdigits
    cases others with
    | nil => cases hdigits
    | cons other others =>
      obtain ⟨hhigh, hrest⟩ := List.cons.inj hdigits
      obtain ⟨hlow, hrest⟩ := List.cons.inj hrest
      have hbound := octet.toNat_lt
      have hbound' := other.toNat_lt
      have hhigh := upperHexDigit_inj (by omega) (by omega) hhigh
      have hlow := upperHexDigit_inj (by omega) (by omega) hlow
      have hoctet : octet = other := UInt8.toNat_inj.mp (by omega)
      rw [hoctet, ih hrest]

/-- Digits of an even count are those of half as many octets. -/
theorem exists_upperHexChars {digits : List Char} {count : Nat}
    (hdigits : ∀ c ∈ digits, ∃ value < 16, upperHexDigit value = c)
    (hlength : digits.length = 2 * count) :
    ∃ octets : Octets, octets.length = count ∧ upperHexChars octets = digits := by
  induction count generalizing digits with
  | zero => exact ⟨[], rfl, (List.length_eq_zero_iff.mp hlength).symm⟩
  | succ count ih =>
    match digits, hlength with
    | first :: second :: digits, hlength =>
      obtain ⟨hfirst, hothers⟩ := List.forall_mem_cons.mp hdigits
      obtain ⟨hsecond, hrest⟩ := List.forall_mem_cons.mp hothers
      obtain ⟨high, hhigh, rfl⟩ := hfirst
      obtain ⟨low, hlow, rfl⟩ := hsecond
      obtain ⟨octets, rfl, rfl⟩ := ih hrest (by simp only [List.length_cons] at hlength; omega)
      have hoctet : (UInt8.ofNat (16 * high + low)).toNat = 16 * high + low := by
        rw [UInt8.toNat_ofNat']
        omega
      have hdiv : (16 * high + low) / 16 = high := by omega
      have hmod : (16 * high + low) % 16 = low := by omega
      refine ⟨UInt8.ofNat (16 * high + low) :: octets, rfl, ?_⟩
      rw [upperHexChars, List.flatMap_cons, hoctet, hdiv, hmod]
      rfl

end CommitSeal.Octets
