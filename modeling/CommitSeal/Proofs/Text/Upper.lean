import CommitSeal.Octets.Basic
import CommitSeal.Text.Upper

/-!
# What upper-case forms are made of

An ASCII character has one ASCII character for its upper-case form (`Text.upperChar_of_ascii`). Of
the others few have any ASCII character in theirs, and then it is one of eleven letters
(`Text.of_mem_upperChar`): no digit, no white space, and no X. The ligature U+FB00 is the only one
of them whose whole form may consist of hexadecimal digits (`Text.eq_ligature_of_le`).

These are facts about the tables of the mapping: the characters with a form of several characters
are checked entry by entry, and the runs by their ends.
-/

namespace CommitSeal

namespace Text

/-! ## ASCII characters -/

/-- What holds of all ASCII characters is checked code by code. -/
theorem forall_ascii {P : Char → Prop} (hcodes : ∀ code < 0x80, P (Char.ofNat code)) {c : Char}
    (hascii : c.toNat < 0x80) : P c := by
  have hc := hcodes c.toNat hascii
  rwa [Char.ofNat_toNat] at hc

/-- No ASCII character has a form of several characters, and of the runs only that of the small
Latin letters has any. -/
theorem upperChar_of_ascii {c : Char} (hascii : c.toNat < 0x80) : upperChar c = [c.toUpper] := by
  have hlookup : upperExpansions.lookup c.toNat = none := by
    have htable : ∀ entry ∈ upperExpansions, 0x80 ≤ entry.1 := by decide +kernel
    rw [List.lookup_eq_none_iff]
    intro entry hentry
    have hentry := htable entry hentry
    simp only [bne_iff_ne, ne_eq]
    omega
  have hothers : upperRuns.tail.find? (fun run => run.holds c.toNat) = none := by
    have htable : ∀ run ∈ upperRuns.tail, 0x80 ≤ run.first := by decide +kernel
    rw [List.find?_eq_none]
    intro run hrun
    have hrun := htable run hrun
    simp only [UpperRun.holds, Bool.and_eq_true, decide_eq_true_eq]
    omega
  have hruns : upperRuns = ⟨0x61, 0x7A, 1, -32⟩ :: upperRuns.tail := rfl
  -- What is left is the run of the small letters.
  have hsmall : ∀ code < 0x80, (if UpperRun.holds ⟨0x61, 0x7A, 1, -32⟩ code
      then [Char.ofNat ((code : Int) + -32).toNat] else [Char.ofNat code])
        = [(Char.ofNat code).toUpper] := by decide +kernel
  have hform := hsmall c.toNat hascii
  rw [Char.ofNat_toNat] at hform
  rw [← hform, upperChar, hlookup, hruns, List.find?_cons, hothers]
  cases UpperRun.holds ⟨0x61, 0x7A, 1, -32⟩ c.toNat <;> rfl

theorem upperChars_of_ascii {text : List Char} (hascii : ∀ c ∈ text, c.toNat < 0x80) :
    upperChars text = text.map Char.toUpper := by
  induction text with
  | nil => rfl
  | cons c text ih =>
    obtain ⟨hfirst, hrest⟩ := List.forall_mem_cons.mp hascii
    rw [upperChars, List.flatMap_cons, upperChar_of_ascii hfirst, ← upperChars, ih hrest]
    rfl

/-! ## Other characters -/

theorem toNat_ofNat {code : Nat} (hvalid : code.isValidChar) : (Char.ofNat code).toNat = code := by
  unfold Char.ofNat
  rw [dif_pos hvalid]
  rfl

/-- Where a run leads: out of ASCII. -/
def UpperRun.LeadsOut (run : UpperRun) : Prop :=
  0x80 ≤ run.first + run.shift ∧ (run.last + run.shift < 0xD800 ∨
    0xDFFF < run.first + run.shift ∧ run.last + run.shift < 0x110000)

instance (run : UpperRun) : Decidable run.LeadsOut := by
  unfold UpperRun.LeadsOut
  infer_instance

/-- A character that is not ASCII, or one of the two letters that the dotless i and the long s have
in upper case. -/
def IsOutside (d : Char) : Prop := 0x80 ≤ d.toNat ∨ d = 'I' ∨ d = 'S'

theorem isOutside_of_run {run : UpperRun} (hrun : run ∈ upperRuns) {code : Nat}
    (hholds : run.holds code = true) (hcode : 0x80 ≤ code) :
    IsOutside (Char.ofNat ((code : Int) + run.shift).toNat) := by
  have hall : ∀ run ∈ upperRuns, run.last < 0x80 ∨ run.LeadsOut ∨
      run.first = run.last ∧ (run.last + run.shift = 0x49 ∨ run.last + run.shift = 0x53) := by
    decide +kernel
  obtain ⟨hfirst, hlast⟩ : run.first ≤ code ∧ code ≤ run.last := by
    unfold UpperRun.holds at hholds
    simp only [Bool.and_eq_true, decide_eq_true_eq] at hholds
    exact hholds.1
  rcases hall run hrun with hascii | ⟨hlow, hvalid⟩ | ⟨hsingle, hletter⟩
  · omega
  · have hform : ((code : Int) + run.shift).toNat.isValidChar := by
      unfold Nat.isValidChar
      omega
    refine .inl ?_
    rw [toNat_ofNat hform]
    omega
  · have hform : (code : Int) + run.shift = run.last + run.shift := by omega
    rcases hletter with hletter | hletter
    · exact .inr (.inl (by rw [hform, hletter]; rfl))
    · exact .inr (.inr (by rw [hform, hletter]; rfl))

/-- The upper-case form of a character that is not ASCII is in the table of the forms with several
characters, or is one character, which is not ASCII either but for two letters. -/
theorem upperChar_cases {c : Char} (hcode : 0x80 ≤ c.toNat) :
    (∃ codes, (c.toNat, codes) ∈ upperExpansions ∧ upperChar c = codes.map Char.ofNat) ∨
      ∃ d, upperChar c = [d] ∧ IsOutside d := by
  unfold upperChar
  split
  · rename_i codes hlookup
    obtain ⟨front, behind, htable, -⟩ := List.lookup_eq_some_iff.mp hlookup
    refine .inl ⟨codes, ?_, rfl⟩
    rw [htable]
    exact List.mem_append_right _ List.mem_cons_self
  · split
    · rename_i run hfind
      have hholds : run.holds c.toNat = true :=
        List.find?_some (p := fun run : UpperRun => run.holds c.toNat) hfind
      exact .inr ⟨_, rfl, isOutside_of_run (List.mem_of_find?_eq_some hfind) hholds hcode⟩
    · exact .inr ⟨c, rfl, .inl hcode⟩

/-- The ASCII letters that the upper-case forms of other characters have. -/
def strayLetters : List Char := ['A', 'F', 'H', 'I', 'J', 'L', 'N', 'S', 'T', 'W', 'Y']

/-- The form of a character that is not ASCII has no ASCII characters but some letters. -/
theorem of_mem_upperChar {c d : Char} (hcode : 0x80 ≤ c.toNat) (hmem : d ∈ upperChar c) :
    0x80 ≤ d.toNat ∨ d ∈ strayLetters := by
  rcases upperChar_cases hcode with ⟨codes, hlisted, hform⟩ | ⟨d', hform, hd⟩
  · have hall : ∀ entry ∈ upperExpansions, ∀ code ∈ entry.2,
        0x80 ≤ (Char.ofNat code).toNat ∨ Char.ofNat code ∈ strayLetters := by decide +kernel
    rw [hform] at hmem
    obtain ⟨code, hcodes, rfl⟩ := List.mem_map.mp hmem
    exact hall _ hlisted code hcodes
  · rw [hform] at hmem
    obtain rfl := List.mem_singleton.mp hmem
    rcases hd with hd | rfl | rfl
    · exact .inl hd
    · exact .inr (by decide)
    · exact .inr (by decide)

/-- An ASCII character that is none of those letters comes from an ASCII character only. -/
theorem of_mem_upperChar_of_ascii {c d : Char} (hascii : d.toNat < 0x80) (hstray : d ∉ strayLetters)
    (hmem : d ∈ upperChar c) : c.toNat < 0x80 ∧ c.toUpper = d := by
  rcases Nat.lt_or_ge c.toNat 0x80 with hc | hcode
  · rw [upperChar_of_ascii hc] at hmem
    exact ⟨hc, (List.mem_singleton.mp hmem).symm⟩
  · rcases of_mem_upperChar hcode hmem with hd | hd
    · omega
    · exact absurd hd hstray

theorem upperChar_ne_nil (c : Char) : upperChar c ≠ [] := by
  rcases Nat.lt_or_ge c.toNat 0x80 with hascii | hcode
  · rw [upperChar_of_ascii hascii]
    exact List.cons_ne_nil _ _
  · rcases upperChar_cases hcode with ⟨codes, hlisted, hform⟩ | ⟨d, hform, -⟩
    · have hall : ∀ entry ∈ upperExpansions, entry.2 ≠ [] := by decide +kernel
      rw [hform]
      exact fun hnil => hall _ hlisted (List.map_eq_nil_iff.mp hnil)
    · rw [hform]
      exact List.cons_ne_nil _ _

/-! ## Hexadecimal digits -/

/-- The ligature of two small letters f. -/
def ligature : Char := Char.ofNat 0xFB00

@[simp]
theorem upperChar_ligature : upperChar ligature = ['F', 'F'] := by decide +kernel

/-- The ligature is the only character outside ASCII whose form has nothing beyond the letter F. -/
theorem eq_ligature_of_le {c : Char} (hcode : 0x80 ≤ c.toNat)
    (hform : ∀ d ∈ upperChar c, d.toNat ≤ 0x46) : c = ligature := by
  rcases upperChar_cases hcode with ⟨codes, hlisted, hcodes⟩ | ⟨d, hd, houtside⟩
  · have hall : ∀ entry ∈ upperExpansions, (∀ code ∈ entry.2, (Char.ofNat code).toNat ≤ 0x46) →
        entry.1 = 0xFB00 := by decide +kernel
    have hligature : c.toNat = 0xFB00 := by
      apply hall _ hlisted
      intro code hcode
      apply hform
      rw [hcodes]
      exact List.mem_map_of_mem hcode
    rw [ligature, ← hligature, Char.ofNat_toNat]
  · have hle := hform d (by rw [hd]; exact List.mem_singleton_self d)
    rcases houtside with houtside | rfl | rfl
    · omega
    · exact absurd hle (by decide)
    · exact absurd hle (by decide)

end Text

/-! ## Octets in hexadecimal digits -/

namespace Octets

/-- Hexadecimal digits of either case have those of upper case for their upper-case form. -/
theorem upperChars_digits {digit : Nat → Char}
    (hdigit : ∀ value < 16, (digit value).toNat < 0x80 ∧
      (digit value).toUpper = upperHexDigit value) (octets : Octets) :
    Text.upperChars (octets.flatMap fun octet =>
        [digit (octet.toNat / 16), digit (octet.toNat % 16)]) = upperHexChars octets := by
  have hform : ∀ value < 16, Text.upperChar (digit value) = [upperHexDigit value] := by
    intro value hvalue
    rw [Text.upperChar_of_ascii (hdigit value hvalue).1, (hdigit value hvalue).2]
  induction octets with
  | nil => rfl
  | cons octet octets ih =>
    have hbound := octet.toNat_lt
    unfold Text.upperChars at ih ⊢
    simp only [List.flatMap_cons, List.flatMap_append, List.flatMap_nil, List.append_nil,
      hform (octet.toNat / 16) (by omega), hform (octet.toNat % 16) (by omega), ih]
    rfl

theorem upperChars_hexChars (octets : Octets) :
    Text.upperChars (hexChars octets) = upperHexChars octets :=
  upperChars_digits (by decide) octets

theorem upperChars_upperHexChars (octets : Octets) :
    Text.upperChars (upperHexChars octets) = upperHexChars octets :=
  upperChars_digits (by decide) octets

end Octets

end CommitSeal
