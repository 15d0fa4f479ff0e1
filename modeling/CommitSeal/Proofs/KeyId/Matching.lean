import CommitSeal.Proofs.KeyId.Spelling
import CommitSeal.Proofs.Octets.Hexadecimal
import Mathlib.Data.List.Forall2

/-!
# How identifiers are written, and what they match

The digits of an identifier may be written in letters of either case, with the mark of hexadecimal
numbers in front, with spaces anywhere, and with white space around all of it (`KeyId.Writes`). All
of these texts are read as the same identifier, its digits in upper case, and so are these digits
themselves.

A fingerprint is matched by its octets or by its digits in either case, with one answer: whether its
digits end with those of the identifier. So an identifier that another one ends with matches all
that the other one matches, and an identifier of 40 digits matches the octets that these are the
digits of, and no other octets of that count (`KeyId.normalizes_and_matches`).
-/

namespace CommitSeal.KeyId

/-! ## Texts for digits -/

/-- A text with spaces put in anywhere. -/
inductive Spaced : List Char → List Char → Prop where
  | nil : Spaced [] []
  | char (c : Char) {text spaced : List Char} :
      Spaced text spaced → Spaced (c :: text) (c :: spaced)
  | space {text spaced : List Char} : Spaced text spaced → Spaced text (' ' :: spaced)

/-- A letter of either case for a letter; all else stays. -/
def SameLetter (c d : Char) : Prop := d = c.toUpper ∨ d = c.toLower

/-- The marks of hexadecimal numbers, and none. -/
def marks : List (List Char) := [[], ['0', 'x'], ['0', 'X']]

/-- A way to write digits: their letters in either case, a mark in front or none, spaces anywhere,
and white space around all of it. -/
def Writes (digits text : List Char) : Prop :=
  ∃ cased mark spaced front behind, List.Forall₂ SameLetter digits cased ∧ mark ∈ marks ∧
    Spaced (mark ++ cased) spaced ∧ (∀ c ∈ front, Text.isBlank c = true) ∧
    (∀ c ∈ behind, Text.isBlank c = true) ∧ text = front ++ spaced ++ behind

theorem Spaced.refl (text : List Char) : Spaced text text := by
  induction text with
  | nil => exact .nil
  | cons c text ih => exact ih.char c

theorem spaced_filter (text : List Char) : Spaced (text.filter fun c => c != ' ') text := by
  induction text with
  | nil => exact .nil
  | cons c text ih =>
    by_cases hspace : c = ' '
    · rw [List.filter_cons_of_neg (by simpa using hspace), hspace]
      exact ih.space
    · rw [List.filter_cons_of_pos (by simpa using hspace)]
      exact ih.char c

variable {text spaced : List Char}

theorem Spaced.filter (hspaced : Spaced text spaced) (hnone : ' ' ∉ text) :
    (spaced.filter fun c => c != ' ') = text := by
  induction hspaced with
  | nil => rfl
  | char c _ ih =>
    have hfirst : c ≠ ' ' := fun h => hnone (h ▸ List.mem_cons_self)
    rw [List.filter_cons_of_pos (by simpa using hfirst),
      ih fun h => hnone (List.mem_cons_of_mem _ h)]
  | space _ ih =>
    rw [List.filter_cons_of_neg (by simp)]
    exact ih hnone

/-- Only spaces are put in. -/
theorem Spaced.mem (hspaced : Spaced text spaced) {c : Char} (hc : c ∈ spaced) :
    c ∈ text ∨ c = ' ' := by
  induction hspaced with
  | nil => exact .inl hc
  | char d _ ih =>
    rcases List.mem_cons.mp hc with rfl | hc
    · exact .inl List.mem_cons_self
    · exact (ih hc).imp_left (List.mem_cons_of_mem _)
  | space _ ih =>
    rcases List.mem_cons.mp hc with rfl | hc
    · exact .inr rfl
    · exact ih hc

/-! ## Reading what is written -/

/-- White space that is taken off leaves the other characters, if it is all spaces. -/
theorem filter_stripChars (hblank : ∀ c ∈ text, Text.isBlank c = true → c = ' ') :
    ((Text.stripChars text).filter fun c => c != ' ') = text.filter fun c => c != ' ' := by
  obtain ⟨front, behind, htext, hfront, hbehind⟩ := Text.exists_stripChars text
  have hnone : ∀ ends : List Char, (∀ c ∈ ends, c ∈ text) →
      (∀ c ∈ ends, Text.isBlank c = true) → (ends.filter fun c => c != ' ') = [] := by
    intro ends hsub hends
    rw [List.filter_eq_nil_iff]
    intro c hc
    simpa using hblank c (hsub c hc) (hends c hc)
  have hfront' : ∀ c ∈ front, c ∈ text := by
    intro c hc
    rw [htext]
    exact List.mem_append_left _ (List.mem_append_left _ hc)
  have hbehind' : ∀ c ∈ behind, c ∈ text := by
    intro c hc
    rw [htext]
    exact List.mem_append_right _ hc
  have hparts := congrArg (List.filter fun c => c != ' ') htext
  rw [List.filter_append, List.filter_append, hnone front hfront' hfront,
    hnone behind hbehind' hbehind, List.nil_append, List.append_nil] at hparts
  exact hparts.symm

theorem dropAnyMark_append {mark digits : List Char} (hmark : mark ∈ marks)
    (hdigits : ∀ c ∈ digits, c ∈ hexDigits) : dropAnyMark (mark ++ digits) = digits := by
  simp only [marks, List.mem_cons, List.not_mem_nil, or_false] at hmark
  rcases hmark with rfl | rfl | rfl
  · rw [List.nil_append]
    unfold dropAnyMark
    -- No digit is the letter of the mark.
    split
    · exact absurd (hdigits 'x' (by simp)) (by decide)
    · exact absurd (hdigits 'X' (by simp)) (by decide)
    · rfl
  · rfl
  · rfl

theorem sameLetter_hexDigits {c d : Char} (hsame : SameLetter c d) (hc : c ∈ hexDigits) :
    d ∈ hexDigits ∧ d.toUpper = c.toUpper := by
  rcases hsame with rfl | rfl
  · exact of_mem_hexDigits (P := fun c => c.toUpper ∈ hexDigits ∧ c.toUpper.toUpper = c.toUpper)
      (by decide) hc
  · exact of_mem_hexDigits (P := fun c => c.toLower ∈ hexDigits ∧ c.toLower.toUpper = c.toUpper)
      (by decide) hc

theorem forall₂_hexDigits {digits cased : List Char} (hcased : List.Forall₂ SameLetter digits cased)
    (hdigits : ∀ c ∈ digits, c ∈ hexDigits) :
    (∀ c ∈ cased, c ∈ hexDigits) ∧ cased.map Char.toUpper = digits.map Char.toUpper := by
  induction hcased with
  | nil => exact ⟨nofun, rfl⟩
  | cons hsame _ ih =>
    obtain ⟨hfirst, hrest⟩ := List.forall_mem_cons.mp hdigits
    obtain ⟨hhex, hupper⟩ := sameLetter_hexDigits hsame hfirst
    obtain ⟨hothers, huppers⟩ := ih hrest
    exact ⟨List.forall_mem_cons.mpr ⟨hhex, hothers⟩, by rw [List.map_cons, hupper, huppers,
      List.map_cons]⟩

/-- However digits are written, the normal form is that of their upper case. -/
theorem normalize_of_writes {digits : List Char} (hdigits : ∀ c ∈ digits, c ∈ hexDigits)
    (hwrites : Writes digits text) : normalize text = digits.map Char.toUpper := by
  obtain ⟨cased, mark, spaced, front, behind, hcased, hmark, hspaced, hfront, hbehind, rfl⟩ :=
    hwrites
  obtain ⟨hhex, hupper⟩ := forall₂_hexDigits hcased hdigits
  have hsolid : ∀ c ∈ mark ++ cased, Text.isBlank c = false := by
    have hmarks : ∀ mark ∈ marks, mark.all (fun c => Text.isBlank c == false) = true := by decide
    intro c hc
    rcases List.mem_append.mp hc with hc | hc
    · exact beq_iff_eq.mp (List.all_eq_true.mp (hmarks mark hmark) c hc)
    · exact of_mem_hexDigits (P := fun c => Text.isBlank c = false) (by decide) (hhex c hc)
  have hblank : ∀ c ∈ spaced, Text.isBlank c = true → c = ' ' := by
    intro c hc hblank
    refine (hspaced.mem hc).resolve_left fun hc => ?_
    rw [hsolid c hc] at hblank
    cases hblank
  have hnone : ' ' ∉ mark ++ cased := by
    intro hspace
    exact absurd (hsolid ' ' hspace) (by decide)
  have hcore : core (front ++ spaced ++ behind) = cased := by
    rw [core, Text.stripChars_surrounded hfront hbehind, filter_stripChars hblank,
      hspaced.filter hnone, dropAnyMark_append hmark hhex]
  rw [normalize_eq, hcore, Text.upperChars_of_ascii fun c hc => ascii_of_mem_hexDigits (hhex c hc),
    hupper]

/-- However 16 to 40 digits are written, they are read as those of upper case. -/
theorem parse_of_writes {digits : List Char} (hmin : 16 ≤ digits.length)
    (hmax : digits.length ≤ 40) (hdigits : ∀ c ∈ digits, c ∈ hexDigits)
    (hwrites : Writes digits text) :
    ∃ id, parse (String.ofList text) = .ok id ∧ id.digits = digits.map Char.toUpper := by
  have hupper : ∀ c ∈ digits.map Char.toUpper, isDigit c = true := by
    intro c hc
    obtain ⟨d, hd, rfl⟩ := List.mem_map.mp hc
    exact of_mem_hexDigits (P := fun c => isDigit c.toUpper = true) (by decide) (hdigits d hd)
  refine ⟨⟨digits.map Char.toUpper, by simpa using hmin, by simpa using hmax, hupper⟩, ?_, rfl⟩
  rw [parse_eq_ok_iff, String.toList_ofList]
  exact normalize_of_writes hdigits hwrites

/-- The digits of an identifier are a way to write them. -/
theorem writes_digits (id : KeyId) : Writes id.digits id.digits := by
  have hsame : ∀ c ∈ id.digits, SameLetter c c := by
    intro c hc
    exact .inl (of_isDigit (P := fun c => c = c.toUpper) (by decide) (id.allDigits c hc))
  exact ⟨id.digits, [], id.digits, [], [], List.forall₂_same.mpr hsame, List.mem_cons_self,
    .refl id.digits, nofun, nofun, by simp⟩

/-- An identifier is read back from its digits. -/
theorem parse_text (id : KeyId) : parse id.text = .ok id := by
  have hdigits : ∀ c ∈ id.digits, c ∈ hexDigits ∧ c.toUpper = c := by
    intro c hc
    exact of_isDigit (P := fun c => c ∈ hexDigits ∧ c.toUpper = c) (by decide) (id.allDigits c hc)
  have hupper : id.digits.map Char.toUpper = id.digits := by
    rw [List.map_congr_left fun c hc => (hdigits c hc).2, List.map_id']
  rw [parse_eq_ok_iff, text, String.toList_ofList,
    normalize_of_writes (fun c hc => (hdigits c hc).1) (writes_digits id), hupper]

/-! ## Matching -/

theorem fits_iff (id : KeyId) (fingerprint : Octets) :
    id.fits fingerprint = true ↔ id.digits <:+ Octets.upperHexChars fingerprint :=
  List.isSuffixOf_iff_suffix

theorem matchesText_iff (id : KeyId) (fingerprint : String) :
    id.matchesText fingerprint = true ↔ id.digits <:+ Text.upperChars fingerprint.toList :=
  List.isSuffixOf_iff_suffix

/-- A fingerprint is matched by its digits of lower case as it is by its octets. -/
theorem matchesText_hex (id : KeyId) (fingerprint : Octets) :
    id.matchesText (Octets.hex fingerprint) = id.fits fingerprint := by
  rw [matchesText, Octets.hex, String.toList_ofList, Octets.upperChars_hexChars, fits]

theorem matchesText_upperHex (id : KeyId) (fingerprint : Octets) :
    id.matchesText (Octets.upperHex fingerprint) = id.fits fingerprint := by
  rw [matchesText, Octets.upperHex, String.toList_ofList, Octets.upperChars_upperHexChars, fits]

/-- The digits of an identifier are those of octets, if they are of an even count. -/
theorem exists_fits_of_length {id : KeyId} {count : Nat} (hlength : id.digits.length = 2 * count) :
    ∃ fingerprint : Octets, fingerprint.length = count ∧ id.fits fingerprint = true := by
  have hvalues : ∀ c ∈ id.digits, ∃ value < 16, Octets.upperHexDigit value = c := by
    intro c hc
    exact of_isDigit (P := fun c => ∃ value < 16, Octets.upperHexDigit value = c) (by decide)
      (id.allDigits c hc)
  obtain ⟨fingerprint, hcount, hdigits⟩ := Octets.exists_upperHexChars hvalues hlength
  exact ⟨fingerprint, hcount, (fits_iff id fingerprint).mpr (hdigits ▸ List.suffix_rfl)⟩

/-- An identifier with all digits of a fingerprint matches no other one of that length. -/
theorem eq_of_fits {id : KeyId} {fingerprint other : Octets}
    (hlength : id.digits.length = 2 * fingerprint.length)
    (hlength' : id.digits.length = 2 * other.length) (hfits : id.fits fingerprint = true)
    (hfits' : id.fits other = true) : fingerprint = other := by
  have hdigits : id.digits = Octets.upperHexChars fingerprint := by
    apply ((fits_iff id fingerprint).mp hfits).eq_of_length
    rw [hlength, Octets.length_upperHexChars]
  have hdigits' : id.digits = Octets.upperHexChars other := by
    apply ((fits_iff id other).mp hfits').eq_of_length
    rw [hlength', Octets.length_upperHexChars]
  exact Octets.upperHexChars_injective (hdigits.symm.trans hdigits')

/-- However the digits of an identifier are written, they are read as those of upper case, and what
is read is read again from its digits. A fingerprint and its digits in either case are matched
alike, where the digits of upper case end with those of the identifier. An identifier at the end of
another one matches all that the other one matches. One of 40 digits matches exactly one fingerprint
of 20 octets. -/
theorem normalizes_and_matches :
    (∀ digits text, 16 ≤ digits.length → digits.length ≤ 40 → (∀ c ∈ digits, c ∈ hexDigits) →
      Writes digits text →
      ∃ id, parse (String.ofList text) = .ok id ∧ id.digits = digits.map Char.toUpper) ∧
    (∀ text id, parse text = .ok id → parse id.text = .ok id) ∧
    (∀ (id : KeyId) (fingerprint : Octets),
      id.fits fingerprint = id.matchesText (Octets.hex fingerprint) ∧
      id.fits fingerprint = id.matchesText (Octets.upperHex fingerprint) ∧
      (id.fits fingerprint = true ↔ id.digits <:+ Octets.upperHexChars fingerprint)) ∧
    (∀ id other : KeyId, id.digits <:+ other.digits →
      (∀ fingerprint : Octets, other.fits fingerprint = true → id.fits fingerprint = true) ∧
      ∀ fingerprint : String, other.matchesText fingerprint = true →
        id.matchesText fingerprint = true) ∧
    ∀ id : KeyId, id.digits.length = 40 →
      ∃! fingerprint : Octets, fingerprint.length = 20 ∧ id.fits fingerprint = true := by
  refine ⟨fun digits text hmin hmax hdigits hwrites => parse_of_writes hmin hmax hdigits hwrites,
    fun _ id _ => parse_text id, fun id fingerprint => ⟨(matchesText_hex id fingerprint).symm,
      (matchesText_upperHex id fingerprint).symm, fits_iff id fingerprint⟩, ?_, ?_⟩
  · intro id other hsuffix
    refine ⟨fun fingerprint hfits => ?_, fun fingerprint hmatches => ?_⟩
    · exact (fits_iff id fingerprint).mpr (hsuffix.trans ((fits_iff other fingerprint).mp hfits))
    · exact (matchesText_iff id fingerprint).mpr
        (hsuffix.trans ((matchesText_iff other fingerprint).mp hmatches))
  · intro id hlength
    have heven : id.digits.length = 2 * 20 := hlength
    obtain ⟨fingerprint, hcount, hfits⟩ := exists_fits_of_length heven
    refine ⟨fingerprint, ⟨hcount, hfits⟩, ?_⟩
    rintro other ⟨hcount', hfits'⟩
    exact eq_of_fits (by omega) (by omega) hfits' hfits

/-- An identifier of 40 digits. -/
def longId : KeyId :=
  ⟨List.replicate 39 'A' ++ ['7'], by decide, by decide, List.all_eq_true.mp (by decide)⟩

/-- An identifier of the last 17 of these digits, which start within an octet. -/
def shortId : KeyId :=
  ⟨List.replicate 16 'A' ++ ['7'], by decide, by decide, List.all_eq_true.mp (by decide)⟩

/-- The digits of the longer one in lower case. -/
def longDigits : List Char := List.replicate 39 'a' ++ ['7']

/-- These digits in letters of both cases. -/
def longCased : List Char := 'a' :: List.replicate 38 'A' ++ ['7']

/-- These with a mark in front, and spaces also inside the mark. -/
def longSpaced : List Char := ['0', ' ', 'X', 'a', ' ', ' '] ++ List.replicate 38 'A' ++ ['7', ' ']

/-- A text for the digits: these with white space around them. -/
def longText : List Char := ['\t'] ++ longSpaced ++ ['\n', Char.ofNat 0x2003]

theorem writes_longText : Writes longDigits longText := by
  have hletters : ∀ pair ∈ longDigits.zip longCased,
      pair.2 = pair.1.toUpper ∨ pair.2 = pair.1.toLower := by decide
  have hspaces : (longSpaced.filter fun c => c != ' ') = ['0', 'X'] ++ longCased := by decide
  exact ⟨longCased, ['0', 'X'], longSpaced, ['\t'], ['\n', Char.ofNat 0x2003],
    List.forall₂_iff_zip.mpr ⟨by decide, fun hmem => hletters _ hmem⟩, by decide,
    hspaces ▸ spaced_filter longSpaced, List.all_eq_true.mp (by decide),
    List.all_eq_true.mp (by decide), rfl⟩

theorem normalizes_and_matches_forty :
    (Writes longDigits longText ∧ ∃ id, parse (String.ofList longText) = .ok id ∧
      id.digits = longDigits.map Char.toUpper) ∧
    (parse (String.ofList longText) = .ok longId ∧ parse longId.text = .ok longId) ∧
    (shortId.digits <:+ longId.digits ∧
      ∀ fingerprint : Octets, longId.fits fingerprint = true → shortId.fits fingerprint = true) ∧
    longId.digits.length = 40 ∧
      ∃! fingerprint : Octets, fingerprint.length = 20 ∧ longId.fits fingerprint = true := by
  obtain ⟨hreads, hagain, -, hends, hone⟩ := normalizes_and_matches
  have hhex : ∀ c ∈ longDigits, c ∈ hexDigits := by
    have hall : longDigits.all (hexDigits.contains ·) = true := by decide
    exact fun c hc => List.contains_iff_mem.mp (List.all_eq_true.mp hall c hc)
  have hread := hreads longDigits longText (by decide) (by decide) hhex writes_longText
  have hlong : parse (String.ofList longText) = .ok longId := by
    obtain ⟨id, hparse, hdigits⟩ := hread
    exact parse_eq_ok_iff.mpr
      ((parse_eq_ok_iff.mp hparse).trans (hdigits.trans (by decide : _ = longId.digits)))
  have hsuffix : shortId.digits <:+ longId.digits := ⟨List.replicate 23 'A', by decide⟩
  exact ⟨⟨writes_longText, hread⟩, ⟨hlong, hagain _ longId hlong⟩,
    ⟨hsuffix, (hends shortId longId hsuffix).1⟩, by decide, hone longId (by decide)⟩

end CommitSeal.KeyId
