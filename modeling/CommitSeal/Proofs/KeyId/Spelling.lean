import CommitSeal.KeyId
import CommitSeal.Proofs.Text.Upper
import Mathlib.Data.List.TakeWhile

/-!
# What is accepted as a key identifier

What is left of a text without white space around it, inner spaces and the mark is its core
(`KeyId.core`). An identifier is read from the upper-case form of the core, so a text should be
accepted only if its core has 16 to 40 hexadecimal digits, of either case (`KeyId.Spells`).

This holds of all texts but those with the ligature U+FB00, whose upper-case form is `FF`, so that
it stands for two digits. A text is accepted exactly if its core has 16 to 40 hexadecimal digits
once every ligature is spelled out, and then the core itself has them exactly if there is no
ligature (`KeyId.parse_spelledOut`). Eight ligatures and nothing else are accepted
(`KeyId.not_forall_spells`).

A pattern whose end also matches in front of a last line end accepts no more, since white space is
taken off first (`KeyId.exists_parse_eq_ok_iff`).
-/

namespace CommitSeal

namespace Text

/-! ## White space at the ends -/

/-- What is taken off a text is white space. -/
theorem exists_stripChars (text : List Char) :
    ∃ front behind, text = front ++ stripChars text ++ behind ∧
      (∀ c ∈ front, isBlank c = true) ∧ ∀ c ∈ behind, isBlank c = true := by
  refine ⟨text.takeWhile isBlank, ((text.dropWhile isBlank).reverse.takeWhile isBlank).reverse,
    ?_, ?_, ?_⟩
  · rw [stripChars, List.append_assoc, ← List.reverse_append, List.takeWhile_append_dropWhile,
      List.reverse_reverse, List.takeWhile_append_dropWhile]
  · exact fun c hc => List.mem_takeWhile_imp hc
  · exact fun c hc => List.mem_takeWhile_imp (List.mem_reverse.mp hc)

/-- White space around a text is taken off with that of the text. -/
theorem stripChars_surrounded {front behind : List Char} (hfront : ∀ c ∈ front, isBlank c = true)
    (hbehind : ∀ c ∈ behind, isBlank c = true) (text : List Char) :
    stripChars (front ++ text ++ behind) = stripChars text := by
  unfold stripChars
  rw [List.append_assoc, List.dropWhile_append_of_pos hfront, List.dropWhile_append]
  split
  · rename_i hempty
    have hnone : behind.dropWhile isBlank = [] := List.dropWhile_eq_nil_iff.mpr hbehind
    rw [hnone, List.isEmpty_iff.mp hempty]
  · rw [List.reverse_append, List.dropWhile_append_of_pos]
    exact fun c hc => hbehind c (List.mem_reverse.mp hc)

/-- What is left of a text does not end in white space. -/
theorem isBlank_of_getLast?_stripChars {text : List Char} {c : Char}
    (hlast : (stripChars text).getLast? = some c) : isBlank c = false := by
  rw [stripChars, List.getLast?_reverse] at hlast
  have hhead := List.head?_dropWhile_not isBlank (text.dropWhile isBlank).reverse
  rw [hlast] at hhead
  simpa using hhead

/-- What is left of a text has all its characters but white space. -/
theorem mem_stripChars_iff {text : List Char} {c : Char} (hc : isBlank c = false) :
    c ∈ stripChars text ↔ c ∈ text := by
  obtain ⟨front, behind, htext, hfront, hbehind⟩ := exists_stripChars text
  have hnot : ∀ ends : List Char, (∀ d ∈ ends, isBlank d = true) → c ∉ ends := by
    intro ends hends hmem
    rw [hends c hmem] at hc
    cases hc
  have hmem : c ∈ front ++ stripChars text ++ behind ↔ c ∈ stripChars text := by
    simp [hnot front hfront, hnot behind hbehind]
  rw [← htext] at hmem
  exact hmem.symm

end Text

namespace KeyId

/-! ## The mark -/

/-- Characters without the mark of hexadecimal numbers, in either case. -/
def dropAnyMark : List Char → List Char
  | '0' :: 'x' :: rest => rest
  | '0' :: 'X' :: rest => rest
  | text => text

/-- What a text is without white space around it, without spaces and without the mark. -/
def core (text : List Char) : List Char :=
  dropAnyMark ((Text.stripChars text).filter fun c => c != ' ')

theorem eq_zero_of_mem_upperChar {c : Char} (hmem : '0' ∈ Text.upperChar c) : c = '0' := by
  obtain ⟨hascii, hupper⟩ := Text.of_mem_upperChar_of_ascii (by decide) (by decide) hmem
  exact Text.forall_ascii (P := fun c => c.toUpper = '0' → c = '0') (by decide) hascii hupper

theorem eq_mark_of_mem_upperChar {c : Char} (hmem : 'X' ∈ Text.upperChar c) :
    c = 'x' ∨ c = 'X' := by
  obtain ⟨hascii, hupper⟩ := Text.of_mem_upperChar_of_ascii (by decide) (by decide) hmem
  exact Text.forall_ascii (P := fun c => c.toUpper = 'X' → c = 'x' ∨ c = 'X') (by decide) hascii
    hupper

/-- The upper-case form of a text starts in that of its first character. -/
theorem exists_of_upperChars_cons {text others : List Char} {d : Char}
    (hupper : Text.upperChars text = d :: others) :
    ∃ c rest more, text = c :: rest ∧ Text.upperChar c = d :: more ∧
      others = more ++ Text.upperChars rest := by
  cases text with
  | nil => cases hupper
  | cons c rest =>
    rw [Text.upperChars, List.flatMap_cons] at hupper
    cases hform : Text.upperChar c with
    | nil => exact absurd hform (Text.upperChar_ne_nil c)
    | cons first more =>
      rw [hform, List.cons_append] at hupper
      obtain ⟨rfl, rfl⟩ := List.cons.inj hupper
      exact ⟨c, rest, more, rfl, hform, rfl⟩

/-- An upper-case form starts with the mark only if the text does. -/
theorem exists_mark_of_upperChars {text rest : List Char}
    (hupper : Text.upperChars text = '0' :: 'X' :: rest) :
    ∃ behind, text = '0' :: 'x' :: behind ∨ text = '0' :: 'X' :: behind := by
  obtain ⟨c, behind, more, rfl, hform, hrest⟩ := exists_of_upperChars_cons hupper
  obtain rfl : c = '0' := eq_zero_of_mem_upperChar (by rw [hform]; exact List.mem_cons_self)
  obtain rfl : more = [] := by
    rw [Text.upperChar_of_ascii (by decide)] at hform
    exact (List.cons.inj hform).2.symm
  obtain ⟨c, behind, more, rfl, hform, -⟩ := exists_of_upperChars_cons hrest.symm
  rcases eq_mark_of_mem_upperChar (by rw [hform]; exact List.mem_cons_self) with rfl | rfl
  · exact ⟨behind, .inl rfl⟩
  · exact ⟨behind, .inr rfl⟩

/-- The mark may be taken off before the upper-case form is made. -/
theorem dropMark_upperChars (text : List Char) :
    dropMark (Text.upperChars text) = Text.upperChars (dropAnyMark text) := by
  have hmarked : ∀ (mark : Char) (rest : List Char), Text.upperChar mark = ['X'] →
      Text.upperChars ('0' :: mark :: rest) = '0' :: 'X' :: Text.upperChars rest := by
    intro mark rest hmark
    rw [Text.upperChars, List.flatMap_cons, List.flatMap_cons, hmark,
      Text.upperChar_of_ascii (by decide)]
    rfl
  unfold dropAnyMark
  split
  · rename_i rest
    rw [hmarked 'x' rest (Text.upperChar_of_ascii (by decide))]
    rfl
  · rename_i rest
    rw [hmarked 'X' rest (Text.upperChar_of_ascii (by decide))]
    rfl
  · rename_i hsmall hcapital
    unfold dropMark
    split
    · rename_i rest hupper
      obtain ⟨behind, htext | htext⟩ := exists_mark_of_upperChars hupper
      · exact absurd htext (hsmall behind)
      · exact absurd htext (hcapital behind)
    · rfl

theorem normalize_eq (text : List Char) : normalize text = Text.upperChars (core text) :=
  dropMark_upperChars _

/-- A core has all characters of its text but white space and those of marks. -/
theorem mem_core_iff {text : List Char} {c : Char} (hblank : Text.isBlank c = false)
    (hmark : c ≠ '0' ∧ c ≠ 'x' ∧ c ≠ 'X') : c ∈ core text ↔ c ∈ text := by
  have hdrop : ∀ text, c ∈ dropAnyMark text ↔ c ∈ text := by
    intro text
    unfold dropAnyMark
    split <;> simp [hmark]
  have hspace : c ≠ ' ' := by
    rintro rfl
    exact absurd hblank (by decide)
  rw [core, hdrop, List.mem_filter, Text.mem_stripChars_iff hblank]
  simp [hspace]

/-! ## Digits -/

/-- The hexadecimal digits of either case. -/
def hexDigits : List Char :=
  ['0', '1', '2', '3', '4', '5', '6', '7', '8', '9', 'A', 'B', 'C', 'D', 'E', 'F',
    'a', 'b', 'c', 'd', 'e', 'f']

/-- Characters are 16 to 40 hexadecimal digits, those of an identifier but for their case. -/
structure Spells (text : List Char) (id : KeyId) : Prop where
  length_ge : 16 ≤ text.length
  length_le : text.length ≤ 40
  allHex : ∀ c ∈ text, c ∈ hexDigits
  upper : text.map Char.toUpper = id.digits

/-- A text with two letters for every ligature of them. -/
def spellOut (text : List Char) : List Char :=
  text.flatMap fun c => if c = Text.ligature then ['f', 'f'] else [c]

/-- What holds of all hexadecimal digits is checked one by one. -/
theorem of_mem_hexDigits {P : Char → Prop} [DecidablePred P]
    (hdigits : hexDigits.all fun c => decide (P c)) {c : Char} (hc : c ∈ hexDigits) : P c :=
  of_decide_eq_true (List.all_eq_true.mp hdigits c hc)

theorem ascii_of_mem_hexDigits {c : Char} (hc : c ∈ hexDigits) : c.toNat < 0x80 :=
  of_mem_hexDigits (P := fun c => c.toNat < 0x80) (by decide) hc

theorem toNat_le_of_isDigit {c : Char} (hc : isDigit c) : c.toNat ≤ 0x46 := by
  simp only [isDigit, Bool.or_eq_true, Bool.and_eq_true, decide_eq_true_eq, Char.le_def,
    UInt32.le_iff_toNat_le] at hc
  have hnine : '9'.val.toNat = 0x39 := rfl
  have hletter : 'F'.val.toNat = 0x46 := rfl
  have hval : c.val.toNat = c.toNat := rfl
  omega

/-- What holds of all digits of an identifier is checked code by code. -/
theorem of_isDigit {P : Char → Prop}
    (hcodes : ∀ code < 0x80, isDigit (Char.ofNat code) → P (Char.ofNat code)) {c : Char}
    (hc : isDigit c) : P c := by
  have hle := toNat_le_of_isDigit hc
  exact Text.forall_ascii (P := fun c => isDigit c → P c) hcodes (by omega) hc

/-- A character whose upper-case form is made of digits is one, or the ligature. -/
theorem eq_ligature_or_mem_hexDigits {c : Char} (hdigits : ∀ d ∈ Text.upperChar c, isDigit d) :
    c = Text.ligature ∨ c ∈ hexDigits := by
  rcases Nat.lt_or_ge c.toNat 0x80 with hascii | hcode
  · rw [Text.upperChar_of_ascii hascii] at hdigits
    exact .inr (Text.forall_ascii (P := fun c => isDigit c.toUpper → c ∈ hexDigits) (by decide)
      hascii (hdigits _ (List.mem_singleton_self _)))
  · exact .inl (Text.eq_ligature_of_le hcode fun d hd => toNat_le_of_isDigit (hdigits d hd))

theorem upperChars_eq_spellOut {text : List Char}
    (hchars : ∀ c ∈ text, c = Text.ligature ∨ c ∈ hexDigits) :
    Text.upperChars text = (spellOut text).map Char.toUpper := by
  induction text with
  | nil => rfl
  | cons c text ih =>
    obtain ⟨hfirst, hrest⟩ := List.forall_mem_cons.mp hchars
    unfold Text.upperChars spellOut at ih ⊢
    rw [List.flatMap_cons, List.flatMap_cons, List.map_append, ih hrest]
    rcases hfirst with rfl | hhex
    · rw [if_pos rfl, Text.upperChar_ligature]
      rfl
    · have hne : c ≠ Text.ligature := by
        rintro rfl
        exact absurd hhex (by decide)
      rw [if_neg hne, Text.upperChar_of_ascii (ascii_of_mem_hexDigits hhex)]
      rfl

theorem spellOut_of_not_mem {text : List Char} (hnone : Text.ligature ∉ text) :
    spellOut text = text := by
  induction text with
  | nil => rfl
  | cons c text ih =>
    have hfirst : c ≠ Text.ligature := fun h => hnone (h ▸ List.mem_cons_self)
    have hrest := ih fun h => hnone (List.mem_cons_of_mem _ h)
    unfold spellOut at hrest ⊢
    rw [List.flatMap_cons, if_neg hfirst, hrest]
    rfl

theorem mem_spellOut {text : List Char} {c : Char} (hc : c ∈ text) (hne : c ≠ Text.ligature) :
    c ∈ spellOut text := by
  refine List.mem_flatMap.mpr ⟨c, hc, ?_⟩
  rw [if_neg hne]
  exact List.mem_singleton_self c

/-- The digits of an identifier are the upper-case form of the texts that spell it, their ligatures
spelled out, and of no others. -/
theorem upperChars_eq_digits_iff {text : List Char} {id : KeyId} :
    Text.upperChars text = id.digits ↔ Spells (spellOut text) id := by
  constructor
  · intro hupper
    have hchars : ∀ c ∈ text, c = Text.ligature ∨ c ∈ hexDigits := by
      intro c hc
      refine eq_ligature_or_mem_hexDigits fun d hd => id.allDigits d ?_
      rw [← hupper]
      exact List.mem_flatMap.mpr ⟨c, hc, hd⟩
    have hspelled : (spellOut text).map Char.toUpper = id.digits :=
      (upperChars_eq_spellOut hchars).symm.trans hupper
    have hlength : (spellOut text).length = id.digits.length := by rw [← hspelled, List.length_map]
    refine ⟨hlength ▸ id.length_ge, hlength ▸ id.length_le, ?_, hspelled⟩
    intro d hd
    obtain ⟨c, hc, hd⟩ := List.mem_flatMap.mp hd
    split at hd
    · obtain rfl : d = 'f' := by simpa using hd
      decide
    · rename_i hne
      rw [List.mem_singleton.mp hd]
      exact (hchars c hc).resolve_left hne
  · intro hspells
    have hchars : ∀ c ∈ text, c = Text.ligature ∨ c ∈ hexDigits := by
      intro c hc
      by_cases hligature : c = Text.ligature
      · exact .inl hligature
      · exact .inr (hspells.allHex c (mem_spellOut hc hligature))
    exact (upperChars_eq_spellOut hchars).trans hspells.upper

/-! ## Reading -/

/-- An identifier is read if the normal form of the text has its digits. -/
theorem parse_eq_ok_iff {text : String} {id : KeyId} :
    parse text = .ok id ↔ normalize text.toList = id.digits := by
  unfold parse ofDigits?
  constructor
  · intro hparse
    split at hparse
    · rename_i read hread
      split at hread
      · rw [← Except.ok.inj hparse, ← Option.some.inj hread]
      · cases hread
    · cases hparse
  · intro hdigits
    have hvalid : 16 ≤ (normalize text.toList).length ∧ (normalize text.toList).length ≤ 40 ∧
        (normalize text.toList).all isDigit = true := by
      rw [hdigits]
      exact ⟨id.length_ge, id.length_le, List.all_eq_true.mpr id.allDigits⟩
    rw [dif_pos hvalid]
    cases id
    simp only at hdigits
    simp only [hdigits]

/-- What a pattern of 16 to 40 digits of upper case matches if its end also matches in front of a
last line end. -/
def FillsPattern (text : List Char) : Prop :=
  ∃ digits ending, text = digits ++ ending ∧ 16 ≤ digits.length ∧ digits.length ≤ 40 ∧
    (∀ c ∈ digits, isDigit c) ∧ (ending = [] ∨ ending = ['\n'])

theorem eq_lineEnd_of_mem_upperChar {c : Char} (hmem : '\n' ∈ Text.upperChar c) : c = '\n' := by
  obtain ⟨hascii, hupper⟩ := Text.of_mem_upperChar_of_ascii (by decide) (by decide) hmem
  exact Text.forall_ascii (P := fun c => c.toUpper = '\n' → c = '\n') (by decide) hascii hupper

/-- A core does not end in a line end. -/
theorem getLast?_core_ne (text : List Char) : (core text).getLast? ≠ some '\n' := by
  intro hlast
  -- The last character of the core is that of the text without the mark, and so without spaces.
  have hdropped : ∀ text, (dropAnyMark text).getLast? = some '\n' → text.getLast? = some '\n' := by
    intro text hdropped
    unfold dropAnyMark at hdropped
    split at hdropped
    · rw [List.getLast?_cons, List.getLast?_cons, hdropped]
      rfl
    · rw [List.getLast?_cons, List.getLast?_cons, hdropped]
      rfl
    · exact hdropped
  have hfiltered := hdropped _ hlast
  cases hstripped : (Text.stripChars text).getLast? with
  | none =>
    rw [List.getLast?_eq_none_iff.mp hstripped] at hfiltered
    cases hfiltered
  | some c =>
    have hblank := Text.isBlank_of_getLast?_stripChars hstripped
    obtain ⟨front, hfront⟩ := List.getLast?_eq_some_iff.mp hstripped
    have hspace : c ≠ ' ' := by
      rintro rfl
      exact absurd hblank (by decide)
    rw [hfront, List.filter_append, List.filter_cons_of_pos (by simpa using hspace),
      List.filter_nil, List.getLast?_concat] at hfiltered
    rw [Option.some.inj hfiltered] at hblank
    exact absurd hblank (by decide)

theorem getLast?_normalize_ne (text : List Char) : (normalize text).getLast? ≠ some '\n' := by
  intro hlast
  rw [normalize_eq] at hlast
  rcases List.eq_nil_or_concat (core text) with hnil | ⟨front, c, hcore⟩
  · rw [hnil] at hlast
    cases hlast
  · rw [List.concat_eq_append] at hcore
    have hform : Text.upperChars (core text) = Text.upperChars front ++ Text.upperChar c := by
      rw [hcore, Text.upperChars, List.flatMap_append, List.flatMap_singleton]
      rfl
    obtain ⟨d, hd⟩ := Option.ne_none_iff_exists'.mp
      (mt List.getLast?_eq_none_iff.mp (Text.upperChar_ne_nil c))
    rw [hform, List.getLast?_append, hd, Option.some_or] at hlast
    rw [hlast] at hd
    have hend : c = '\n' := eq_lineEnd_of_mem_upperChar (List.mem_of_getLast? hd)
    apply getLast?_core_ne text
    rw [hcore, List.getLast?_concat, hend]

/-- The texts that are accepted are those whose normal form fills the pattern. -/
theorem exists_parse_eq_ok_iff {text : String} :
    (∃ id, parse text = .ok id) ↔ FillsPattern (normalize text.toList) := by
  constructor
  · rintro ⟨id, hparse⟩
    exact ⟨id.digits, [], by rw [List.append_nil, parse_eq_ok_iff.mp hparse], id.length_ge,
      id.length_le, id.allDigits, .inl rfl⟩
  · rintro ⟨digits, ending, hnormal, hmin, hmax, hdigits, rfl | rfl⟩
    · rw [List.append_nil] at hnormal
      exact ⟨⟨digits, hmin, hmax, hdigits⟩, parse_eq_ok_iff.mpr hnormal⟩
    · refine absurd ?_ (getLast?_normalize_ne text.toList)
      rw [hnormal, List.getLast?_concat]

/-- A text is accepted as an identifier exactly if its core spells the identifier once ligatures
are spelled out. If it is accepted, the core itself spells the identifier exactly if there is no
ligature in the text. A pattern with a loose end accepts the same texts. -/
theorem parse_spelledOut (text : String) :
    ((∃ id, parse text = .ok id) ↔ FillsPattern (normalize text.toList)) ∧
    ∀ id, (parse text = .ok id ↔ Spells (spellOut (core text.toList)) id) ∧
      (parse text = .ok id → (Spells (core text.toList) id ↔ Text.ligature ∉ text.toList)) := by
  have hspelled : ∀ id, parse text = .ok id ↔ Spells (spellOut (core text.toList)) id := by
    intro id
    rw [parse_eq_ok_iff, normalize_eq]
    exact upperChars_eq_digits_iff
  refine ⟨exists_parse_eq_ok_iff, fun id => ⟨hspelled id, fun hparse => ?_⟩⟩
  have hligature : Text.ligature ∈ core text.toList ↔ Text.ligature ∈ text.toList :=
    mem_core_iff (by decide) (by decide)
  rw [← hligature]
  constructor
  · intro hspells hmem
    exact absurd (hspells.allHex _ hmem) (by decide)
  · intro hnone
    have hspells := (hspelled id).mp hparse
    rwa [spellOut_of_not_mem hnone] at hspells

/-- Sixteen letters F. -/
def sixteenFs : KeyId :=
  ⟨List.replicate 16 'F', by decide, by decide, List.all_eq_true.mp (by decide)⟩

/-- Seven ligatures behind the mark, a space and two letters behind them. -/
def ligatureText : String :=
  String.ofList ('0' :: 'x' :: List.replicate 7 Text.ligature ++ [' ', 'f', 'F'])

theorem parse_spelledOut_ligatures :
    parse ligatureText = .ok sixteenFs ∧ FillsPattern (normalize ligatureText.toList) ∧
      Spells (spellOut (core ligatureText.toList)) sixteenFs ∧
      (Spells (core ligatureText.toList) sixteenFs ↔ Text.ligature ∉ ligatureText.toList) := by
  have hnormal : normalize ligatureText.toList = sixteenFs.digits := by
    rw [ligatureText, String.toList_ofList]
    decide +kernel
  have hparse : parse ligatureText = .ok sixteenFs := parse_eq_ok_iff.mpr hnormal
  obtain ⟨hpattern, hreads⟩ := parse_spelledOut ligatureText
  exact ⟨hparse, hpattern.mp ⟨_, hparse⟩, (hreads sixteenFs).1.mp hparse,
    (hreads sixteenFs).2 hparse⟩

/-- Not all that is accepted is spelled with hexadecimal digits: eight ligatures are accepted. -/
theorem not_forall_spells :
    ¬ ∀ (text : String) (id : KeyId), parse text = .ok id → Spells (core text.toList) id := by
  intro hall
  have hnormal : normalize (List.replicate 8 Text.ligature) = sixteenFs.digits := by decide +kernel
  have hspells := hall (String.ofList (List.replicate 8 Text.ligature)) sixteenFs
    (parse_eq_ok_iff.mpr (by rw [String.toList_ofList]; exact hnormal))
  rw [String.toList_ofList] at hspells
  exact absurd hspells.length_ge (by decide +kernel)

end KeyId

end CommitSeal
