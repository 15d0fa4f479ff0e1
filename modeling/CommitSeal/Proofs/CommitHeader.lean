import CommitSeal.Signer

/-!
# What embedding keeps

`CommitHeader.embed` first brings line ends into one form and then indents; `CommitHeader.extract`
does the first and then takes the indentation away. Indenting can be undone
(`CommitHeader.unindent_indent`) and makes no difference to line ends
(`CommitHeader.joinLineEnds_indent`), so what is left of both is that line ends are brought into one
form twice. The second time is of account where a carriage return stands before a line end, with
which it then makes another one.

`CommitHeader.extract_embed` puts this together. Of a text with single line feeds, none of them
before a space, a verifier comes to see the same whether it is plain, has a carriage return before
each line feed, or stands in a header.
-/

namespace CommitSeal.CommitHeader

/-! ## Neighbouring characters -/

/-- A character is nowhere followed by another one. -/
def Lacks (before behind : Char) (text : List Char) : Prop := ¬ [before, behind] <:+: text

/-- Every line feed is followed by a space. -/
def Indented (text : List Char) : Prop :=
  ∀ front behind, text = front ++ '\n' :: behind → behind.head? = some ' '

section Lacks

variable {before behind c : Char} {text : List Char}

theorem lacks_nil : Lacks before behind [] := by simp [Lacks]

theorem lacks_cons_iff :
    Lacks before behind (c :: text)
      ↔ ¬ (c = before ∧ text.head? = some behind) ∧ Lacks before behind text := by
  have hfront : [before, behind] <+: c :: text ↔ c = before ∧ text.head? = some behind := by
    rw [List.cons_prefix_cons, eq_comm, List.head?_eq_some_iff]
    exact and_congr_right fun _ => exists_congr fun _ => eq_comm
  rw [Lacks, Lacks, List.infix_cons_iff, hfront, not_or]

theorem lacks_cons_of_ne (hne : c ≠ before) :
    Lacks before behind (c :: text) ↔ Lacks before behind text := by
  rw [lacks_cons_iff, and_iff_right]
  exact fun h => hne h.1

end Lacks

theorem indented_nil : Indented [] := by
  intro front behind hsplit
  cases front <;> cases hsplit

theorem indented_cons_iff {c : Char} {text : List Char} :
    Indented (c :: text) ↔ (c = '\n' → text.head? = some ' ') ∧ Indented text := by
  constructor
  · intro hindented
    refine ⟨?_, fun front behind hsplit => hindented (c :: front) behind (congrArg _ hsplit)⟩
    rintro rfl
    exact hindented [] text rfl
  · rintro ⟨hhead, htail⟩ front behind hsplit
    cases front with
    | nil =>
      obtain ⟨rfl, rfl⟩ := List.cons.inj hsplit
      exact hhead rfl
    | cons first front =>
      obtain ⟨-, hrest⟩ := List.cons.inj hsplit
      exact htail front behind hrest

/-! ## Line ends in one form -/

/-- A character that starts no pair of carriage return and line feed stays as it is. -/
theorem joinLineEnds_cons {c : Char} {text : List Char}
    (hpair : ¬ (c = '\r' ∧ text.head? = some '\n')) :
    joinLineEnds (c :: text) = c :: joinLineEnds text := by
  rw [joinLineEnds]
  rintro rest rfl rfl
  exact hpair ⟨rfl, rfl⟩

theorem joinLineEnds_cons_of_ne {c : Char} (hc : c ≠ '\r') (text : List Char) :
    joinLineEnds (c :: text) = c :: joinLineEnds text :=
  joinLineEnds_cons fun hpair => hc hpair.1

theorem joinLineEnds_of_lacks {text : List Char} (hjoined : Lacks '\r' '\n' text) :
    joinLineEnds text = text := by
  induction text with
  | nil => rfl
  | cons c text ih =>
    obtain ⟨hpair, htail⟩ := lacks_cons_iff.mp hjoined
    rw [joinLineEnds_cons hpair, ih htail]

/-- The first pair of carriage return and line feed becomes a line feed, and then those behind it
do. -/
theorem joinLineEnds_append {front : List Char} (hfront : Lacks '\r' '\n' (front ++ ['\r']))
    (rest : List Char) :
    joinLineEnds (front ++ '\r' :: '\n' :: rest) = front ++ '\n' :: joinLineEnds rest := by
  induction front with
  | nil => rfl
  | cons c front ih =>
    obtain ⟨hpair, htail⟩ := lacks_cons_iff.mp hfront
    have hhead : (front ++ '\r' :: '\n' :: rest).head? = (front ++ ['\r']).head? := by
      cases front <;> rfl
    rw [List.cons_append, joinLineEnds_cons (by rwa [hhead]), ih htail, List.cons_append]

/-- A line feed in front comes from a line end in front. -/
theorem head?_of_joinLineEnds {text : List Char}
    (hhead : (joinLineEnds text).head? = some '\n') :
    text.head? = some '\n' ∨ ['\r', '\n'] <+: text := by
  fun_cases joinLineEnds text with
  | case1 => cases hhead
  | case2 rest => exact .inr ⟨rest, rfl⟩
  | case3 c rest hpair =>
    rw [joinLineEnds.eq_3 _ _ hpair] at hhead
    exact .inl hhead

/-- No pair is left, unless a carriage return stands before one. -/
theorem lacks_joinLineEnds {text : List Char} (htriple : ¬ ['\r', '\r', '\n'] <:+: text) :
    Lacks '\r' '\n' (joinLineEnds text) := by
  fun_induction joinLineEnds text with
  | case1 => exact lacks_nil
  | case2 rest ih =>
    rw [lacks_cons_of_ne (by decide)]
    exact ih fun hinfix => htriple (List.infix_cons (List.infix_cons hinfix))
  | case3 c rest hpair ih =>
    rw [lacks_cons_iff]
    refine ⟨?_, ih fun hinfix => htriple (List.infix_cons hinfix)⟩
    rintro ⟨rfl, hhead⟩
    rcases head?_of_joinLineEnds hhead with hfeed | hfront
    · obtain ⟨more, rfl⟩ := List.head?_eq_some_iff.mp hfeed
      exact hpair more rfl rfl
    · exact htriple (List.cons_prefix_cons.mpr ⟨rfl, hfront⟩).isInfix

/-! ## Indentation -/

theorem indent_lineFeed (text : List Char) :
    indent ('\n' :: text) = '\n' :: ' ' :: indent text := by
  rw [indent, if_pos rfl]

theorem indent_cons_of_ne {c : Char} (hc : c ≠ '\n') (text : List Char) :
    indent (c :: text) = c :: indent text := by
  rw [indent, if_neg hc]

theorem head?_indent (text : List Char) : (indent text).head? = text.head? := by
  cases text with
  | nil => rfl
  | cons c text =>
    by_cases hc : c = '\n'
    · rw [hc, indent_lineFeed]
      rfl
    · rw [indent_cons_of_ne hc]
      rfl

theorem indented_indent (text : List Char) : Indented (indent text) := by
  induction text with
  | nil => exact indented_nil
  | cons c text ih =>
    by_cases hc : c = '\n'
    · rw [hc, indent_lineFeed, indented_cons_iff, indented_cons_iff]
      exact ⟨fun _ => rfl, fun hspace => absurd hspace (by decide), ih⟩
    · rw [indent_cons_of_ne hc, indented_cons_iff]
      exact ⟨fun hfeed => absurd hfeed hc, ih⟩

/-- A character that is not a line feed before a space stays as it is. -/
theorem unindent_cons {c : Char} {text : List Char}
    (hpair : ¬ (c = '\n' ∧ text.head? = some ' ')) :
    unindent (c :: text) = c :: unindent text := by
  rw [unindent]
  rintro rest rfl rfl
  exact hpair ⟨rfl, rfl⟩

theorem unindent_of_lacks {text : List Char} (hflush : Lacks '\n' ' ' text) :
    unindent text = text := by
  induction text with
  | nil => rfl
  | cons c text ih =>
    obtain ⟨hpair, htail⟩ := lacks_cons_iff.mp hflush
    rw [unindent_cons hpair, ih htail]

theorem head?_unindent (text : List Char) : (unindent text).head? = text.head? := by
  fun_cases unindent text with
  | case1 => rfl
  | case2 rest => rfl
  | case3 c rest hpair => rfl

/-- What was indented is as it was. -/
theorem unindent_indent (text : List Char) : unindent (indent text) = text := by
  induction text with
  | nil => rfl
  | cons c text ih =>
    by_cases hc : c = '\n'
    · rw [hc, indent_lineFeed, unindent, ih]
    · rw [indent_cons_of_ne hc, unindent_cons fun h => hc h.1, ih]

/-- What is not indented any more can be indented again. -/
theorem indent_unindent {text : List Char} (hindented : Indented text) :
    indent (unindent text) = text := by
  fun_induction unindent text with
  | case1 => rfl
  | case2 rest ih =>
    obtain ⟨-, htail⟩ := indented_cons_iff.mp hindented
    rw [indent_lineFeed, ih (indented_cons_iff.mp htail).2]
  | case3 c rest hpair ih =>
    obtain ⟨hhead, htail⟩ := indented_cons_iff.mp hindented
    rw [indent_cons_of_ne, ih htail]
    rintro rfl
    obtain ⟨more, rfl⟩ := List.head?_eq_some_iff.mp (hhead rfl)
    exact hpair more rfl rfl

/-! ## Both together -/

/-- Indentation makes no difference to line ends. -/
theorem joinLineEnds_indent (text : List Char) :
    joinLineEnds (indent text) = indent (joinLineEnds text) := by
  fun_induction joinLineEnds text with
  | case1 => rfl
  | case2 rest ih =>
    rw [indent_cons_of_ne (by decide), indent_lineFeed, indent_lineFeed, joinLineEnds,
      joinLineEnds_cons_of_ne (by decide), ih]
  | case3 c rest hpair ih =>
    by_cases hc : c = '\n'
    · rw [hc, indent_lineFeed, indent_lineFeed, joinLineEnds_cons_of_ne (by decide),
        joinLineEnds_cons_of_ne (by decide), ih]
    · rw [indent_cons_of_ne hc, indent_cons_of_ne hc, joinLineEnds_cons, ih]
      rintro ⟨rfl, hhead⟩
      rw [head?_indent] at hhead
      obtain ⟨more, rfl⟩ := List.head?_eq_some_iff.mp hhead
      exact hpair more rfl rfl

/-- Taking indentation away puts no carriage return before a line feed. -/
theorem lacks_unindent {text : List Char} (hjoined : Lacks '\r' '\n' text) :
    Lacks '\r' '\n' (unindent text) := by
  fun_induction unindent text with
  | case1 => exact lacks_nil
  | case2 rest ih =>
    rw [lacks_cons_of_ne (by decide), lacks_cons_of_ne (by decide)] at hjoined
    rw [lacks_cons_of_ne (by decide)]
    exact ih hjoined
  | case3 c rest hpair ih =>
    rw [lacks_cons_iff] at hjoined ⊢
    rw [head?_unindent]
    exact ⟨hjoined.1, ih hjoined.2⟩

/-- A text with a carriage return before each line feed. -/
def spreadLineEnds (text : List Char) : List Char :=
  text.flatMap fun c => if c = '\n' then ['\r', '\n'] else [c]

theorem joinLineEnds_spreadLineEnds (text : List Char) :
    joinLineEnds (spreadLineEnds text) = text := by
  -- Each line feed has its carriage return in front, so none follows one that was there before.
  have hhead : ∀ text, (spreadLineEnds text).head? ≠ some '\n' := by
    intro text
    cases text with
    | nil => nofun
    | cons c text =>
      by_cases hc : c = '\n' <;> simp [spreadLineEnds, hc]
  induction text with
  | nil => rfl
  | cons c text ih =>
    have hcons : spreadLineEnds (c :: text)
        = (if c = '\n' then ['\r', '\n'] else [c]) ++ spreadLineEnds text := List.flatMap_cons
    by_cases hc : c = '\n'
    · rw [hcons, if_pos hc, hc]
      show '\n' :: joinLineEnds (spreadLineEnds text) = _
      rw [ih]
    · rw [hcons, if_neg hc]
      show joinLineEnds (c :: spreadLineEnds text) = _
      rw [joinLineEnds_cons fun h => hhead text h.2, ih]

/-- The text with its line ends in one form. -/
def joined (text : String) : String := String.ofList (joinLineEnds text.toList)

/-- The text with a carriage return before each line feed. -/
def spread (text : String) : String := String.ofList (spreadLineEnds text.toList)

theorem extract_of_lacks {text : String} (hjoined : Lacks '\r' '\n' text.toList)
    (hflush : Lacks '\n' ' ' text.toList) : extract text = text := by
  rw [extract, joinLineEnds_of_lacks hjoined, unindent_of_lacks hflush, String.ofList_toList]

theorem joined_of_lacks {text : String} (hjoined : Lacks '\r' '\n' text.toList) :
    joined text = text := by
  rw [joined, joinLineEnds_of_lacks hjoined, String.ofList_toList]

/-- Bringing line ends into one form twice is what embedding and extracting come to. -/
theorem extract_embed_eq (text : String) : extract (embed text) = joined (joined text) := by
  simp only [extract, embed, joined, String.toList_ofList, joinLineEnds_indent, unindent_indent]

theorem embed_extract {text : String} (hjoined : Lacks '\r' '\n' text.toList)
    (hindented : Indented text.toList) : embed (extract text) = text := by
  rw [embed, extract, String.toList_ofList, joinLineEnds_of_lacks hjoined,
    joinLineEnds_of_lacks (lacks_unindent hjoined), indent_unindent hindented, String.ofList_toList]

theorem joined_spread (text : String) : joined (spread text) = text := by
  rw [joined, spread, String.toList_ofList, joinLineEnds_spreadLineEnds, String.ofList_toList]

/-! ## Forms of a signature -/

/-- A text, with either kind of line end, and as it stands in a header. -/
def forms (text : String) : List String := [text, spread text, embed text, embed (spread text)]

/-- Whatever its form, the text is extracted. -/
theorem extract_of_mem_forms {text written : String} (hjoined : Lacks '\r' '\n' text.toList)
    (hflush : Lacks '\n' ' ' text.toList) (hwritten : written ∈ forms text) :
    extract written = text := by
  simp only [forms, List.mem_cons, List.not_mem_nil, or_false] at hwritten
  rcases hwritten with rfl | rfl | rfl | rfl
  · exact extract_of_lacks hjoined hflush
  · have hlines : joinLineEnds (spread text).toList = text.toList := by
      rw [spread, String.toList_ofList, joinLineEnds_spreadLineEnds]
    rw [extract, hlines, unindent_of_lacks hflush, String.ofList_toList]
  · rw [extract_embed_eq, joined_of_lacks hjoined, joined_of_lacks hjoined]
  · rw [extract_embed_eq, joined_spread, joined_of_lacks hjoined]

/-- A verifier makes no difference between texts from which the same is extracted. -/
theorem verify_congr {written other : String} (hsame : extract written = extract other)
    (around : Surroundings) (name : String) (payload : Octets) :
    Signer.verify around name payload written = Signer.verify around name payload other := by
  simp only [Signer.verify, Signer.verifyRecord, hsame]

/-- An embedded text has a space behind every line feed. What is extracted from it is the text with
its line ends brought into one form twice, and once is enough if no carriage return stands before a
line end. A text that is embedded already, with single line feeds, comes back when what was
extracted from it is embedded. A text with single line feeds, none before a space, is extracted from
each of its forms, whether they are given as texts or as octets, and so a signature is verified as
well in the one form as in the other.

The first two lines say what it is to bring line ends into one form: there is nothing to do without
pairs of carriage return and line feed, and else the first pair becomes a line feed. -/
theorem extract_embed (text : String) :
    (Lacks '\r' '\n' text.toList → joined text = text) ∧
    (∀ front behind, text.toList = front ++ '\r' :: '\n' :: behind →
      Lacks '\r' '\n' (front ++ ['\r']) →
      (joined text).toList = front ++ '\n' :: (joined (String.ofList behind)).toList) ∧
    Indented (embed text).toList ∧
    extract (embed text) = joined (joined text) ∧
    (¬ ['\r', '\r', '\n'] <:+: text.toList → joined (joined text) = joined text) ∧
    (Lacks '\r' '\n' text.toList → Indented text.toList → embed (extract text) = text) ∧
    (Lacks '\r' '\n' text.toList → Lacks '\n' ' ' text.toList → ∀ written ∈ forms text,
      extract written = text ∧
      (∀ octets, Octets.isAscii octets = true → Octets.asciiText octets = written →
        extractOctets? octets = some text) ∧
      ∀ around name payload,
        Signer.verify around name payload written = Signer.verify around name payload text) := by
  refine ⟨joined_of_lacks, ?_, ?_, extract_embed_eq text, ?_, embed_extract, ?_⟩
  · intro front behind hsplit hfront
    rw [joined, hsplit, joinLineEnds_append hfront, String.toList_ofList, joined,
      String.toList_ofList, String.toList_ofList]
  · rw [embed, String.toList_ofList]
    exact indented_indent _
  · intro htriple
    apply joined_of_lacks
    rw [joined, String.toList_ofList]
    exact lacks_joinLineEnds htriple
  · intro hjoined hflush written hwritten
    have hextract := extract_of_mem_forms hjoined hflush hwritten
    refine ⟨hextract, ?_, ?_⟩
    · rintro octets hascii rfl
      rw [extractOctets?, if_pos hascii, hextract]
    · exact verify_congr (hextract.trans (extract_of_lacks hjoined hflush).symm)

/-- A short signature. -/
def smallArmor : String := "-----BEGIN\n\niQEz\n=abcd\n-----END\n"

/-- The signature is extracted from each of its forms, its form in a header is embedded again, and
of two carriage returns before a line feed neither is left. -/
theorem extract_embed_smallArmor :
    (Lacks '\r' '\n' smallArmor.toList ∧ Lacks '\n' ' ' smallArmor.toList ∧
      extract smallArmor = smallArmor ∧ extract (spread smallArmor) = smallArmor ∧
      extract (embed smallArmor) = smallArmor) ∧
    (Lacks '\r' '\n' (embed smallArmor).toList ∧ Indented (embed smallArmor).toList ∧
      embed (extract (embed smallArmor)) = embed smallArmor) ∧
    extract (embed "a\r\r\nb") = "a\nb" := by
  have hjoined : Lacks '\r' '\n' smallArmor.toList := by
    unfold Lacks
    decide +kernel
  have hflush : Lacks '\n' ' ' smallArmor.toList := by
    unfold Lacks
    decide +kernel
  have hembedded : Lacks '\r' '\n' (embed smallArmor).toList := by
    rw [embed, String.toList_ofList]
    unfold Lacks
    decide +kernel
  obtain ⟨-, -, hindented, -, -, -, hforms⟩ := extract_embed smallArmor
  obtain ⟨-, -, -, -, -, hagain, -⟩ := extract_embed (embed smallArmor)
  obtain ⟨-, -, -, htwice, -⟩ := extract_embed "a\r\r\nb"
  have hextract := fun written hwritten => (hforms hjoined hflush written hwritten).1
  refine ⟨⟨hjoined, hflush, ?_, ?_, ?_⟩, ⟨hembedded, hindented, hagain hembedded hindented⟩, ?_⟩
  · exact hextract _ (.head _)
  · exact hextract _ (.tail _ (.head _))
  · exact hextract _ (.tail _ (.tail _ (.head _)))
  · rw [htwice]
    decide +kernel

end CommitSeal.CommitHeader
