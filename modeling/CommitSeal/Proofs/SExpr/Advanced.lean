import CommitSeal.Proofs.SExpr.Canonical
import CommitSeal.Proofs.SExpr.Literal

/-!
# Advanced S-expressions

An expression has many advanced forms: each atom is written in one of five ways, and white space
stands where it likes. `SExpr.Written` relates an expression to the texts it may be written as. Only
in one place is white space needed: two words that stand side by side would be read as one, if the
first is a bare token and the other is a token or starts with a length.

The reader takes back whatever is written (`SExpr.parseAdvanced_of_rendered`). Each item adds itself
to the innermost open list, as long as no octet follows that would make a token of it longer
(`SExpr.read_written`).
-/

namespace CommitSeal.SExpr

/-! ## How expressions are written -/

/-- The ways to write an item. -/
inductive Form where
  /-- An atom behind its length. -/
  | verbatim
  /-- An atom between quotes. -/
  | quoted
  /-- An atom in hexadecimal digits. -/
  | hexadecimal
  /-- An atom in base64. -/
  | base64
  /-- An atom as it is. -/
  | bare
  /-- A list in parentheses. -/
  | list
  deriving DecidableEq

/-- Whether a text starts as an atom behind its length does, with one to ten digits and a colon. -/
def LooksVerbatim (text : Octets) : Prop :=
  ∃ digits rest, text = digits ++ 0x3A :: rest ∧ digits ≠ [] ∧ digits.length ≤ 10 ∧
    ∀ digit ∈ digits, isDigit digit = true

/-- How an atom is written. -/
inductive AtomWritten (octets : Octets) : Form → Octets → Prop where
  | verbatim (hlimit : octets.length < lengthLimit) :
      AtomWritten octets .verbatim (verbatim octets)
  | quoted {text : Octets} (htext : Quoted octets text) :
      AtomWritten octets .quoted (0x22 :: (text ++ [0x22]))
  | hexadecimal {digits text : Octets} (hdigits : Hexadecimal octets digits)
      (hspaced : Spaced digits text) : AtomWritten octets .hexadecimal (0x23 :: (text ++ [0x23]))
  | base64 {text : Octets} (hspaced : Spaced (Base64.encode octets) text) :
      AtomWritten octets .base64 (0x7C :: (text ++ [0x7C]))
  | bare (hne : octets ≠ []) (htoken : ∀ octet ∈ octets, isToken octet = true)
      (hlength : ¬ LooksVerbatim octets) : AtomWritten octets .bare octets

/-- A text of white space. -/
def Blank (gap : Octets) : Prop := ∀ octet ∈ gap, Octets.isBlank octet = true

/-- Two items may be written without white space between them: the one in front is no bare token, or
the one behind it starts with no octet of a token. -/
def MayTouch (previous : Option Form) (form : Form) : Prop :=
  previous = some .bare → form ≠ .bare ∧ form ≠ .verbatim

mutual

/-- How an expression is written. -/
inductive Written : SExpr → Form → Octets → Prop where
  | atom {octets text : Octets} {form : Form} (hatom : AtomWritten octets form text) :
      Written (.atom octets) form text
  | list {items : List SExpr} {text : Octets} (hitems : WrittenItems none items text) :
      Written (.list items) .list (0x28 :: (text ++ [0x29]))

/-- How the items of a list are written behind an item of the given form, if there is one. -/
inductive WrittenItems : Option Form → List SExpr → Octets → Prop where
  | nil {previous : Option Form} {gap : Octets} (hgap : Blank gap) : WrittenItems previous [] gap
  | cons {previous : Option Form} {form : Form} {item : SExpr} {rest : List SExpr}
      {gap text more : Octets} (hgap : Blank gap) (htouch : gap = [] → MayTouch previous form)
      (hitem : Written item form text) (hrest : WrittenItems (some form) rest more) :
      WrittenItems previous (item :: rest) (gap ++ (text ++ more))

end

/-- How the list that makes up a whole text is written. -/
def Rendered (items : List SExpr) (text : Octets) : Prop :=
  ∃ before middle behind, Blank before ∧ Blank behind ∧ Written (.list items) .list middle ∧
    text = before ++ (middle ++ behind)

/-! ## Where a token ends -/

/-- No octet of a token stands in front. -/
def EndsToken (text : Octets) : Prop := ∀ octet, text.head? = some octet → isToken octet = false

theorem isToken_of_isDigit {octet : UInt8} (hdigit : isDigit octet = true) :
    isToken octet = true := by
  simp [isToken, hdigit]

theorem isToken_of_isBlank {octet : UInt8} (hblank : Octets.isBlank octet = true) :
    isToken octet = false := by
  revert hblank
  apply Octets.forall_octet_lt _ octet octet.toNat_lt
  decide +kernel

/-- The octets of tokens have no other meaning to the reader. -/
theorem ne_of_isToken {octet : UInt8} (htoken : isToken octet = true) :
    octet ≠ 0x22 ∧ octet ≠ 0x23 ∧ octet ≠ 0x7C ∧ octet ≠ 0x28 ∧ octet ≠ 0x29 ∧
      Octets.isBlank octet = false := by
  refine ⟨?_, ?_, ?_, ?_, ?_, ?_⟩
  · rintro rfl; cases htoken
  · rintro rfl; cases htoken
  · rintro rfl; cases htoken
  · rintro rfl; cases htoken
  · rintro rfl; cases htoken
  · cases hblank : Octets.isBlank octet with
    | false => rfl
    | true =>
      rw [isToken_of_isBlank hblank] at htoken
      cases htoken

/-- The reader looks as far as it must to tell an atom behind its length. -/
theorem startsWithLength_iff {text : Octets} :
    startsWithLength text = true ↔ LooksVerbatim text := by
  unfold startsWithLength
  simp only [Bool.and_eq_true, bne_iff_ne, ne_eq, List.length_eq_zero_iff, decide_eq_true_eq,
    beq_iff_eq]
  constructor
  · rintro ⟨⟨hne, hshort⟩, hcolon⟩
    obtain ⟨rest, hrest⟩ := List.head?_eq_some_iff.mp hcolon
    have hprefix : (text.take 11).takeWhile isDigit <+: text :=
      (List.takeWhile_prefix _).trans (List.take_prefix _ _)
    refine ⟨(text.take 11).takeWhile isDigit, rest, ?_, hne, hshort, ?_⟩
    · rw [← hrest]
      exact (List.prefix_iff_eq_append.mp hprefix).symm
    · exact List.all_eq_true.mp List.all_takeWhile
  · rintro ⟨digits, rest, rfl, hne, hshort, hdigits⟩
    -- The colon is among the octets that are looked at, and no digit.
    have hlook : ((digits ++ 0x3A :: rest).take 11).takeWhile isDigit = digits := by
      obtain ⟨more, hmore⟩ : ∃ more, 11 - digits.length = more + 1 :=
        ⟨10 - digits.length, by omega⟩
      rw [List.take_append, List.take_of_length_le (by omega), hmore, List.take_succ_cons,
        List.takeWhile_append_of_pos hdigits]
      simp [show isDigit 0x3A = false from rfl]
    rw [hlook, List.drop_left]
    exact ⟨⟨hne, hshort⟩, rfl⟩

/-- What is written for an atom behind its length is told by that. -/
theorem looksVerbatim_verbatim {octets : Octets} (rest : Octets)
    (hlimit : octets.length < lengthLimit) : LooksVerbatim (verbatim octets ++ rest) := by
  refine ⟨Numeral.decimal octets.length, octets ++ rest, ?_, Numeral.decimal_ne_nil _, ?_, ?_⟩
  · rw [verbatim, List.append_assoc, List.cons_append]
  · have hlength := length_decimal_le.mpr hlimit
    omega
  · exact (isNumeral_decimal octets.length).all_digits

/-- What stands behind a token does not make it look like a length. -/
theorem LooksVerbatim.of_append {token rest : Octets} (hrest : EndsToken rest)
    (hlooks : LooksVerbatim (token ++ rest)) : LooksVerbatim token := by
  obtain ⟨digits, behind, htext, hne, hshort, hdigits⟩ := hlooks
  rcases List.append_eq_append_iff.mp htext with ⟨more, rfl, hmore⟩ | ⟨more, rfl, hmore⟩
  · -- The token would end among the digits, or in front of the colon.
    cases more with
    | nil =>
      have htoken := hrest 0x3A (by rw [hmore]; rfl)
      cases htoken
    | cons digit more =>
      have htoken := hrest digit (by rw [hmore]; rfl)
      rw [isToken_of_isDigit (hdigits digit (by simp))] at htoken
      cases htoken
  · cases more with
    | nil =>
      have htoken := hrest 0x3A (by rw [List.nil_append] at hmore; rw [← hmore]; rfl)
      cases htoken
    | cons colon more =>
      obtain ⟨rfl, -⟩ := List.cons.inj hmore
      exact ⟨digits, more, rfl, hne, hshort, hdigits⟩

theorem endsToken_cons {octet : UInt8} (hoctet : isToken octet = false) (rest : Octets) :
    EndsToken (octet :: rest) := by
  intro other hother
  obtain rfl := Option.some.inj hother
  exact hoctet

/-- White space ends a token. -/
theorem EndsToken.of_blank {gap rest : Octets} (hgap : Blank gap) (hne : gap ≠ []) :
    EndsToken (gap ++ rest) := by
  obtain ⟨octet, more, rfl⟩ := List.exists_cons_of_ne_nil hne
  exact endsToken_cons (isToken_of_isBlank (hgap octet List.mem_cons_self)) _

/-- An item that may touch a token ends it. -/
theorem EndsToken.of_written {item : SExpr} {form : Form} {text rest : Octets}
    (hwritten : Written item form text) (htouch : MayTouch (some .bare) form) :
    EndsToken (text ++ rest) := by
  obtain ⟨hbare, hverbatim⟩ := htouch rfl
  cases hwritten with
  | list hitems => exact endsToken_cons rfl _
  | atom hatom =>
    cases hatom with
    | verbatim hlimit => exact absurd rfl hverbatim
    | bare hne htoken hlength => exact absurd rfl hbare
    | quoted htext => exact endsToken_cons rfl _
    | hexadecimal hdigits hspaced => exact endsToken_cons rfl _
    | base64 hspaced => exact endsToken_cons rfl _

/-- What is written for items behind a bare token does not make it longer. -/
theorem EndsToken.of_writtenItems {items : List SExpr} {text rest : Octets}
    (hwritten : WrittenItems (some .bare) items text) (hrest : EndsToken rest) :
    EndsToken (text ++ rest) := by
  cases hwritten with
  | nil hgap =>
    by_cases hne : text = []
    · rw [hne]
      exact hrest
    · exact .of_blank hgap hne
  | @cons _ form item items gap text more hgap htouch hitem hitems =>
    rw [List.append_assoc]
    -- Without white space in front the next item may touch the token.
    by_cases hne : gap = []
    · rw [hne, List.nil_append, List.append_assoc]
      exact .of_written hitem (htouch hne)
    · exact .of_blank hgap hne

/-! ## Atoms -/

/-- An atom is read from what is written for it. -/
theorem advancedAtom_of_written {octets text : Octets} {form : Form}
    (hwritten : AtomWritten octets form text) {rest : Octets}
    (hrest : form = .bare → EndsToken rest) (offset : Nat) :
    ∃ first more, text = first :: more ∧
      (first ≠ 0x28 ∧ first ≠ 0x29 ∧ Octets.isBlank first = false) ∧
      advancedAtom offset first (more ++ rest) = .ok (octets, more.length) := by
  cases hwritten with
  | verbatim hlimit =>
    have hread := readVerbatim_verbatim offset rest hlimit
    have hlooks := startsWithLength_iff.mpr (looksVerbatim_verbatim rest hlimit)
    obtain ⟨first, more, hverbatim, hdigit⟩ := verbatim_eq_cons octets
    obtain ⟨hquote, hhash, hbar, hopening, hclosing, hblank⟩ :=
      ne_of_isToken (isToken_of_isDigit hdigit)
    refine ⟨first, more, hverbatim, ⟨hopening, hclosing, hblank⟩, ?_⟩
    rw [hverbatim, List.cons_append] at hread hlooks
    rw [advancedAtom, if_neg hquote, if_neg (by simp [hhash, hbar]), if_pos hlooks, hread]
    show Except.ok (octets, (first :: more).length - 1) = _
    rw [List.length_cons, Nat.add_sub_cancel]
  | @quoted text htext =>
    refine ⟨0x22, text ++ [0x22], rfl, ⟨by decide, by decide, rfl⟩, ?_⟩
    have hread := readQuoted_of_quoted htext rest (offset + 1) []
    rw [advancedAtom, if_pos rfl, List.append_assoc, List.singleton_append, hread]
    show Except.ok (octets, offset + 1 + text.length + 1 - (offset + 1)) = _
    rw [List.length_append, List.length_singleton]
    rw [show offset + 1 + text.length + 1 - (offset + 1) = text.length + 1 by omega]
  | @hexadecimal digits text hdigits hspaced =>
    refine ⟨0x23, text ++ [0x23], rfl, ⟨by decide, by decide, rfl⟩, ?_⟩
    rw [advancedAtom, if_neg (by decide), if_pos (.inl rfl), List.append_assoc,
      List.singleton_append, readDelimited_hexadecimal hdigits hspaced, List.length_append,
      List.length_singleton]
  | @base64 text hspaced =>
    refine ⟨0x7C, text ++ [0x7C], rfl, ⟨by decide, by decide, rfl⟩, ?_⟩
    rw [advancedAtom, if_neg (by decide), if_pos (.inr rfl), List.append_assoc,
      List.singleton_append, readDelimited_base64 hspaced, List.length_append,
      List.length_singleton]
  | bare hne htoken hlength =>
    obtain ⟨first, more, rfl⟩ := List.exists_cons_of_ne_nil hne
    have hends := hrest rfl
    obtain ⟨hquote, hhash, hbar, hopening, hclosing, hblank⟩ :=
      ne_of_isToken (htoken first List.mem_cons_self)
    -- The reader looks beyond the end of the token for a length, and finds none there either.
    have hlooks : ¬ startsWithLength (first :: (more ++ rest)) = true := by
      rw [startsWithLength_iff, ← List.cons_append]
      exact fun hlooks => hlength (hlooks.of_append hends)
    have hword : (more ++ rest).takeWhile isToken = more := by
      rw [List.takeWhile_append_of_pos fun octet hoctet => htoken octet
        (List.mem_cons_of_mem _ hoctet)]
      cases rest with
      | nil => simp
      | cons octet rest => simp [hends octet rfl]
    refine ⟨first, more, rfl, ⟨hopening, hclosing, hblank⟩, ?_⟩
    rw [advancedAtom, if_neg hquote, if_neg (by simp [hhash, hbar]), if_neg hlooks,
      if_pos (htoken first List.mem_cons_self), hword]

/-! ## What is written is read -/

/-- A list is written as its items between parentheses. -/
theorem parentheses_append (text rest : Octets) :
    0x28 :: (text ++ [0x29]) ++ rest
      = Token.opening.text ++ (text ++ (Token.closing.text ++ rest)) := by
  simp [Token.text]

section Steps

variable (offset : Nat) (stack : List (List SExpr))

/-- White space is passed over. -/
theorem read_blank {gap : Octets} (hgap : Blank gap) (rest : Octets) :
    read .advanced offset 0 stack (gap ++ rest)
      = read .advanced (offset + gap.length) 0 stack rest := by
  induction gap generalizing offset with
  | nil => rfl
  | cons octet gap ih =>
    have hoctet := hgap octet List.mem_cons_self
    have hrest : Blank gap := fun other hother => hgap other (List.mem_cons_of_mem _ hother)
    have hopening : octet ≠ 0x28 := by rintro rfl; cases hoctet
    have hclosing : octet ≠ 0x29 := by rintro rfl; cases hoctet
    have hskip : Grammar.advanced.skip? offset octet (gap ++ rest) = .ok (some 0) := by
      show Except.ok (if Octets.isBlank octet then some 0 else none) = _
      rw [if_pos hoctet]
    rw [List.cons_append, read.eq_def]
    simp only [hopening, hclosing, if_false, hskip]
    rw [ih (offset + 1) hrest, List.length_cons]
    rw [show offset + 1 + gap.length = offset + (gap.length + 1) by omega]

/-- An atom is added to the innermost list. -/
theorem read_atomWritten (items : List SExpr) {octets text : Octets} {form : Form}
    (hwritten : AtomWritten octets form text) {rest : Octets}
    (hrest : form = .bare → EndsToken rest) :
    read .advanced offset 0 (items :: stack) (text ++ rest)
      = read .advanced (offset + text.length) 0 ((atom octets :: items) :: stack) rest := by
  obtain ⟨first, more, rfl, ⟨hopening, hclosing, hblank⟩, hatom⟩ :=
    advancedAtom_of_written hwritten hrest offset
  have hskip : Grammar.advanced.skip? offset first (more ++ rest) = .ok none := by
    show Except.ok (if Octets.isBlank first then some 0 else none) = _
    rw [if_neg (by rw [hblank]; decide)]
  have hvalue : Grammar.advanced.atom offset first (more ++ rest) = .ok (octets, more.length) :=
    hatom
  rw [List.cons_append, read.eq_def]
  simp only [hopening, hclosing, if_false, hskip, hvalue]
  rw [read_pass, List.length_cons]
  rw [show offset + 1 + more.length = offset + (more.length + 1) by omega]

end Steps

mutual

/-- Reading what is written for an expression adds it to the innermost list. -/
theorem read_written (stack : List (List SExpr)) (items : List SExpr) (rest : Octets)
    (offset : Nat) (e : SExpr) (form : Form) (text : Octets) (hwritten : Written e form text)
    (hrest : form = .bare → EndsToken rest) :
    read .advanced offset 0 (items :: stack) (text ++ rest)
      = read .advanced (offset + text.length) 0 ((e :: items) :: stack) rest := by
  cases e with
  | atom octets =>
    cases hwritten with
    | atom hatom => exact read_atomWritten offset stack items hatom hrest
  | list inner =>
    cases hwritten with
    | @list _ text hinner =>
      -- The parenthesis opens a list, which the items fill, and which the other one adds to the
      -- list around it.
      have hopening := read_opening .advanced offset (items :: stack)
        (text ++ (Token.closing.text ++ rest))
      have hitems := read_writtenItems (items :: stack) [] (Token.closing.text ++ rest)
        (offset + 1) inner none text hinner (endsToken_cons rfl rest)
      have hclosing := read_closing .advanced (offset + 1 + text.length) stack
        (inner.reverse ++ []) items rest
      have hlength : offset + (0x28 :: (text ++ [0x29])).length
          = offset + 1 + text.length + 1 := by
        rw [List.length_cons, List.length_append, List.length_singleton]
        omega
      rw [parentheses_append, hlength, hopening, hitems, hclosing, List.append_nil,
        List.reverse_reverse]

/-- Reading what is written for the items of a list adds them one after the other. -/
theorem read_writtenItems (stack : List (List SExpr)) (items : List SExpr) (rest : Octets)
    (offset : Nat) (added : List SExpr) (previous : Option Form) (text : Octets)
    (hwritten : WrittenItems previous added text) (hrest : EndsToken rest) :
    read .advanced offset 0 (items :: stack) (text ++ rest)
      = read .advanced (offset + text.length) 0 ((added.reverse ++ items) :: stack) rest := by
  cases added with
  | nil =>
    cases hwritten with
    | nil hgap => exact read_blank offset (items :: stack) hgap rest
  | cons e added =>
    cases hwritten with
    | @cons _ form _ _ gap text more hgap htouch hitem hmore =>
      have hbehind : form = .bare → EndsToken (more ++ rest) := by
        rintro rfl
        exact .of_writtenItems hmore hrest
      rw [List.append_assoc, read_blank offset (items :: stack) hgap, List.append_assoc,
        read_written stack items _ _ e form text hitem hbehind,
        read_writtenItems stack (e :: items) rest _ added (some form) more hmore hrest]
      rw [List.reverse_cons, List.append_assoc, List.singleton_append, List.length_append,
        List.length_append, Nat.add_assoc, Nat.add_assoc]

end

/-- Whatever is written for a list is read to its items. -/
theorem parseAdvanced_of_rendered {items : List SExpr} {text : Octets}
    (hrendered : Rendered items text) : parseAdvanced text = .ok items := by
  obtain ⟨before, middle, behind, hbefore, hbehind, hwritten, rfl⟩ := hrendered
  cases hwritten with
  | @list _ text hitems =>
    have hopening := read_opening .advanced (0 + before.length) []
      (text ++ (Token.closing.text ++ behind))
    have hread := read_writtenItems [] [] (Token.closing.text ++ behind) (0 + before.length + 1)
      items none text hitems (endsToken_cons rfl behind)
    have hfollow : Grammar.advanced.mayFollow behind = true := List.all_eq_true.mpr hbehind
    rw [parseAdvanced, read_blank 0 [] hbefore, parentheses_append, hopening, hread]
    simp [Token.text, read, hfollow]

/-- An expression with atoms of each form. -/
def mixedItems : List SExpr :=
  [atom [0x61, 0x62], list [atom [0x78], atom []], atom [0x0A, 0x6A, 0x6B, 0x6C],
    atom [0xAB, 0x0F], atom [0x61], list []]

/-- What it is written as: `( ab(1:x"")"\n\x6a\153\` at the end of a line, and on the next
`l" #A b0f#|YQ= =|() )`. -/
def mixedText : Octets :=
  Octets.ofText "\t( ab(1:x\"\")\"\\n\\x6a\\153\\\nl\" #A b0f#|YQ= =|() )\n"

theorem parseAdvanced_of_rendered_mixed :
    Rendered mixedItems mixedText ∧ parseAdvanced mixedText = .ok mixedItems := by
  have hnone : Blank [] := by simp [Blank]
  have hspace : Blank [0x20] := by simp [Blank, Octets.isBlank]
  have hname : ((0x0A : UInt8), (0x6E : UInt8)) ∈ namedEscapes := by decide
  have hhigh : IsHexDigit ((0x6A : UInt8).toNat / 16) 0x36 := ⟨by decide, .inl rfl⟩
  have hlow : IsHexDigit ((0x6A : UInt8).toNat % 16) 0x61 := ⟨by decide, .inl rfl⟩
  have hquoted : AtomWritten [0x0A, 0x6A, 0x6B, 0x6C] .quoted _ :=
    .quoted (.octet (.named hname) (.octet (.hexadecimal hhigh hlow) (.octet .octal
      (.continued (.lf (by decide)) (.octet (.literal (by decide) (by decide)) .nil)))))
  have hdigits : Hexadecimal [0xAB, 0x0F] [0x41, 0x62, 0x30, 0x66] :=
    .cons ⟨by decide, .inr rfl⟩ ⟨by decide, .inl rfl⟩
      (.cons ⟨by decide, .inl rfl⟩ ⟨by decide, .inl rfl⟩ .nil)
  have hhexadecimal : AtomWritten [0xAB, 0x0F] .hexadecimal _ :=
    .hexadecimal hdigits (show Spaced _ (Octets.ofText "A b0f") from rfl)
  have hbase64 : AtomWritten [0x61] .base64 _ :=
    .base64 (show Spaced _ (Octets.ofText "YQ= =") from rfl)
  have hbare : AtomWritten [0x61, 0x62] .bare [0x61, 0x62] := by
    refine .bare (by simp) (List.all_eq_true.mp (by decide)) ?_
    rw [← startsWithLength_iff]
    decide
  have hverbatim : AtomWritten [0x78] .verbatim _ := .verbatim (by decide)
  have hinner : WrittenItems none [atom [0x78], atom []] _ :=
    .cons hnone (by simp [MayTouch]) (.atom hverbatim)
      (.cons hnone (by simp [MayTouch]) (.atom (.quoted .nil)) (.nil hnone))
  have hitems : WrittenItems none mixedItems _ :=
    .cons hspace (by simp) (.atom hbare) <|
    .cons hnone (by simp [MayTouch]) (.list hinner) <|
    .cons hnone (by simp [MayTouch]) (.atom hquoted) <|
    .cons hspace (by simp) (.atom hhexadecimal) <|
    .cons hnone (by simp [MayTouch]) (.atom hbase64) <|
    .cons hnone (by simp [MayTouch]) (.list (.nil hnone)) (.nil hspace)
  have hrendered : Rendered mixedItems mixedText :=
    ⟨[0x09], _, [0x0A], by simp [Blank, Octets.isBlank], by simp [Blank, Octets.isBlank],
      .list hitems, rfl⟩
  exact ⟨hrendered, parseAdvanced_of_rendered hrendered⟩

end CommitSeal.SExpr
