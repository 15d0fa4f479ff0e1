import CommitSeal.Proofs.SExpr.Canonical
import Mathlib.Data.List.Flatten

/-!
# Behind the last parenthesis

The reader of a canonical text stops at the parenthesis that closes its expression. What stands
behind it has no part in the result, only that the strict form does not allow for it: a text up to
that parenthesis is the whole of an expression (`SExpr.IsWhole`), and every text that is read has
one in front (`SExpr.exists_whole_of_parse`). There is no other front part that is read, so an
expression ends at one place only (`SExpr.parsePadded_iff_front`).

In particular a text that is followed by zeros is read just as it is without them, since a zero
closes nothing (`SExpr.parsePadded_append_zeros`).
-/

namespace CommitSeal.SExpr

/-! ## What a token is read from -/

/-- An atom is read from its own octets. -/
theorem readVerbatim_of_take {offset taken : Nat} {text other octets : Octets}
    (hread : readVerbatim offset text = .ok (octets, taken)) (hother : text.take taken <+: other) :
    readVerbatim offset other = .ok (octets, taken) := by
  obtain ⟨hfits, rfl, hprefix⟩ := readVerbatim_eq_ok.mp hread
  refine readVerbatim_eq_ok.mpr ⟨hfits, rfl, ?_⟩
  rwa [← List.prefix_iff_eq_take.mp hprefix] at hother

theorem canonicalAtom_of_take {offset more : Nat} {octet : UInt8} {rest other value : Octets}
    (hatom : canonicalAtom offset octet rest = .ok (value, more))
    (hother : rest.take more <+: other) :
    canonicalAtom offset octet other = .ok (value, more) := by
  unfold canonicalAtom at hatom ⊢
  split at hatom
  · cases hatom
  · rename_i octets taken hread
    obtain ⟨rfl, rfl⟩ := Prod.mk.inj (Except.ok.inj hatom)
    have hpos : taken ≠ 0 := by
      obtain ⟨-, rfl, -⟩ := readVerbatim_eq_ok.mp hread
      obtain ⟨first, more, hverbatim, -⟩ := verbatim_eq_cons octets
      simp [hverbatim]
    have htake : (octet :: rest).take taken <+: octet :: other := by
      rw [List.take_cons (Nat.pos_of_ne_zero hpos)]
      exact List.cons_prefix_cons.mpr ⟨rfl, hother⟩
    rw [readVerbatim_of_take hread htake]

theorem canonicalSkip?_of_take {offset more : Nat} {octet : UInt8} {rest other : Octets}
    (hskip : canonicalSkip? offset octet rest = .ok (some more))
    (hother : rest.take more <+: other) :
    canonicalSkip? offset octet other = .ok (some more) := by
  unfold canonicalSkip? at hskip ⊢
  by_cases hbracket : octet = 0x5B
  · rw [if_pos hbracket] at hskip ⊢
    split at hskip
    · cases hskip
    · rename_i octets taken hread
      by_cases hclosed : (rest.drop taken).head? = some 0x5D
      · rw [if_pos hclosed] at hskip
        obtain rfl := Option.some.inj (Except.ok.inj hskip)
        have hfront : rest.take taken <+: other :=
          (List.take_prefix_take_left (Nat.le_succ taken)).trans hother
        have hbehind : (other.drop taken).head? = some 0x5D := by
          obtain ⟨behind, rfl⟩ := hother
          rw [List.head?_drop] at hclosed ⊢
          obtain ⟨hlength, -⟩ := List.getElem?_eq_some_iff.mp hclosed
          rw [List.getElem?_append_left (by rw [List.length_take]; omega),
            List.getElem?_take_of_lt (Nat.lt_succ_self taken), hclosed]
        simp only [readVerbatim_of_take hread hfront, if_pos hbehind]
      · rw [if_neg hclosed] at hskip
        cases hskip
  · rw [if_neg hbracket] at hskip
    cases hskip

/-- Whether an octet starts a display hint is seen from the octet alone. -/
theorem canonicalSkip?_eq_none_iff {offset : Nat} {octet : UInt8} {rest : Octets} :
    canonicalSkip? offset octet rest = .ok none ↔ octet ≠ 0x5B := by
  unfold canonicalSkip?
  by_cases hbracket : octet = 0x5B
  · rw [if_pos hbracket]
    constructor
    · intro hskip
      split at hskip
      · cases hskip
      · split at hskip <;> cases hskip
    · exact fun hother => absurd hbracket hother
  · rw [if_neg hbracket]
    exact ⟨fun _ => hbracket, fun _ => rfl⟩

/-- The answer at the parenthesis that closes an expression, in front of `behind`. -/
def answerBefore (padded : Bool) (items : List SExpr) (behind : Octets) :
    Except ReadError (List SExpr) :=
  if (Grammar.canonical padded).mayFollow behind then .ok items else .error .trailing

/-- What the reader does with the next octet of a text: it has read a token, and would do so in
front of any other text that goes on with the octets of the token; or the octet is the parenthesis
that closes the expression. Padding is of account in the second case only. -/
theorem read_cons_of_take {padded : Bool} {offset : Nat} {stack : List (List SExpr)} {octet : UInt8}
    {rest : Octets} {items : List SExpr}
    (hread : read (.canonical padded) offset 0 stack (octet :: rest) = .ok items) :
    (∃ next more, read (.canonical padded) (offset + 1) more next rest = .ok items ∧
        ∀ either other, rest.take more <+: other →
          read (.canonical either) offset 0 stack (octet :: other)
            = read (.canonical either) (offset + 1) more next other) ∨
      octet = 0x29 ∧ ∀ either other,
        read (.canonical either) offset 0 stack (octet :: other)
          = answerBefore either items other := by
  have hstep := fun either other =>
    read.eq_def (.canonical either) offset 0 stack (octet :: other)
  simp only at hstep
  rw [hstep] at hread
  by_cases hopening : octet = 0x28
  · rw [if_pos hopening] at hread
    refine .inl ⟨[] :: stack, 0, hread, fun either other _ => ?_⟩
    rw [hstep, if_pos hopening]
  · rw [if_neg hopening] at hread
    by_cases hclosing : octet = 0x29
    · rw [if_pos hclosing] at hread
      rcases stack with _ | ⟨inner, _ | ⟨outer, below⟩⟩
      · cases hread
      · simp only at hread
        split at hread
        · obtain rfl := Except.ok.inj hread
          refine .inr ⟨hclosing, fun either other => ?_⟩
          rw [hstep, if_neg hopening, if_pos hclosing]
          rfl
        · cases hread
      · refine .inl ⟨(list inner.reverse :: outer) :: below, 0, hread, fun either other _ => ?_⟩
        rw [hstep, if_neg hopening, if_pos hclosing]
    · rw [if_neg hclosing] at hread
      split at hread
      · cases hread
      · rename_i more hskip
        refine .inl ⟨stack, more, hread, fun either other hother => ?_⟩
        have hsame : (Grammar.canonical either).skip? offset octet other = .ok (some more) :=
          canonicalSkip?_of_take hskip hother
        rw [hstep, if_neg hopening, if_neg hclosing, hsame]
      · rename_i hskip
        split at hread
        · cases hread
        · rename_i inner below
          split at hread
          · cases hread
          · rename_i value more hatom
            refine .inl ⟨(atom value :: inner) :: below, more, hread, fun either other hother => ?_⟩
            have hnone : (Grammar.canonical either).skip? offset octet other = .ok none :=
              canonicalSkip?_eq_none_iff.mpr (canonicalSkip?_eq_none_iff.mp hskip)
            have hsame : (Grammar.canonical either).atom offset octet other = .ok (value, more) :=
              canonicalAtom_of_take hatom hother
            rw [hstep, if_neg hopening, if_neg hclosing]
            simp only [hnone, hsame]

/-! ## The text up to the parenthesis -/

/-- An expression is read from the text up to its last parenthesis. -/
theorem exists_front_of_read {padded : Bool} {text : Octets} {items : List SExpr} :
    ∀ {offset pass : Nat} {stack : List (List SExpr)},
      read (.canonical padded) offset pass stack text = .ok items →
      ∃ front rest, text = front ++ 0x29 :: rest ∧ pass ≤ front.length ∧
        ∀ either behind, read (.canonical either) offset pass stack (front ++ 0x29 :: behind)
          = answerBefore either items behind := by
  induction text with
  | nil =>
    intro offset pass stack hread
    cases hread
  | cons octet text ih =>
    intro offset pass stack hread
    cases pass with
    | succ pass =>
      rw [read] at hread
      obtain ⟨front, rest, rfl, hpass, hall⟩ := ih hread
      exact ⟨octet :: front, rest, rfl, Nat.succ_le_succ hpass, hall⟩
    | zero =>
      rcases read_cons_of_take hread with ⟨next, more, hnext, hlocal⟩ | ⟨rfl, hall⟩
      · -- The octets of the token stand in front of the parenthesis, since they are passed over.
        obtain ⟨front, rest, rfl, hmore, hall⟩ := ih hnext
        refine ⟨octet :: front, rest, rfl, Nat.zero_le _, fun either behind => ?_⟩
        have htoken : (front ++ 0x29 :: rest).take more <+: front ++ 0x29 :: behind := by
          rw [List.take_append_of_le_length hmore]
          exact (List.take_prefix more front).trans (List.prefix_append _ _)
        rw [List.cons_append, hlocal either _ htoken]
        exact hall either behind
      · exact ⟨[], text, rfl, Nat.le_refl 0, hall⟩

/-- A text is the whole of an expression: with anything behind it the answer is as it is behind the
closing parenthesis. -/
def IsWhole (text : Octets) (items : List SExpr) : Prop :=
  ∀ padded behind, parseCanonicalWith padded (text ++ behind) = answerBefore padded items behind

/-- A text that is read has a whole expression in front, which ends with a parenthesis. -/
theorem exists_whole_of_parse {padded : Bool} {text : Octets} {items : List SExpr}
    (hparse : parseCanonicalWith padded text = .ok items) :
    ∃ front rest, text = front ++ 0x29 :: rest ∧ IsWhole (front ++ [0x29]) items := by
  unfold parseCanonicalWith at hparse
  split at hparse
  · rename_i hhead
    obtain ⟨front, rest, rfl, -, hall⟩ := exists_front_of_read hparse
    refine ⟨front, rest, rfl, fun either behind => ?_⟩
    have hsame : (front ++ 0x29 :: behind).head? = some 0x28 := by
      cases front with
      | nil => cases hhead
      | cons first front => exact hhead
    rw [List.append_assoc, List.singleton_append, parseCanonicalWith, if_pos hsame]
    exact hall either behind
  · cases hparse

namespace IsWhole

variable {text : Octets} {items : List SExpr}

/-- Padding is passed over where it is allowed. -/
theorem parsePadded (hwhole : IsWhole text items) (padding : Octets) :
    parsePadded (text ++ padding) = .ok items := hwhole true padding

/-- The strict form takes the expression alone. -/
theorem parseCanonical (hwhole : IsWhole text items) : parseCanonical text = .ok items := by
  have halone := hwhole false []
  rwa [List.append_nil] at halone

/-- It refuses anything behind the expression. -/
theorem parseCanonical_append (hwhole : IsWhole text items) {behind : Octets}
    (hbehind : behind ≠ []) : SExpr.parseCanonical (text ++ behind) = .error .trailing := by
  have hrefused : (Grammar.canonical false).mayFollow behind = false := by
    simpa [Grammar.canonical] using hbehind
  rw [SExpr.parseCanonical, hwhole, answerBefore, hrefused]
  rfl

end IsWhole

/-- Just the whole expressions are read in the strict form. -/
theorem parseCanonical_eq_ok_iff {text : Octets} {items : List SExpr} :
    parseCanonical text = .ok items ↔ IsWhole text items := by
  refine ⟨fun hparse => ?_, IsWhole.parseCanonical⟩
  obtain ⟨front, rest, rfl, hwhole⟩ := exists_whole_of_parse hparse
  rw [← List.singleton_append, ← List.append_assoc] at hparse ⊢
  by_cases hrest : rest = []
  · rwa [hrest, List.append_nil]
  · rw [hwhole.parseCanonical_append hrest] at hparse
    cases hparse

/-- What is read is written in no more octets than the text has. -/
theorem length_canonical_le_of_parsePadded {text : Octets} {items : List SExpr}
    (hparse : parsePadded text = .ok items) : (canonical (list items)).length ≤ text.length := by
  unfold parsePadded parseCanonicalWith at hparse
  split at hparse
  · obtain ⟨tokens, -, ⟨rest, htext, -⟩, hcanonical⟩ := tokens_of_read hparse
    rw [List.drop_zero] at htext
    rw [openText, List.nil_append] at hcanonical
    have hshorter : (Token.spell (tokens.filter fun token => !token.isHint)).length
        ≤ (Token.spell tokens).length :=
      (List.filter_sublist.flatMap Token.text).length_le
    rw [← hcanonical, htext, List.length_append]
    omega
  · cases hparse

/-- Zeros behind a text change nothing. -/
theorem parsePadded_append_zeros {text : Octets} {items : List SExpr} (count : Nat) :
    parsePadded (text ++ List.replicate count 0) = .ok items ↔ parsePadded text = .ok items := by
  have hparenthesis : (0x29 : UInt8) ∉ List.replicate count 0 := by
    intro hmem
    exact absurd (List.eq_of_mem_replicate hmem) (by decide)
  constructor
  · intro hparse
    obtain ⟨front, rest, htext, hwhole⟩ := exists_whole_of_parse hparse
    -- The parenthesis is no zero, so it stands in the text.
    rcases List.append_eq_append_iff.mp htext with
      ⟨between, -, hzeros⟩ | ⟨between, hbetween, hrest⟩
    · exact absurd (by rw [hzeros]; simp) hparenthesis
    · cases between with
      | nil =>
        rw [List.nil_append] at hrest
        exact absurd (by rw [← hrest]; simp) hparenthesis
      | cons first between =>
        obtain ⟨rfl, -⟩ := List.cons.inj hrest
        have hread := hwhole.parsePadded between
        rwa [List.append_assoc, List.singleton_append, ← hbetween] at hread
  · intro hparse
    obtain ⟨front, rest, rfl, hwhole⟩ := exists_whole_of_parse hparse
    have hread := hwhole.parsePadded (rest ++ List.replicate count 0)
    rwa [List.append_assoc, List.singleton_append, ← List.cons_append, ← List.append_assoc] at hread

/-! ## The end of an expression -/

/-- Two whole expressions with which one text starts are the same. -/
theorem eq_of_whole_prefixes {text front other : Octets} {items others : List SExpr}
    (hfront : front <+: text) (hother : other <+: text) (hwhole : IsWhole front items)
    (hwhole' : IsWhole other others) : front = other := by
  have hunique : ∀ {first second : Octets} {items others : List SExpr}, first <+: second →
      IsWhole first items → IsWhole second others → first = second := by
    rintro first second items others ⟨more, rfl⟩ hfirst hsecond
    by_cases hmore : more = []
    · rw [hmore, List.append_nil]
    · have hread := hfirst.parseCanonical_append hmore
      rw [hsecond.parseCanonical] at hread
      cases hread
  rcases List.prefix_or_prefix_of_prefix hfront hother with hshorter | hlonger
  · exact hunique hshorter hwhole hwhole'
  · exact (hunique hlonger hwhole' hwhole).symm

/-- Where padding is allowed, an expression is read from a text if and only if it is read from a
front part of the text in the strict form. There is no more than one such part. So anything behind a
whole expression leaves the result as it is, and is refused in the strict form. -/
theorem parsePadded_iff_front (text : Octets) :
    (∀ items, parsePadded text = .ok items ↔
      ∃ front, front <+: text ∧ parseCanonical front = .ok items) ∧
    (∀ front other items others, front <+: text → other <+: text →
      parseCanonical front = .ok items → parseCanonical other = .ok others → front = other) ∧
    ∀ items more, parseCanonical text = .ok items → more ≠ [] →
      parsePadded (text ++ more) = .ok items ∧
        parseCanonical (text ++ more) = .error .trailing := by
  refine ⟨fun items => ⟨fun hparse => ?_, ?_⟩, ?_, ?_⟩
  · obtain ⟨front, rest, rfl, hwhole⟩ := exists_whole_of_parse hparse
    refine ⟨front ++ [0x29], ⟨rest, ?_⟩, hwhole.parseCanonical⟩
    rw [List.append_assoc, List.singleton_append]
  · rintro ⟨front, ⟨padding, rfl⟩, hfront⟩
    exact (parseCanonical_eq_ok_iff.mp hfront).parsePadded padding
  · intro front other items others hfront hother hread hread'
    exact eq_of_whole_prefixes hfront hother (parseCanonical_eq_ok_iff.mp hread)
      (parseCanonical_eq_ok_iff.mp hread')
  · intro items more hread hmore
    have hwhole := parseCanonical_eq_ok_iff.mp hread
    exact ⟨hwhole.parsePadded more, hwhole.parseCanonical_append hmore⟩

/-- An atom of parentheses in a list, and padding that looks like the end of another list. -/
theorem parsePadded_iff_front_parentheses :
    (parseCanonical (Octets.ofText "(2:)))") = .ok [atom [0x29, 0x29]] ∧
      parsePadded (Octets.ofText "(2:)))))") = .ok [atom [0x29, 0x29]] ∧
      parseCanonical (Octets.ofText "(2:)))))") = .error .trailing) ∧
    ∀ front items, front <+: Octets.ofText "(2:)))))" → parseCanonical front = .ok items →
      front = Octets.ofText "(2:)))" := by
  have hwhole : parseCanonical (Octets.ofText "(2:)))") = .ok [atom [0x29, 0x29]] := rfl
  have hpadding : Octets.ofText "))" ≠ [] := by decide
  have hprefix : Octets.ofText "(2:)))" <+: Octets.ofText "(2:)))))" := by decide
  obtain ⟨hpadded, hstrict⟩ := (parsePadded_iff_front _).2.2 _ _ hwhole hpadding
  exact ⟨⟨hwhole, hpadded, hstrict⟩, fun front items hfront hread =>
    (parsePadded_iff_front _).2.1 front _ items _ hfront hprefix hread hwhole⟩

end CommitSeal.SExpr
