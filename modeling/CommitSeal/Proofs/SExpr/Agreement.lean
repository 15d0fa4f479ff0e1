import CommitSeal.SExpr.KeyFile
import CommitSeal.Proofs.SExpr.Advanced

/-!
# Where the two written forms meet

A canonical text without display hints is an advanced text as well, and both readers make the same
of it. They do so token by token, with the same lists open (`SExpr.read_advanced_of_tokens`): what
tells an atom behind its length from a bare token is there in front of every canonical atom, and
white space, which only one of the readers passes over, is nowhere but inside atoms.

So it does not matter which reader a key file is given to (`SExpr.readers_agree`). That is needed:
the file is told from its second octet, which is a digit if an atom comes first, and none if the
list is empty or starts with another list.
-/

namespace CommitSeal.SExpr

/-! ## Texts with display hints -/

/-- Among the tokens that a text is made of there is a display hint. -/
def HasHint (text : Octets) : Prop :=
  ∃ tokens : List Token, (∀ token ∈ tokens, token.Fits) ∧ text = Token.spell tokens ∧
    ∃ token ∈ tokens, token.isHint = true

/-- A text that is read is made of tokens, and those of them that are no hints make up the canonical
form of what was read. -/
theorem tokens_of_parse {text : Octets} {items : List SExpr}
    (hparse : parseCanonical text = .ok items) :
    ∃ tokens : List Token, (∀ token ∈ tokens, token.Fits) ∧ text = Token.spell tokens ∧
      canonical (list items) = Token.spell (tokens.filter fun token => !token.isHint) := by
  unfold parseCanonical parseCanonicalWith at hparse
  split at hparse
  · obtain ⟨tokens, hfits, ⟨rest, htext, hrest⟩, hwritten⟩ := tokens_of_read hparse
    obtain rfl : rest = [] := by simpa [Grammar.canonical] using hrest
    rw [List.drop_zero, List.append_nil] at htext
    exact ⟨tokens, hfits, htext, hwritten.symm⟩
  · cases hparse

/-- The writer makes no hints. -/
theorem not_hasHint_canonical {items : List SExpr} (hatoms : WithinLimit (list items).atoms) :
    ¬ HasHint (canonical (list items)) := by
  rintro ⟨tokens, hfits, htext, token, htoken, hhint⟩
  obtain ⟨others, hothers, hspell, hwritten⟩ := tokens_of_parse (parseCanonical_canonical hatoms)
  obtain rfl : tokens = others := Token.eq_of_spell hfits hothers (htext.symm.trans hspell)
  -- The tokens that are no hints make up the whole text, so they are all there are.
  have hall : (tokens.filter fun token => !token.isHint) = tokens :=
    Token.eq_of_spell (fun other hother => hfits other (List.mem_filter.mp hother).1) hfits
      (hwritten.symm.trans htext)
  have hnone := List.filter_eq_self.mp hall token htoken
  rw [hhint] at hnone
  cases hnone

/-! ## Reading in step -/

/-- Outside of all lists there is no place for an atom. -/
theorem read_atom_stray (padded : Bool) (offset : Nat) (octets rest : Octets) :
    read (.canonical padded) offset 0 [] ((Token.atom octets).text ++ rest)
      = .error (.strayAtom offset) := by
  obtain ⟨first, more, hverbatim, hdigit⟩ := verbatim_eq_cons octets
  obtain ⟨hopening, hclosing, hbracket⟩ := ne_of_isDigit hdigit
  simp only [Token.text, hverbatim, List.cons_append, read, hopening, hclosing, if_false,
    Grammar.canonical, canonicalSkip?, hbracket]

/-- What the reader of the canonical form makes of tokens without hints, whatever lists are open,
the reader of the advanced form makes of them too. -/
theorem read_advanced_of_tokens {tokens : List Token} {items : List SExpr}
    (hfits : ∀ token ∈ tokens, token.Fits) (hhints : ∀ token ∈ tokens, token.isHint = false)
    {offset : Nat} {stack : List (List SExpr)}
    (hread : read (.canonical false) offset 0 stack (Token.spell tokens) = .ok items) :
    read .advanced offset 0 stack (Token.spell tokens) = .ok items := by
  induction tokens generalizing offset stack with
  | nil => cases hread
  | cons token tokens ih =>
    obtain ⟨hfit, hmore⟩ := List.forall_mem_cons.mp hfits
    obtain ⟨hhint, hnone⟩ := List.forall_mem_cons.mp hhints
    rw [Token.spell_cons] at hread ⊢
    cases token with
    | opening =>
      rw [read_opening] at hread ⊢
      exact ih hmore hnone hread
    | closing =>
      rcases stack with _ | ⟨inner, _ | ⟨outer, below⟩⟩
      · cases hread
      · -- The outermost list is closed at the end of the text, where neither reader goes on.
        by_cases hend : Token.spell tokens = []
        · rw [hend] at hread ⊢
          exact hread
        · have hrefused : (Grammar.canonical false).mayFollow (Token.spell tokens) = false := by
            simpa [Grammar.canonical] using hend
          simp [Token.text, read, hrefused] at hread
      · rw [read_closing] at hread ⊢
        exact ih hmore hnone hread
    | atom octets =>
      cases stack with
      | nil =>
        rw [read_atom_stray] at hread
        cases hread
      | cons inner below =>
        have hends : Form.verbatim = .bare → EndsToken (Token.spell tokens) := by
          intro hbare
          cases hbare
        have hadvanced := read_atomWritten offset below inner (AtomWritten.verbatim hfit) hends
        rw [read_atom false offset below inner _ hfit] at hread
        rw [Token.text, hadvanced]
        exact ih hmore hnone hread
    | hint octets => cases hhint

/-! ## Both readers -/

/-- A canonical text without hints is read as an advanced text to the same items. -/
theorem parseAdvanced_of_parseCanonical {text : Octets} {items : List SExpr}
    (hparse : parseCanonical text = .ok items) (hhints : ¬ HasHint text) :
    parseAdvanced text = .ok items := by
  obtain ⟨tokens, hfits, rfl, -⟩ := tokens_of_parse hparse
  have hnone : ∀ token ∈ tokens, token.isHint = false := by
    intro token htoken
    rw [← Bool.not_eq_true]
    exact fun hhint => hhints ⟨tokens, hfits, rfl, token, htoken, hhint⟩
  unfold parseCanonical parseCanonicalWith at hparse
  split at hparse
  · exact read_advanced_of_tokens hfits hnone hparse
  · cases hparse

/-- A key file that both readers read alike is read so, whichever of them it is given to. -/
theorem parseKeyFile_of_both {file : Octets} {items : List SExpr}
    (hcanonical : parseCanonical file = .ok items) (hadvanced : parseAdvanced file = .ok items) :
    parseKeyFile file = .ok items := by
  have hhead : file.head? = some 0x28 := by
    by_contra hother
    rw [parseCanonical, parseCanonicalWith, if_neg hother] at hcanonical
    cases hcanonical
  obtain ⟨rest, rfl⟩ := List.head?_eq_some_iff.mp hhead
  unfold parseKeyFile
  simp only
  split
  · exact hcanonical
  · exact hadvanced

/-- The canonical form of a list is read from a key file, whatever the list starts with. -/
theorem parseKeyFile_canonical {items : List SExpr} (hatoms : WithinLimit (list items).atoms) :
    parseKeyFile (canonical (list items)) = .ok items := by
  have hparse := parseCanonical_canonical hatoms
  exact parseKeyFile_of_both hparse
    (parseAdvanced_of_parseCanonical hparse (not_hasHint_canonical hatoms))

/-- What is read as a canonical text, and has no display hints in it, is read to the same items as
an advanced text and as a key file. And the canonical form of a list with atoms that are not too
long is read back from a key file, also if the list is empty or starts with a list. -/
theorem readers_agree :
    (∀ text items, parseCanonical text = .ok items → ¬ HasHint text →
      parseAdvanced text = .ok items ∧ parseKeyFile text = .ok items) ∧
    ∀ items, (∀ octets ∈ (list items).atoms, octets.length < lengthLimit) →
      parseKeyFile (canonical (list items)) = .ok items := by
  refine ⟨fun text items hparse hhints => ?_, fun items => parseKeyFile_canonical⟩
  have hadvanced := parseAdvanced_of_parseCanonical hparse hhints
  exact ⟨hadvanced, parseKeyFile_of_both hparse hadvanced⟩

/-- The text starts with a list, so that it is given to the reader of the advanced form, to which
the octets of its second atom would be white space and a token. -/
theorem readers_agree_nested :
    (parseCanonical (Octets.ofText "((0:)4: 1:))")
        = .ok [list [atom []], atom [0x20, 0x31, 0x3A, 0x29]] ∧
      ¬ HasHint (Octets.ofText "((0:)4: 1:))") ∧
      parseAdvanced (Octets.ofText "((0:)4: 1:))")
        = .ok [list [atom []], atom [0x20, 0x31, 0x3A, 0x29]] ∧
      parseKeyFile (Octets.ofText "((0:)4: 1:))")
        = .ok [list [atom []], atom [0x20, 0x31, 0x3A, 0x29]]) ∧
    ((∀ octets ∈ (list []).atoms, octets.length < lengthLimit) ∧
      parseKeyFile (Octets.ofText "()") = .ok []) := by
  have hparse : parseCanonical (Octets.ofText "((0:)4: 1:))")
      = .ok [list [atom []], atom [0x20, 0x31, 0x3A, 0x29]] := rfl
  have hatoms : WithinLimit (list [list [atom []], atom [0x20, 0x31, 0x3A, 0x29]]).atoms := by
    show ∀ octets ∈ [[], [0x20, 0x31, 0x3A, 0x29]], octets.length < lengthLimit
    decide
  have hhints : ¬ HasHint (Octets.ofText "((0:)4: 1:))") := not_hasHint_canonical hatoms
  have hempty : ∀ octets ∈ (list []).atoms, octets.length < lengthLimit := nofun
  exact ⟨⟨hparse, hhints, readers_agree.1 _ _ hparse hhints⟩, hempty, readers_agree.2 [] hempty⟩

end CommitSeal.SExpr
