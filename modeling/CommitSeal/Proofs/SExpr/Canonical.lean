import CommitSeal.Proofs.SExpr.Verbatim
import CommitSeal.SExpr.Canonical

/-!
# Canonical S-expressions

A text that is read as a canonical S-expression is a sequence of tokens: parentheses, atoms behind
their lengths, and display hints (`SExpr.Token`). Which tokens it is made of is determined by the
text alone (`SExpr.Token.eq_of_spell`), so it makes sense to speak of the text without its hints.

The reader keeps a stack of the lists that are open. `SExpr.openText` is what the canonical form of
its result has in front when the stack is as it is, and each token that is read adds itself to it,
unless it is a hint (`SExpr.tokens_of_read`). Conversely a canonical form adds its expression to the
innermost open list (`SExpr.read_canonical`).
-/

namespace CommitSeal.SExpr

/-! ## Tokens -/

/-- The smallest parts of a canonical text. -/
inductive Token where
  /-- A parenthesis that opens a list. -/
  | opening
  /-- A parenthesis that closes a list. -/
  | closing
  /-- An atom behind its length. -/
  | atom (octets : Octets)
  /-- An atom in brackets, which is passed over. -/
  | hint (octets : Octets)

namespace Token

/-- How a token is written. -/
def text : Token → Octets
  | opening => [0x28]
  | closing => [0x29]
  | atom octets => verbatim octets
  | hint octets => 0x5B :: (verbatim octets ++ [0x5D])

/-- Whether a token is a display hint. -/
def isHint : Token → Bool
  | hint _ => true
  | _ => false

/-- What a token holds has a length of at most nine digits. -/
def Fits : Token → Prop
  | opening => True
  | closing => True
  | atom octets => octets.length < lengthLimit
  | hint octets => octets.length < lengthLimit

/-- The text that tokens make. -/
def spell (tokens : List Token) : Octets := tokens.flatMap text

@[simp]
theorem spell_nil : spell [] = [] := rfl

@[simp]
theorem spell_cons (token : Token) (tokens : List Token) :
    spell (token :: tokens) = token.text ++ spell tokens := rfl

/-- The token that a text starts with, and what is behind it. -/
def next? : Octets → Option (Token × Octets)
  | [] => none
  | octet :: rest =>
    if octet = 0x28 then some (opening, rest)
    else if octet = 0x29 then some (closing, rest)
    else if octet = 0x5B then
      match readVerbatim 0 rest with
      | .ok (octets, taken) => some (hint octets, rest.drop (taken + 1))
      | .error _ => none
    else
      match readVerbatim 0 (octet :: rest) with
      | .ok (octets, taken) => some (atom octets, (octet :: rest).drop taken)
      | .error _ => none

end Token

/-- What is written for an atom starts with a digit. -/
theorem verbatim_eq_cons (octets : Octets) :
    ∃ first more, verbatim octets = first :: more ∧ isDigit first = true := by
  cases hdigits : Numeral.decimal octets.length with
  | nil => exact absurd hdigits (Numeral.decimal_ne_nil _)
  | cons first digits =>
    refine ⟨first, digits ++ 0x3A :: octets, ?_, ?_⟩
    · rw [verbatim, hdigits, List.cons_append]
    · exact (isNumeral_decimal octets.length).all_digits first (by rw [hdigits]; simp)

/-- No digit starts another kind of token. -/
theorem ne_of_isDigit {octet : UInt8} (hdigit : isDigit octet = true) :
    octet ≠ 0x28 ∧ octet ≠ 0x29 ∧ octet ≠ 0x5B := by
  refine ⟨?_, ?_, ?_⟩ <;> rintro rfl <;> cases hdigit

namespace Token

/-- A text starts with the token that is written in front. -/
theorem next?_text_append {token : Token} (hfits : token.Fits) (rest : Octets) :
    next? (token.text ++ rest) = some (token, rest) := by
  cases token with
  | opening => rfl
  | closing => rfl
  | atom octets =>
    have hread := readVerbatim_verbatim 0 rest hfits
    obtain ⟨first, more, hverbatim, hdigit⟩ := verbatim_eq_cons octets
    obtain ⟨hopening, hclosing, hbracket⟩ := ne_of_isDigit hdigit
    have hbehind : (verbatim octets ++ rest).drop (verbatim octets).length = rest :=
      List.drop_left
    rw [hverbatim, List.cons_append] at hread hbehind
    simp only [text, hverbatim, List.cons_append, next?, hopening, hclosing, hbracket, if_false,
      hread, hbehind]
  | hint octets =>
    have hread := readVerbatim_verbatim 0 (0x5D :: rest) hfits
    have hbehind : (verbatim octets ++ 0x5D :: rest).drop ((verbatim octets).length + 1)
        = rest := by
      rw [← List.drop_drop, List.drop_left]
      rfl
    simp [text, next?, hread, hbehind]

theorem text_ne_nil (token : Token) : token.text ≠ [] := by
  cases token with
  | atom octets =>
    obtain ⟨first, more, hverbatim, -⟩ := verbatim_eq_cons octets
    simp [text, hverbatim]
  | _ => simp [text]

/-- The tokens of a text are determined by it. -/
theorem eq_of_spell {tokens others : List Token} (htokens : ∀ token ∈ tokens, token.Fits)
    (hothers : ∀ token ∈ others, token.Fits) (hspell : spell tokens = spell others) :
    tokens = others := by
  induction tokens generalizing others with
  | nil =>
    cases others with
    | nil => rfl
    | cons other rest =>
      have hempty := List.append_eq_nil_iff.mp hspell.symm
      exact absurd hempty.1 other.text_ne_nil
  | cons token tokens ih =>
    cases others with
    | nil =>
      have hempty := List.append_eq_nil_iff.mp hspell
      exact absurd hempty.1 token.text_ne_nil
    | cons other others =>
      -- Both start with the token that the text starts with.
      have hnext := next?_text_append (htokens token List.mem_cons_self) (spell tokens)
      rw [← spell_cons, hspell, spell_cons,
        next?_text_append (hothers other List.mem_cons_self)] at hnext
      obtain ⟨rfl, hrest⟩ := Prod.mk.inj (Option.some.inj hnext)
      rw [ih (fun token htoken => htokens token (List.mem_cons_of_mem _ htoken))
        (fun token htoken => hothers token (List.mem_cons_of_mem _ htoken)) hrest.symm]

end Token

/-! ## One token at a time -/

section Steps

variable (grammar : Grammar) (padded : Bool) (offset : Nat) (stack : List (List SExpr))

/-- The octets of an atom or a hint that was read are passed over. -/
theorem read_pass (taken rest : Octets) :
    read grammar offset taken.length stack (taken ++ rest)
      = read grammar (offset + taken.length) 0 stack rest := by
  induction taken generalizing offset with
  | nil => rfl
  | cons octet taken ih =>
    rw [List.cons_append, List.length_cons, read, ih (offset + 1)]
    rw [show offset + 1 + taken.length = offset + (taken.length + 1) by omega]

theorem read_opening (rest : Octets) :
    read grammar offset 0 stack (Token.opening.text ++ rest)
      = read grammar (offset + 1) 0 ([] :: stack) rest := by
  simp [Token.text, read]

theorem read_closing (items outer : List SExpr) (rest : Octets) :
    read grammar offset 0 (items :: outer :: stack) (Token.closing.text ++ rest)
      = read grammar (offset + 1) 0 ((list items.reverse :: outer) :: stack) rest := by
  simp [Token.text, read]

theorem read_atom (items : List SExpr) {octets : Octets} (rest : Octets)
    (hoctets : octets.length < lengthLimit) :
    read (.canonical padded) offset 0 (items :: stack) ((Token.atom octets).text ++ rest)
      = read (.canonical padded) (offset + (verbatim octets).length) 0
          ((atom octets :: items) :: stack) rest := by
  have hread := readVerbatim_verbatim offset rest hoctets
  obtain ⟨first, more, hverbatim, hdigit⟩ := verbatim_eq_cons octets
  obtain ⟨hopening, hclosing, hbracket⟩ := ne_of_isDigit hdigit
  have hpass := read_pass (.canonical padded) (offset + 1) ((atom octets :: items) :: stack) more
    rest
  rw [hverbatim, List.cons_append, List.length_cons] at hread
  simp only [Token.text, hverbatim, List.cons_append, List.length_cons, read, hopening, hclosing,
    if_false, Grammar.canonical, canonicalSkip?, hbracket, canonicalAtom, hread, Nat.add_sub_cancel]
  simp only [Grammar.canonical] at hpass
  rw [hpass]
  rw [show offset + 1 + more.length = offset + (more.length + 1) by omega]

end Steps

/-! ## What is written is read -/

mutual

/-- The atoms of an expression, from left to right. -/
def atoms : SExpr → List Octets
  | atom octets => [octets]
  | list items => atomsOfItems items

/-- The atoms of the items of a list. -/
def atomsOfItems : List SExpr → List Octets
  | [] => []
  | item :: rest => atoms item ++ atomsOfItems rest

end

/-- A list is written as its items between parentheses. -/
theorem canonical_list (items : List SExpr) :
    canonical (list items)
      = Token.opening.text ++ (canonicalItems items ++ Token.closing.text) := by
  simp [canonical, Token.text]

/-- No atom is longer than a length prefix can say. -/
def WithinLimit (atoms : List Octets) : Prop := ∀ octets ∈ atoms, octets.length < lengthLimit

theorem mem_atomsOfItems {octets : Octets} {items : List SExpr} :
    octets ∈ atomsOfItems items ↔ ∃ item ∈ items, octets ∈ item.atoms := by
  induction items with
  | nil => simp [atomsOfItems]
  | cons item items ih => simp [atomsOfItems, ih]

/-- A list has no atom too long if none of its items has. -/
theorem withinLimit_list {items : List SExpr} :
    WithinLimit (list items).atoms ↔ ∀ item ∈ items, WithinLimit item.atoms := by
  rw [atoms]
  constructor
  · intro hitems item hitem octets hoctets
    exact hitems octets (mem_atomsOfItems.mpr ⟨item, hitem, hoctets⟩)
  · intro hitems octets hoctets
    obtain ⟨item, hitem, hmem⟩ := mem_atomsOfItems.mp hoctets
    exact hitems item hitem octets hmem

theorem withinLimit_atom {octets : Octets} :
    WithinLimit (atom octets).atoms ↔ octets.length < lengthLimit := by
  simp [WithinLimit, atoms]

mutual

/-- An atom is no longer than the whole. -/
theorem length_le_of_mem_atoms (e : SExpr) {octets : Octets} (hoctets : octets ∈ e.atoms) :
    octets.length ≤ (canonical e).length := by
  cases e with
  | atom value =>
    rw [atoms, List.mem_singleton] at hoctets
    rw [hoctets, canonical, verbatim, List.length_append, List.length_cons]
    omega
  | list items =>
    rw [atoms] at hoctets
    have hlength := length_le_of_mem_atomsOfItems items hoctets
    rw [canonical, List.length_cons, List.length_append]
    omega

theorem length_le_of_mem_atomsOfItems (items : List SExpr) {octets : Octets}
    (hoctets : octets ∈ atomsOfItems items) : octets.length ≤ (canonicalItems items).length := by
  cases items with
  | nil => cases hoctets
  | cons e items =>
    rw [canonicalItems, List.length_append]
    rw [atomsOfItems] at hoctets
    rcases List.mem_append.mp hoctets with hhere | hthere
    · have hlength := length_le_of_mem_atoms e hhere
      omega
    · have hlength := length_le_of_mem_atomsOfItems items hthere
      omega

end

mutual

/-- Reading the canonical form of an expression adds it to the innermost list. -/
theorem read_canonical (padded : Bool) (stack : List (List SExpr)) (items : List SExpr)
    (rest : Octets) (offset : Nat) (e : SExpr) (hatoms : WithinLimit e.atoms) :
    read (.canonical padded) offset 0 (items :: stack) (canonical e ++ rest)
      = read (.canonical padded) (offset + (canonical e).length) 0 ((e :: items) :: stack)
          rest := by
  cases e with
  | atom octets => exact read_atom padded offset stack items rest (hatoms octets (by simp [atoms]))
  | list inner =>
    have hinner : WithinLimit (atomsOfItems inner) := by rwa [atoms] at hatoms
    -- The parenthesis opens a list, which the items fill, and which the other one adds to the list
    -- around it.
    have hopening := read_opening (.canonical padded) offset (items :: stack)
      (canonicalItems inner ++ (Token.closing.text ++ rest))
    have hitems := read_canonicalItems padded (items :: stack) [] (Token.closing.text ++ rest)
      (offset + 1) inner hinner
    have hclosing := read_closing (.canonical padded)
      (offset + 1 + (canonicalItems inner).length) stack (inner.reverse ++ []) items rest
    have hlength : offset + (canonical (list inner)).length
        = offset + 1 + (canonicalItems inner).length + 1 := by
      rw [canonical, List.length_cons, List.length_append, List.length_singleton]
      omega
    rw [hlength, canonical_list, List.append_assoc, List.append_assoc, hopening, hitems, hclosing,
      List.append_nil, List.reverse_reverse]

/-- Reading the canonical forms of the items of a list adds them one after the other. -/
theorem read_canonicalItems (padded : Bool) (stack : List (List SExpr)) (items : List SExpr)
    (rest : Octets) (offset : Nat) (added : List SExpr)
    (hatoms : WithinLimit (atomsOfItems added)) :
    read (.canonical padded) offset 0 (items :: stack) (canonicalItems added ++ rest)
      = read (.canonical padded) (offset + (canonicalItems added).length) 0
          ((added.reverse ++ items) :: stack) rest := by
  cases added with
  | nil => rfl
  | cons e added =>
    have hhere : WithinLimit e.atoms := fun octets hoctets =>
      hatoms octets (by rw [atomsOfItems]; exact List.mem_append_left _ hoctets)
    have hthere : WithinLimit (atomsOfItems added) := fun octets hoctets =>
      hatoms octets (by rw [atomsOfItems]; exact List.mem_append_right _ hoctets)
    rw [canonicalItems, List.append_assoc, read_canonical padded stack items _ offset e hhere,
      read_canonicalItems padded stack (e :: items) rest _ added hthere, List.length_append,
      Nat.add_assoc, List.reverse_cons, List.append_assoc, List.singleton_append]

end

/-- The canonical form of a list is read to its items, if what is behind it may follow. -/
theorem parseCanonicalWith_canonical (padded : Bool) {items : List SExpr} {rest : Octets}
    (hatoms : WithinLimit (list items).atoms)
    (hrest : (Grammar.canonical padded).mayFollow rest = true) :
    parseCanonicalWith padded (canonical (list items) ++ rest) = .ok items := by
  have hitems : WithinLimit (atomsOfItems items) := by rwa [atoms] at hatoms
  have hread := read_canonicalItems padded [] [] (Token.closing.text ++ rest) 1 items hitems
  have hopening := read_opening (.canonical padded) 0 []
    (canonicalItems items ++ (Token.closing.text ++ rest))
  have hhead : (canonical (list items) ++ rest).head? = some 0x28 := by
    rw [canonical]
    rfl
  rw [parseCanonicalWith, if_pos hhead, canonical_list, List.append_assoc, List.append_assoc,
    hopening, hread]
  simp [Token.text, read, hrest]

/-- The canonical form of a list is read to its items. -/
theorem parseCanonical_canonical {items : List SExpr} (hatoms : WithinLimit (list items).atoms) :
    parseCanonical (canonical (list items)) = .ok items := by
  have hend : (Grammar.canonical false).mayFollow [] = true := rfl
  have hparse := parseCanonicalWith_canonical false hatoms hend
  rwa [List.append_nil] at hparse

/-- It is read in the same way in front of padding. -/
theorem parsePadded_canonical {items : List SExpr} (hatoms : WithinLimit (list items).atoms)
    (padding : Octets) : parsePadded (canonical (list items) ++ padding) = .ok items :=
  parseCanonicalWith_canonical true hatoms rfl

/-! ## What is read was written -/

/-- What the canonical form of the result has in front while lists are open, the innermost first. -/
def openText : List (List SExpr) → Octets
  | [] => []
  | items :: below => openText below ++ 0x28 :: canonicalItems items.reverse

theorem canonicalItems_append (items others : List SExpr) :
    canonicalItems (items ++ others) = canonicalItems items ++ canonicalItems others := by
  induction items with
  | nil => rfl
  | cons item items ih =>
    rw [List.cons_append, canonicalItems, canonicalItems, ih, List.append_assoc]

/-- An item that is added stands behind the others. -/
theorem openText_cons (e : SExpr) (items : List SExpr) (below : List (List SExpr)) :
    openText ((e :: items) :: below) = openText (items :: below) ++ canonical e := by
  simp [openText, canonicalItems_append, canonicalItems]

/-- A display hint is an atom in brackets. -/
theorem canonicalSkip?_eq_ok {offset more : Nat} {octet : UInt8} {rest : Octets}
    (hskip : canonicalSkip? offset octet rest = .ok (some more)) :
    ∃ octets, (Token.hint octets).Fits ∧
      octet :: rest = (Token.hint octets).text ++ rest.drop more := by
  unfold canonicalSkip? at hskip
  by_cases hbracket : octet = 0x5B
  · rw [if_pos hbracket] at hskip
    split at hskip
    · cases hskip
    · rename_i octets taken hread
      obtain ⟨hfits, htaken, behind, hbehind⟩ := readVerbatim_eq_ok.mp hread
      by_cases hclosed : (rest.drop taken).head? = some 0x5D
      · rw [if_pos hclosed] at hskip
        obtain rfl := Option.some.inj (Except.ok.inj hskip)
        refine ⟨octets, hfits, ?_⟩
        have hdrop : rest.drop taken = behind := by
          rw [← hbehind, htaken, List.drop_left]
        rw [hdrop] at hclosed
        obtain ⟨after, rfl⟩ := List.head?_eq_some_iff.mp hclosed
        rw [← List.drop_drop, hdrop, ← hbehind, hbracket]
        simp [Token.text]
      · rw [if_neg hclosed] at hskip
        cases hskip
  · rw [if_neg hbracket] at hskip
    cases hskip

/-- An atom is behind its length. -/
theorem canonicalAtom_eq_ok {offset more : Nat} {octet : UInt8} {rest octets : Octets}
    (hatom : canonicalAtom offset octet rest = .ok (octets, more)) :
    (Token.atom octets).Fits ∧ octet :: rest = (Token.atom octets).text ++ rest.drop more := by
  unfold canonicalAtom at hatom
  split at hatom
  · cases hatom
  · rename_i value taken hread
    obtain ⟨rfl, rfl⟩ := Prod.mk.inj (Except.ok.inj hatom)
    obtain ⟨hfits, htaken, behind, hbehind⟩ := readVerbatim_eq_ok.mp hread
    refine ⟨hfits, ?_⟩
    obtain ⟨first, more, hverbatim, -⟩ := verbatim_eq_cons value
    rw [hverbatim, List.cons_append] at hbehind
    obtain ⟨rfl, rfl⟩ := List.cons.inj hbehind
    rw [htaken, hverbatim, List.length_cons, Nat.add_sub_cancel, List.drop_left, Token.text,
      hverbatim, List.cons_append]

/-- Tokens that account for a reading: the text is theirs, up to what may follow, and those among
them that are no hints complete what is open to the canonical form of the result. -/
structure Accounts (grammar : Grammar) (stack : List (List SExpr)) (text : Octets)
    (items : List SExpr) (tokens : List Token) : Prop where
  fits : ∀ token ∈ tokens, token.Fits
  spelled : ∃ rest, text = Token.spell tokens ++ rest ∧ grammar.mayFollow rest = true
  written : openText stack ++ Token.spell (tokens.filter fun token => !token.isHint)
    = canonical (list items)

/-- One more token in front, if it makes of one stack the other. -/
theorem Accounts.cons {grammar : Grammar} {stack next : List (List SExpr)} {text : Octets}
    {items : List SExpr} {tokens : List Token} (haccounts : Accounts grammar next text items tokens)
    (token : Token) (hfits : token.Fits)
    (hnext : openText next = openText stack ++ if token.isHint then [] else token.text) :
    Accounts grammar stack (token.text ++ text) items (token :: tokens) := by
  obtain ⟨hall, ⟨rest, rfl, hrest⟩, hcanonical⟩ := haccounts
  refine ⟨?_, ⟨rest, ?_, hrest⟩, ?_⟩
  · intro other hother
    rcases List.mem_cons.mp hother with rfl | h
    · exact hfits
    · exact hall other h
  · rw [Token.spell_cons, List.append_assoc]
  · rw [hnext] at hcanonical
    rw [← hcanonical]
    cases hhint : token.isHint <;> simp [hhint]

/-- The parenthesis that closes the outermost list accounts for itself. -/
theorem Accounts.last {grammar : Grammar} {rest : Octets} (items : List SExpr)
    (hrest : grammar.mayFollow rest = true) :
    Accounts grammar [items] (0x29 :: rest) items.reverse [.closing] := by
  refine ⟨?_, ⟨rest, rfl, hrest⟩, ?_⟩
  · intro token htoken
    rw [List.mem_singleton.mp htoken]
    trivial
  · simp [openText, canonical, Token.isHint, Token.text]

/-- What the reader does with the next octet: it has read a token, which changes the stack as it
should, and goes on behind it; or it is at the end. -/
theorem read_cons_eq_ok {padded : Bool} {offset : Nat} {stack : List (List SExpr)} {octet : UInt8}
    {rest : Octets} {items : List SExpr}
    (hread : read (.canonical padded) offset 0 stack (octet :: rest) = .ok items) :
    (∃ (token : Token) (next : List (List SExpr)) (more : Nat), token.Fits ∧
        octet :: rest = token.text ++ rest.drop more ∧
        openText next = openText stack ++ (if token.isHint then [] else token.text) ∧
        read (.canonical padded) (offset + 1) more next rest = .ok items) ∨
      Accounts (.canonical padded) stack (octet :: rest) items [.closing] := by
  unfold read at hread
  simp only at hread
  by_cases hopening : octet = 0x28
  · rw [if_pos hopening] at hread
    refine .inl ⟨.opening, _, 0, trivial, ?_, rfl, hread⟩
    rw [hopening]
    rfl
  · rw [if_neg hopening] at hread
    by_cases hclosing : octet = 0x29
    · rw [if_pos hclosing] at hread
      rw [hclosing]
      rcases stack with _ | ⟨inner, _ | ⟨outer, below⟩⟩
      · cases hread
      · simp only at hread
        split at hread
        · obtain rfl := Except.ok.inj hread
          exact .inr (.last inner ‹_›)
        · cases hread
      · refine .inl ⟨.closing, _, 0, trivial, rfl, ?_, hread⟩
        rw [openText_cons]
        simp [openText, canonical, Token.isHint, Token.text]
    · rw [if_neg hclosing] at hread
      split at hread
      · cases hread
      · rename_i more hskip
        obtain ⟨octets, hfits, htext⟩ := canonicalSkip?_eq_ok hskip
        exact .inl ⟨.hint octets, stack, more, hfits, htext, by simp [Token.isHint], hread⟩
      · split at hread
        · cases hread
        · split at hread
          · cases hread
          · rename_i octets more hatom
            obtain ⟨hfits, htext⟩ := canonicalAtom_eq_ok hatom
            exact .inl ⟨.atom octets, _, more, hfits, htext, openText_cons _ _ _, hread⟩

/-- What is read as a canonical expression is accounted for by tokens. -/
theorem tokens_of_read {padded : Bool} {text : Octets} {items : List SExpr} :
    ∀ {offset pass : Nat} {stack : List (List SExpr)},
      read (.canonical padded) offset pass stack text = .ok items →
      ∃ tokens, Accounts (.canonical padded) stack (text.drop pass) items tokens := by
  induction text with
  | nil =>
    intro offset pass stack hread
    cases hread
  | cons octet rest ih =>
    intro offset pass stack hread
    cases pass with
    | succ pass =>
      -- The octet belongs to a token that is accounted for already.
      rw [read] at hread
      exact ih hread
    | zero =>
      rcases read_cons_eq_ok hread with ⟨token, next, more, hfits, htext, hnext, hrest⟩ | hlast
      · obtain ⟨tokens, haccounts⟩ := ih hrest
        refine ⟨token :: tokens, ?_⟩
        rw [List.drop_zero, htext]
        exact haccounts.cons token hfits hnext
      · exact ⟨[.closing], hlast⟩

/-! ## Both ways -/

/-- Canonical expressions are read back from what is written for them. And a text that is read
consists of tokens, in one way only; those that are no display hints make up the canonical form of
what was read, which is the text itself if there are no hints in it. -/
theorem canonical_round_trip :
    (∀ items, (∀ octets ∈ (list items).atoms, octets.length < lengthLimit) →
      parseCanonical (canonical (list items)) = .ok items) ∧
    (∀ text items, parseCanonical text = .ok items →
      ∃ tokens : List Token, (∀ token ∈ tokens, token.Fits) ∧ text = Token.spell tokens ∧
        (∀ others : List Token, (∀ token ∈ others, token.Fits) → text = Token.spell others →
          others = tokens) ∧
        canonical (list items) = Token.spell (tokens.filter fun token => !token.isHint) ∧
        ((∀ token ∈ tokens, token.isHint = false) → canonical (list items) = text)) := by
  refine ⟨fun items hatoms => parseCanonical_canonical hatoms, ?_⟩
  intro text items hparse
  unfold parseCanonical parseCanonicalWith at hparse
  split at hparse
  · obtain ⟨tokens, hfits, ⟨rest, htext, hrest⟩, hcanonical⟩ := tokens_of_read hparse
    obtain rfl : rest = [] := by simpa [Grammar.canonical] using hrest
    rw [List.drop_zero, List.append_nil] at htext
    rw [openText, List.nil_append] at hcanonical
    refine ⟨tokens, hfits, htext, ?_, hcanonical.symm, ?_⟩
    · intro others hothers hsame
      exact Token.eq_of_spell hothers hfits (hsame.symm.trans htext)
    · intro hhints
      have hall : (tokens.filter fun token => !token.isHint) = tokens := by
        rw [List.filter_eq_self]
        intro token htoken
        rw [hhints token htoken]
        rfl
      rw [← hcanonical, hall, htext]
  · cases hparse

/-- The tokens of `([1:t]2:ab()(0:))`. -/
def hintedTokens : List Token :=
  [.opening, .hint [0x74], .atom [0x61, 0x62], .opening, .closing, .opening, .atom [], .closing,
    .closing]

/-- What they are read to. -/
def hintedItems : List SExpr := [atom [0x61, 0x62], list [], list [atom []]]

theorem canonical_round_trip_hinted :
    ((∀ octets ∈ (list hintedItems).atoms, octets.length < lengthLimit) ∧
      parseCanonical (canonical (list hintedItems)) = .ok hintedItems) ∧
    (parseCanonical (Token.spell hintedTokens) = .ok hintedItems ∧
      canonical (list hintedItems)
        = Token.spell (hintedTokens.filter fun token => !token.isHint)) := by
  have hatoms : ∀ octets ∈ (list hintedItems).atoms, octets.length < lengthLimit := by
    show ∀ octets ∈ [[0x61, 0x62], []], octets.length < lengthLimit
    decide
  have hparse : parseCanonical (Token.spell hintedTokens) = .ok hintedItems := rfl
  have hfits : ∀ token ∈ hintedTokens, token.Fits := by
    simp [hintedTokens, Token.Fits, lengthLimit]
  obtain ⟨tokens, -, -, hunique, hwritten, -⟩ := canonical_round_trip.2 _ _ hparse
  rw [← hunique hintedTokens hfits rfl] at hwritten
  exact ⟨⟨hatoms, canonical_round_trip.1 hintedItems hatoms⟩, hparse, hwritten⟩

end CommitSeal.SExpr
