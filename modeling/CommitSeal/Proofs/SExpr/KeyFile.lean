import CommitSeal.AgentKey.Basic
import CommitSeal.Proofs.Octets.Lines

/-!
# Extended key files

In an extended key file the key is the value of the first `Key` item together with the lines that
continue it (`SExpr.HasKeyItem`). In front of it there may be other items, lines that continue them,
comments and blank lines; the lines may end in LF, CR or CR LF; and behind the item anything may
follow. These are the files in which an item with the key is found (`SExpr.keyItem_eq_ok_iff`), and
their expression is read from that item alone (`SExpr.parseKeyFile_of_hasKeyItem`).
-/

namespace CommitSeal.SExpr

/-! ## Lines of a key file -/

/-- A line continues the item before it: it starts with a space or a tab. -/
def Continues (line : Octets) : Prop := line.head? = some 0x20 ∨ line.head? = some 0x09

/-- A line is an item: a name, which starts with a letter, a colon and a value. -/
structure IsItem (line name value : Octets) : Prop where
  line_eq : line = name ++ 0x3A :: value
  name_eq : ∃ letter more, name = letter :: more ∧ isLetter letter ∧
    ∀ octet ∈ more, isNameOctet octet

/-- The name of the item with the key, each letter in either case. -/
def IsKeyName (name : Octets) : Prop :=
  ∃ k e y, name = [k, e, y] ∧ k ∈ [0x4B, 0x6B] ∧ e ∈ [0x45, 0x65] ∧ y ∈ [0x59, 0x79]

/-- A line that may stand in front of the item with the key. -/
inductive PassedOver : Octets → Prop where
  | blank {line : Octets} (hblank : ∀ octet ∈ line, Octets.isBlank octet) : PassedOver line
  | continues {line : Octets} (hcontinues : Continues line) : PassedOver line
  | comment (text : Octets) : PassedOver (0x23 :: text)
  | item {line name value : Octets} (hitem : IsItem line name value) (hname : ¬ IsKeyName name) :
    PassedOver line

/-- Lines with an item that has the key: any number of lines that may stand in front, the item with
the given value, the lines that continue it, and anything behind a line that does not. -/
inductive KeyItemIn (value : Octets) (more : List Octets) : List Octets → Prop where
  | behind {line : Octets} {rest : List Octets} (hline : PassedOver line)
      (hrest : KeyItemIn value more rest) : KeyItemIn value more (line :: rest)
  | here {name : Octets} {behind : List Octets} (hname : IsKeyName name)
      (hmore : ∀ line ∈ more, Continues line)
      (hbehind : ∀ line, behind.head? = some line → ¬ Continues line) :
      KeyItemIn value more ((name ++ 0x3A :: value) :: (more ++ behind))

/-- A file has an item with the key among its lines. -/
def HasKeyItem (file value : Octets) (more : List Octets) : Prop :=
  ∃ lines, Octets.SplitsInto file lines ∧ KeyItemIn value more lines

/-- An item on one line: the value and the lines that continue it, each without white space around
it, with single spaces between them. -/
def onOneLine (value : Octets) (more : List Octets) : Octets :=
  [0x20].intercalate (Octets.strip value :: more.map Octets.strip)

section Line

variable {line name value : Octets}

theorem continuesItem_iff : continuesItem line = true ↔ Continues line := by
  simp [continuesItem, Continues]

theorem isIdle_iff :
    isIdle line = true ↔ (∀ octet ∈ line, Octets.isBlank octet) ∨ line.head? = some 0x23 := by
  simp [isIdle, Octets.strip_eq_nil_iff]

/-- A letter is put into lower case. -/
theorem lowerOctet_eq_iff {octet letter : UInt8} (hletter : 0x61 ≤ letter ∧ letter ≤ 0x7A) :
    lowerOctet octet = letter ↔ octet = letter - 0x20 ∨ octet = letter := by
  unfold lowerOctet
  split <;> grind

/-- Names of items are compared without regard to case. -/
theorem map_lowerOctet_iff : name.map lowerOctet = keyItemName ↔ IsKeyName name := by
  have hkey : keyItemName = [0x6B, 0x65, 0x79] := by decide
  have hk := fun octet => @lowerOctet_eq_iff octet 0x6B (by decide)
  have he := fun octet => @lowerOctet_eq_iff octet 0x65 (by decide)
  have hy := fun octet => @lowerOctet_eq_iff octet 0x79 (by decide)
  rw [hkey]
  constructor
  · intro hname
    simp only [List.map_eq_cons_iff, List.map_eq_nil_iff, hk, he, hy] at hname
    obtain ⟨k, -, rfl, hk, e, -, rfl, he, y, -, rfl, hy, rfl⟩ := hname
    exact ⟨k, e, y, rfl, by simpa using hk, by simpa using he, by simpa using hy⟩
  · rintro ⟨k, e, y, rfl, hk', he', hy'⟩
    simp only [List.map_cons, List.map_nil, (hk k).mpr (by simpa using hk'),
      (he e).mpr (by simpa using he'), (hy y).mpr (by simpa using hy')]

theorem isNameOctet_of_isLetter {octet : UInt8} (hletter : isLetter octet = true) :
    isNameOctet octet = true := by
  simp [isNameOctet, hletter]

theorem IsItem.item?_eq (hitem : IsItem line name value) : item? line = some (name, value) := by
  obtain ⟨rfl, letter, more, rfl, hletter, hmore⟩ := hitem
  have hname : ∀ octet ∈ letter :: more, isNameOctet octet = true :=
    List.forall_mem_cons.mpr ⟨isNameOctet_of_isLetter hletter, hmore⟩
  have htake : (letter :: more ++ 0x3A :: value).takeWhile isNameOctet = letter :: more := by
    rw [List.takeWhile_append_of_pos hname, List.takeWhile_cons_of_neg (by decide), List.append_nil]
  have hhead : (letter :: more ++ 0x3A :: value).head?.any isLetter = true := hletter
  rw [item?, if_pos hhead]
  simp only [htake, List.drop_left]

/-- A letter is neither white space nor a mark of a comment. -/
theorem IsItem.not_passed (hitem : IsItem line name value) :
    (continuesItem line || isIdle line) = false := by
  obtain ⟨rfl, letter, more, rfl, hletter, -⟩ := hitem
  have hother : ¬ Octets.isBlank letter = true ∧ letter ≠ 0x20 ∧ letter ≠ 0x09 ∧ letter ≠ 0x23 := by
    simp only [isLetter, Octets.isBlank] at hletter ⊢
    grind
  obtain ⟨hblank, hspace, htab, hmark⟩ := hother
  rw [Bool.or_eq_false_iff, ← Bool.not_eq_true, ← Bool.not_eq_true, continuesItem_iff, isIdle_iff]
  constructor
  · rintro (hhead | hhead)
    · exact hspace (Option.some.inj hhead)
    · exact htab (Option.some.inj hhead)
  · rintro (hall | hhead)
    · exact hblank (hall letter List.mem_cons_self)
    · exact hmark (Option.some.inj hhead)

end Line

/-! ## The item with the key -/

/-- A line in front of the item with the key adds nothing. -/
theorem keyPieces_passedOver {line : Octets} (hline : PassedOver line) (rest : List Octets) :
    keyPieces (line :: rest) = keyPieces rest := by
  rw [keyPieces]
  cases hline with
  | blank hblank => rw [if_pos (Bool.or_eq_true_iff.mpr (.inr (isIdle_iff.mpr (.inl hblank))))]
  | continues hcontinues =>
    rw [if_pos (Bool.or_eq_true_iff.mpr (.inl (continuesItem_iff.mpr hcontinues)))]
  | comment text => rw [if_pos (Bool.or_eq_true_iff.mpr (.inr (isIdle_iff.mpr (.inr rfl))))]
  | item hitem hname =>
    have hother := fun hkey => hname (map_lowerOctet_iff.mp hkey)
    rw [hitem.not_passed, hitem.item?_eq]
    simp only [Bool.false_eq_true, if_false, if_neg hother]

/-- The first item with the key is taken, with the lines that continue it. -/
theorem keyPieces_key {line name value : Octets} (hitem : IsItem line name value)
    (hname : IsKeyName name) (rest : List Octets) :
    keyPieces (line :: rest) = .ok (Octets.strip value :: continuations rest) := by
  rw [keyPieces, hitem.not_passed, hitem.item?_eq]
  simp only [Bool.false_eq_true, if_false, if_pos (map_lowerOctet_iff.mpr hname)]

/-- The lines that continue an item end where one does not. -/
theorem continuations_append {more behind : List Octets} (hmore : ∀ line ∈ more, Continues line)
    (hbehind : ∀ line, behind.head? = some line → ¬ Continues line) :
    continuations (more ++ behind) = more.map Octets.strip := by
  have hstop : behind.takeWhile continuesItem = [] := by
    cases behind with
    | nil => rfl
    | cons line behind =>
      have hline := hbehind line rfl
      rw [← continuesItem_iff] at hline
      exact List.takeWhile_cons_of_neg hline
  rw [continuations, List.takeWhile_append_of_pos fun line hline =>
    continuesItem_iff.mpr (hmore line hline), hstop, List.append_nil]

theorem joinBySpace_eq (pieces : List Octets) :
    joinBySpace pieces = [0x20].intercalate pieces := by
  fun_induction joinBySpace pieces with
  | case1 => rfl
  | case2 piece => rw [List.intercalate_singleton]
  | case3 piece rest hne ih =>
    cases rest with
    | nil => exact absurd rfl hne
    | cons next rest => rw [ih, List.intercalate_cons_cons, List.append_assoc]; rfl

/-- The name of the item with the key is a name. -/
theorem IsKeyName.isItem {name : Octets} (hname : IsKeyName name) (value : Octets) :
    IsItem (name ++ 0x3A :: value) name value := by
  refine ⟨rfl, ?_⟩
  obtain ⟨k, e, y, rfl, hk, he, hy⟩ := hname
  simp only [List.mem_cons, List.not_mem_nil, or_false] at hk he hy
  refine ⟨k, [e, y], rfl, ?_, List.forall_mem_cons.mpr ⟨?_, List.forall_mem_singleton.mpr ?_⟩⟩
  · rcases hk with rfl | rfl <;> rfl
  · rcases he with rfl | rfl <;> rfl
  · rcases hy with rfl | rfl <;> rfl

/-- What is taken for an item is one. -/
theorem isItem_of_item? {line name value : Octets} (hitem : item? line = some (name, value)) :
    IsItem line name value := by
  unfold item? at hitem
  split at hitem
  · rename_i hhead
    simp only at hitem
    split at hitem
    · rename_i rest hdrop
      obtain ⟨rfl, rfl⟩ := Prod.mk.inj (Option.some.inj hitem)
      have hsplit := List.prefix_iff_eq_append.mp (List.takeWhile_prefix (l := line) isNameOctet)
      rw [hdrop] at hsplit
      refine ⟨hsplit.symm, ?_⟩
      cases line with
      | nil => cases hhead
      | cons letter more =>
        exact ⟨letter, more.takeWhile isNameOctet,
          List.takeWhile_cons_of_pos (isNameOctet_of_isLetter hhead), hhead,
          fun octet hmem => List.mem_takeWhile_imp hmem⟩
    · cases hitem
  · cases hitem

theorem passedOver_of_passed {line : Octets}
    (hpassed : (continuesItem line || isIdle line) = true) : PassedOver line := by
  rw [Bool.or_eq_true, continuesItem_iff, isIdle_iff] at hpassed
  rcases hpassed with hcontinues | hblank | hmark
  · exact .continues hcontinues
  · exact .blank hblank
  · obtain ⟨text, rfl⟩ := List.head?_eq_some_iff.mp hmark
    exact .comment text

/-- The pieces of the item are found where lines have one, and nowhere else. -/
theorem keyPieces_eq_ok_iff {lines pieces : List Octets} :
    keyPieces lines = .ok pieces ↔
      ∃ value more, KeyItemIn value more lines ∧
        pieces = Octets.strip value :: more.map Octets.strip := by
  constructor
  · intro hpieces
    fun_induction keyPieces lines with
    | case1 => cases hpieces
    | case2 line rest hpassed ih =>
      obtain ⟨value, more, hrest, hmade⟩ := ih hpieces
      exact ⟨value, more, .behind (passedOver_of_passed hpassed) hrest, hmade⟩
    | case3 => cases hpieces
    | case4 line rest hkept name value hitem hname =>
      obtain rfl := Except.ok.inj hpieces
      obtain ⟨hline, -⟩ := isItem_of_item? hitem
      -- The rest is split in front of the first line that does not continue the item.
      have hfound : KeyItemIn value (rest.takeWhile continuesItem) ((name ++ 0x3A :: value) ::
          (rest.takeWhile continuesItem ++ rest.dropWhile continuesItem)) := by
        refine .here (map_lowerOctet_iff.mp hname) ?_ ?_
        · intro next hnext
          exact continuesItem_iff.mp (List.mem_takeWhile_imp hnext)
        · intro next hnext
          have hstop := List.head?_dropWhile_not continuesItem rest
          rw [hnext] at hstop
          rw [← continuesItem_iff, hstop]
          exact Bool.false_ne_true
      rw [List.takeWhile_append_dropWhile, ← hline] at hfound
      exact ⟨value, _, hfound, rfl⟩
    | case5 line rest hkept name value hitem hname ih =>
      obtain ⟨value', more, hrest, hmade⟩ := ih hpieces
      have hother := fun hkey => hname (map_lowerOctet_iff.mpr hkey)
      exact ⟨value', more, .behind (.item (isItem_of_item? hitem) hother) hrest, hmade⟩
  · rintro ⟨value, more, hlines, rfl⟩
    induction hlines with
    | behind hline _ ih => rw [keyPieces_passedOver hline, ih]
    | here hname hmore hbehind =>
      rw [keyPieces_key (hname.isItem value) hname, continuations_append hmore hbehind]

/-- An item with the key is found in the files that have one, and in no others. -/
theorem keyItem_eq_ok_iff {file item : Octets} :
    keyItem file = .ok item ↔
      ∃ value more, HasKeyItem file value more ∧ item = onOneLine value more := by
  have hjoin : keyItem file = .ok item ↔
      ∃ pieces, keyPieces file.lines = .ok pieces ∧ joinBySpace pieces = item := by
    unfold keyItem
    cases keyPieces file.lines <;> simp
  rw [hjoin]
  simp only [keyPieces_eq_ok_iff, HasKeyItem, Octets.splitsInto_iff, exists_eq_left']
  constructor
  · rintro ⟨_, ⟨value, more, hlines, rfl⟩, rfl⟩
    exact ⟨value, more, hlines, joinBySpace_eq _⟩
  · rintro ⟨value, more, hlines, rfl⟩
    exact ⟨_, ⟨value, more, hlines, rfl⟩, joinBySpace_eq _⟩

/-! ## The expression of an extended file -/

theorem parseKeyFile_of_keyItem {file item : Octets} (hstart : file.head? ≠ some 0x28)
    (hitem : keyItem file = .ok item) : parseKeyFile file = parseAdvanced item := by
  unfold parseKeyFile
  split
  · exact absurd rfl hstart
  · rw [hitem]

/-- The expression of a file with an item that has the key, or what is wrong with it, is that of the
item on one line. So another file with the same item holds the same expression and the same key,
whatever lines are in front of the item, whatever is behind it, and however the lines end. -/
theorem parseKeyFile_of_hasKeyItem {file value : Octets} {more : List Octets}
    (hstart : file.head? ≠ some 0x28) (hitem : HasKeyItem file value more) :
    parseKeyFile file = parseAdvanced (onOneLine value more) ∧
    ∀ other value' more', other.head? ≠ some 0x28 → HasKeyItem other value' more' →
      Octets.strip value' = Octets.strip value →
      more'.map Octets.strip = more.map Octets.strip →
      parseKeyFile other = parseKeyFile file ∧ AgentKey.load other = AgentKey.load file := by
  have hread : ∀ {file value more}, file.head? ≠ some 0x28 → HasKeyItem file value more →
      parseKeyFile file = parseAdvanced (onOneLine value more) := by
    intro file value more hstart hitem
    exact parseKeyFile_of_keyItem hstart (keyItem_eq_ok_iff.mpr ⟨value, more, hitem, rfl⟩)
  refine ⟨hread hstart hitem, ?_⟩
  intro other value' more' hstart' hitem' hvalue hmore
  have hsame : onOneLine value' more' = onOneLine value more := by
    rw [onOneLine, hvalue, hmore, onOneLine]
  have hparse : parseKeyFile other = parseKeyFile file := by
    rw [hread hstart' hitem', hread hstart hitem, hsame]
  exact ⟨hparse, by rw [AgentKey.load, AgentKey.load, hparse]⟩

/-! ## One item in two files -/

/-- The value of the item, as it stands in either file. -/
def splitValue : Octets := Octets.ofText " (private-key"

/-- The line that continues it. -/
def splitMore : Octets := Octets.ofText " (rsa (n #0F#)))"

/-- A file with a comment and another item in front, a continued line of that, a line behind, and
line ends of two octets. -/
def commentedFile : Octets :=
  Octets.ofText "# a key\r\nCreated: now\r\n and then\r\nKEY: (private-key\r\n (rsa (n #0F#)))\r\nx"

/-- A file with nothing but the item. -/
def bareFile : Octets := Octets.ofText "Key: (private-key\n (rsa (n #0F#)))"

theorem continues_splitMore : ∀ line ∈ [splitMore], Continues line :=
  List.forall_mem_singleton.mpr (.inl rfl)

theorem hasKeyItem_commentedFile : HasKeyItem commentedFile splitValue [splitMore] := by
  have hlines : commentedFile.lines
      = [Octets.ofText "# a key", Octets.ofText "Created: now", Octets.ofText " and then",
          Octets.ofText "KEY" ++ 0x3A :: splitValue] ++ ([splitMore] ++ [Octets.ofText "x"]) := by
    decide +kernel
  have hcreated : IsItem (Octets.ofText "Created: now") (Octets.ofText "Created")
      (Octets.ofText " now") := isItem_of_item? (by decide +kernel)
  have hother : ¬ IsKeyName (Octets.ofText "Created") := by
    rw [← map_lowerOctet_iff]
    decide
  refine ⟨_, Octets.splitsInto_iff.mpr hlines, ?_⟩
  refine .behind (.comment (Octets.ofText " a key")) (.behind (.item hcreated hother)
    (.behind (.continues (.inl rfl)) (.here ?_ continues_splitMore ?_)))
  · exact map_lowerOctet_iff.mp (by decide)
  · rintro line hline (hspace | htab)
    · obtain rfl := Option.some.inj hline
      exact absurd hspace (by decide)
    · obtain rfl := Option.some.inj hline
      exact absurd htab (by decide)

theorem hasKeyItem_bareFile : HasKeyItem bareFile splitValue [splitMore] := by
  have hlines : bareFile.lines
      = (Octets.ofText "Key" ++ 0x3A :: splitValue) :: ([splitMore] ++ []) := by
    decide +kernel
  refine ⟨_, Octets.splitsInto_iff.mpr hlines, ?_⟩
  exact .here (map_lowerOctet_iff.mp (by decide)) continues_splitMore nofun

/-- Both files hold the expression of the item, and so the same key. -/
theorem parseKeyFile_of_hasKeyItem_split :
    (commentedFile.head? ≠ some 0x28 ∧ HasKeyItem commentedFile splitValue [splitMore]) ∧
    (bareFile.head? ≠ some 0x28 ∧ HasKeyItem bareFile splitValue [splitMore]) ∧
    parseKeyFile commentedFile
      = .ok [atom (Octets.ofText "private-key"),
          list [atom (Octets.ofText "rsa"), list [atom (Octets.ofText "n"), atom [0x0F]]]] ∧
    AgentKey.load bareFile = AgentKey.load commentedFile := by
  have hstart : commentedFile.head? ≠ some 0x28 := by decide
  have hstart' : bareFile.head? ≠ some 0x28 := by decide
  obtain ⟨hparse, hsame⟩ := parseKeyFile_of_hasKeyItem hstart hasKeyItem_commentedFile
  refine ⟨⟨hstart, hasKeyItem_commentedFile⟩, ⟨hstart', hasKeyItem_bareFile⟩, ?_, ?_⟩
  · rw [hparse]
    rfl
  · exact (hsame bareFile _ _ hstart' hasKeyItem_bareFile rfl rfl).2

end CommitSeal.SExpr
