import CommitSeal.Proofs.FileTree.Walking

/-!
# What is below a path

A path below another is walked to the upper one first, and from there name by name
(`FileTree.follow_below`). Whether a file is found at it depends on the upper path, on the names and
on what is at the upper path, and on nothing else in the tree (`FileTree.isFile_below`). Entries
that change places make no difference to it (`FileTree.Rearranged.descend`).
-/

namespace CommitSeal

/-! ## Paths below a path -/

namespace Path

/-- The path that names lead to from a path. -/
def below (base : Path) (names : List String) : Path := ⟨base.root, base.names ++ names⟩

theorem child_eq_below (base : Path) (name : String) : base.child name = base.below [name] := rfl

theorem below_nil (base : Path) : base.below [] = base := by
  rw [below, List.append_nil]

theorem below_child (base : Path) (name : String) (names : List String) :
    (base.child name).below names = base.below (name :: names) := by
  rw [below, child, List.append_assoc]
  rfl

theorem below_inj {base : Path} {names others : List String} :
    base.below names = base.below others ↔ names = others := by
  simp [below]

theorem isImpossible_below (base : Path) (names : List String) :
    (base.below names).isImpossible
      = (base.isImpossible || names.any fun name => name.toList.contains '\x00') := by
  simp [isImpossible, below]

/-- The paths below a path are longer than it by a slash and a name. -/
theorem size_text_add_two_le_below (base : Path) (hbase : base.names ≠ []) {name : String}
    (hname : name ≠ "") (names : List String) :
    base.text.utf8ByteSize + 2 ≤ (base.below (name :: names)).text.utf8ByteSize := by
  have hsize : 0 < name.utf8ByteSize := Nat.pos_of_ne_zero fun hzero =>
    hname (String.utf8ByteSize_eq_zero_iff.mp hzero)
  have hbelow : (base.below (name :: names)).names ≠ [] := by simp [below]
  have hupper := size_text base hbase
  have hlower := size_text _ hbelow
  simp only [below, sizeOfNames_append, sizeOfNames] at hlower hupper ⊢
  omega

end Path

namespace FileTree

variable {tree other place : FileTree} {base : Path} {names : List String}

/-- What holds of files, and of a directory if it holds of its entries, holds of every tree. -/
@[elab_as_elim]
theorem induction {motive : FileTree → Prop} (file : ∀ content, motive (.file content))
    (directory : ∀ entries, (∀ entry ∈ entries, motive entry.2) → motive (.directory entries)) :
    ∀ tree, motive tree
  | .file content => file content
  | .directory entries => directory entries fun entry _ => induction file directory entry.2
termination_by tree => tree
decreasing_by
  rename_i hentry
  have hsmaller := List.sizeOf_lt_of_mem hentry
  obtain ⟨name, inner⟩ := entry
  simp only [Prod.mk.sizeOf_spec, FileTree.directory.sizeOf_spec] at hsmaller ⊢
  omega

/-! ## Walking down -/

/-- What names lead to from a place. -/
def descend (place : FileTree) : List String → Except Error FileTree
  | [] => .ok place
  | name :: names => (place.under name).bind fun next => next.descend names

/-- A path is walked down from any path above it. -/
theorem follow_below (tree : FileTree) (base : Path) {names : List String}
    (hnames : ∀ name ∈ names, name ≠ "..") :
    tree.follow (base.below names) = (tree.follow base).bind fun place => place.descend names := by
  induction names generalizing base with
  | nil =>
    rw [Path.below_nil]
    cases tree.follow base <;> rfl
  | cons name names ih =>
    obtain ⟨hname, hrest⟩ := List.forall_mem_cons.mp hnames
    rw [← Path.below_child, ih (base.child name) hrest, follow_child tree base hname]
    cases tree.follow base <;> rfl

/-- What is looked up is found on the walk, and its path is a possible one. -/
theorem of_lookup_eq_some (hlookup : tree.lookup base = .ok (some place)) :
    base.isImpossible = false ∧ tree.follow base = .ok place := by
  unfold lookup find at hlookup
  cases himpossible : base.isImpossible with
  | true => simp [himpossible] at hlookup
  | false =>
    rw [himpossible, if_neg Bool.false_ne_true] at hlookup
    by_cases hlong : maxPathLength < base.text.utf8ByteSize
    · simp [if_pos hlong] at hlookup
    · rw [if_neg hlong] at hlookup
      cases hfollow : tree.follow base with
      | ok found =>
        rw [hfollow] at hlookup
        simp_all
      | error e =>
        rw [hfollow] at hlookup
        cases e <;> cases hlookup

/-- Whether a walk comes to a file. -/
def isFileFound : Except Error FileTree → Except Error Bool
  | .ok (.file _) => .ok true
  | .error .tooLong => .error .tooLong
  | _ => .ok false

/-- Whether there is a file below a place is told by the path and the place. -/
theorem isFile_below (hlookup : tree.lookup base = .ok (some place))
    (hnames : ∀ name ∈ names, name ≠ "..") :
    tree.isFile (base.below names)
      = if (base.below names).isImpossible then .ok false
        else if maxPathLength < (base.below names).text.utf8ByteSize then .error .tooLong
        else isFileFound (place.descend names) := by
  have hfollow : tree.follow (base.below names) = place.descend names := by
    rw [follow_below tree base hnames, (of_lookup_eq_some hlookup).2]
    rfl
  unfold isFile lookup find
  rw [hfollow]
  by_cases himpossible : (base.below names).isImpossible = true
  · simp only [if_pos himpossible]
    rfl
  · by_cases hlong : maxPathLength < (base.below names).text.utf8ByteSize
    · simp only [if_neg himpossible, if_pos hlong]
      rfl
    · simp only [if_neg himpossible, if_neg hlong]
      cases place.descend names with
      | ok found => cases found <;> rfl
      | error e => cases e <;> rfl

/-! ## Rearrangements -/

/-- Two walks come to trees that are rearrangements of each other, or end for the same reason. -/
inductive Alike : Except Error FileTree → Except Error FileTree → Prop where
  | error (e : Error) : Alike (.error e) (.error e)
  | ok {tree other : FileTree} : Rearranged tree other → Alike (.ok tree) (.ok other)

namespace Alike

variable {found found' found'' : Except Error FileTree}

theorem refl (found : Except Error FileTree) : Alike found found := by
  cases found with
  | error e => exact .error e
  | ok tree => exact .ok (.refl tree)

theorem trans (hfirst : Alike found found') (hsecond : Alike found' found'') :
    Alike found found'' := by
  cases hfirst with
  | error e => exact hsecond
  | ok hsame =>
    cases hsecond with
    | ok hsame' => exact .ok (hsame.trans hsame')

/-- Both come to a file, or neither does. -/
theorem isFileFound_eq (halike : Alike found found') : isFileFound found = isFileFound found' := by
  cases halike with
  | error e => rfl
  | ok hsame =>
    rcases hsame.eq_or_directories with rfl | ⟨entries, others, rfl, rfl⟩ <;> rfl

end Alike

/-- The entry of a name is looked up behind the entries of other names. -/
theorem lookup_append_cons (name : String) (tree : FileTree)
    (front back : List (String × FileTree)) (wanted : String) :
    (front ++ (name, tree) :: back).lookup wanted
      = (front.lookup wanted).or (if wanted = name then some tree else back.lookup wanted) := by
  rw [List.lookup_append, List.lookup_cons]
  by_cases hname : wanted = name
  · simp [hname]
  · simp [hname, beq_eq_false_iff_ne.mpr hname]

/-- An entry with a name of its own is looked up. -/
theorem lookup_eq_some_iff_mem {entries : List (String × FileTree)}
    (hnames : (entries.map Prod.fst).Nodup) {name : String} :
    entries.lookup name = some place ↔ (name, place) ∈ entries := by
  induction entries with
  | nil => simp
  | cons entry entries ih =>
    obtain ⟨known, found⟩ := entry
    obtain ⟨hknown, hrest⟩ := List.nodup_cons.mp hnames
    rw [List.lookup_cons, List.mem_cons]
    by_cases hname : name = known
    · -- Behind the entry there is no other of its name.
      have hbehind : (name, place) ∉ entries := fun hmem =>
        hknown (List.mem_map.mpr ⟨(name, place), hmem, hname⟩)
      subst hname
      simp [hbehind, eq_comm]
    · simp [hname, beq_eq_false_iff_ne.mpr hname, ih hrest]

/-- Entries with names of their own are looked up wherever they stand. -/
theorem lookup_eq_of_perm {entries others : List (String × FileTree)}
    (hnames : (entries.map Prod.fst).Nodup) (hperm : entries.Perm others) (name : String) :
    entries.lookup name = others.lookup name := by
  have hothers : (others.map Prod.fst).Nodup := (hperm.map Prod.fst).nodup_iff.mp hnames
  apply Option.ext
  intro place
  rw [lookup_eq_some_iff_mem hnames, lookup_eq_some_iff_mem hothers, hperm.mem_iff]

/-- What is under a name is rearranged with the rest. -/
theorem Rearranged.under (hsame : Rearranged tree other) (name : String) :
    Alike (tree.under name) (other.under name) := by
  induction hsame with
  | refl tree => exact .refl _
  | entries hnames hperm =>
    rw [FileTree.under, FileTree.under, lookup_eq_of_perm hnames hperm name]
    exact .refl _
  | @within tree other known front back hsame ih =>
    rw [FileTree.under, FileTree.under, lookup_append_cons, lookup_append_cons]
    by_cases hlong : maxNameLength < name.utf8ByteSize
    · simp only [if_pos hlong]
      exact .refl _
    · simp only [if_neg hlong]
      cases front.lookup name with
      | some next => exact .refl _
      | none =>
        by_cases hname : name = known
        · simpa [hname] using .ok hsame
        · simpa [hname] using .refl _
  | trans _ _ ih₁ ih₂ => exact ih₁.trans ih₂

/-- Names lead to rearranged places in rearranged trees. -/
theorem Rearranged.descend (hsame : Rearranged tree other) (names : List String) :
    Alike (tree.descend names) (other.descend names) := by
  induction names generalizing tree other with
  | nil => exact .ok hsame
  | cons name names ih =>
    rw [FileTree.descend, FileTree.descend]
    have hunder := hsame.under name
    generalize tree.under name = found at hunder ⊢
    generalize other.under name = found' at hunder ⊢
    cases hunder with
    | error e => exact .error e
    | ok hnext => exact ih hnext

end FileTree

end CommitSeal
