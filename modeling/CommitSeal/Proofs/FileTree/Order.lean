import CommitSeal.Proofs.FileTree.Descent

/-!
# Which files a listing has, and in which order

A file is in a tree behind the names that lead to it (`FileTree.Holds`). A listing comes to it if
every directory on the way can be opened (`FileTree.Reaches`), and it has every such file once: its
paths are those that such names lead to (`FileTree.mem_listing_iff`), and they are all different,
since each comes before the next in an order in which nothing comes before itself
(`FileTree.pairwise_listing`). The order is told by the names alone (`FileTree.Precedes`): the files
of a directory come first, by name, and then what is in its directories, by their names.
-/

namespace CommitSeal

namespace FileTree

/-! ## Files and names -/

/-- A file with a content is in a directory behind names, the last of which is its own and the
others those of directories on the way. An entry that leads out of the tree is not on any way. -/
inductive Holds : FileTree → List String → Octets → Prop where
  | file {entries : List (String × FileTree)} {name : String} {content : Octets} :
      (name, .file content) ∈ entries → leadsOut name = false →
      Holds (.directory entries) [name] content
  | within {entries inner : List (String × FileTree)} {name : String} {names : List String}
      {content : Octets} :
      (name, .directory inner) ∈ entries → leadsOut name = false →
      Holds (.directory inner) names content → Holds (.directory entries) (name :: names) content

/-- Every directory on the way from a path through names to a file can be opened. -/
def Opens (lead : Nat) (base : Path) : List String → Prop
  | [] => True
  | [_] => True
  | name :: next :: names =>
    canOpen lead (base.child name) = true ∧ Opens lead (base.child name) (next :: names)

/-- A file is come to when the directory at a path is listed. -/
def Reaches (lead : Nat) (base : Path) (tree : FileTree) (names : List String)
    (content : Octets) : Prop :=
  tree.Holds names content ∧ Opens lead base names

/-- An entry can have the name. -/
structure IsName (name : String) : Prop where
  nonempty : name ≠ ""
  possible : '\x00' ∉ name.toList
  short : name.utf8ByteSize ≤ maxNameLength

instance (name : String) : Decidable (IsName name) :=
  decidable_of_iff (name ≠ "" ∧ '\x00' ∉ name.toList ∧ name.utf8ByteSize ≤ maxNameLength)
    ⟨fun ⟨hne, hpossible, hshort⟩ => ⟨hne, hpossible, hshort⟩,
      fun h => ⟨h.nonempty, h.possible, h.short⟩⟩

/-- No directory of a tree has two entries with one name, and the names are such as an entry can
have. -/
inductive WellNamed : FileTree → Prop where
  | file (content : Octets) : WellNamed (.file content)
  | directory {entries : List (String × FileTree)} :
      (entries.map Prod.fst).Nodup → (∀ entry ∈ entries, IsName entry.1) →
      (∀ entry ∈ entries, WellNamed entry.2) → WellNamed (.directory entries)

/-- The order of files below a directory, by the names that lead to them. The files of the directory
come by name; then the directories come by name, and with each what is in it. -/
inductive Precedes : List String → List String → Prop where
  | files {name other : String} : name < other → Precedes [name] [other]
  | filesFirst {name other next : String} {others : List String} :
      Precedes [name] (other :: next :: others)
  | directories {name next other next' : String} {names others : List String} :
      name < other → Precedes (name :: next :: names) (other :: next' :: others)
  | within (name : String) {names others : List String} :
      Precedes names others → Precedes (name :: names) (name :: others)

theorem Precedes.irrefl (names : List String) : ¬ Precedes names names := by
  induction names with
  | nil => nofun
  | cons name names ih =>
    intro hself
    cases hself with
    | files hlt => exact String.lt_irrefl name hlt
    | directories hlt => exact String.lt_irrefl name hlt
    | within _ hinner => exact ih hinner

theorem Precedes.asymm {names others : List String} (hprecedes : Precedes names others) :
    ¬ Precedes others names := by
  induction hprecedes with
  | files hlt =>
    intro hback
    cases hback with
    | files hlt' => exact String.lt_irrefl _ (String.lt_trans hlt hlt')
    | within _ hinner => cases hinner
  | filesFirst =>
    intro hback
    cases hback with
    | within _ hinner => cases hinner
  | directories hlt =>
    intro hback
    cases hback with
    | directories hlt' => exact String.lt_irrefl _ (String.lt_trans hlt hlt')
    | within _ _ => exact String.lt_irrefl _ hlt
  | @within name names others hinner ih =>
    intro hback
    cases hback with
    | files hlt => exact String.lt_irrefl _ hlt
    | filesFirst => cases hinner
    | directories hlt => exact String.lt_irrefl _ hlt
    | within _ hinner' => exact ih hinner'

/-- One path comes before another below a directory. -/
def PrecedesBelow (base path other : Path) : Prop :=
  ∃ names others, path = base.below names ∧ other = base.below others ∧ Precedes names others

theorem precedesBelow_below_iff {base : Path} {names others : List String} :
    PrecedesBelow base (base.below names) (base.below others) ↔ Precedes names others := by
  constructor
  · rintro ⟨names', others', hnames, hothers, hprecedes⟩
    rwa [Path.below_inj.mp hnames, Path.below_inj.mp hothers]
  · exact fun hprecedes => ⟨names, others, rfl, rfl, hprecedes⟩

theorem PrecedesBelow.asymm {base path other : Path} (hprecedes : PrecedesBelow base path other) :
    ¬ PrecedesBelow base other path := by
  obtain ⟨names, others, rfl, rfl, hnames⟩ := hprecedes
  rw [precedesBelow_below_iff]
  exact hnames.asymm

theorem PrecedesBelow.ne {base path other : Path} (hprecedes : PrecedesBelow base path other) :
    path ≠ other := by
  obtain ⟨names, others, rfl, rfl, hnames⟩ := hprecedes
  intro heq
  rw [Path.below_inj.mp heq] at hnames
  exact Precedes.irrefl others hnames

/-- What comes before in a directory comes before above it. -/
theorem PrecedesBelow.of_child {base path other : Path} {name : String}
    (hprecedes : PrecedesBelow (base.child name) path other) : PrecedesBelow base path other := by
  obtain ⟨names, others, rfl, rfl, hnames⟩ := hprecedes
  exact ⟨name :: names, name :: others, Path.below_child .., Path.below_child ..,
    .within name hnames⟩

variable {tree : FileTree} {entries : List (String × FileTree)} {base path : Path}
  {content : Octets} {lead : Nat}

theorem Holds.exists_cons {names : List String} (hholds : tree.Holds names content) :
    ∃ name rest, names = name :: rest := by
  cases hholds with
  | file _ _ => exact ⟨_, [], rfl⟩
  | within _ _ _ => exact ⟨_, _, rfl⟩

theorem ne_of_leadsOut_eq_false {name : String} (hname : leadsOut name = false) : name ≠ ".." := by
  rintro rfl
  exact absurd hname (by decide)

theorem Holds.ne_up {names : List String} (hholds : tree.Holds names content) :
    ∀ name ∈ names, name ≠ ".." := by
  induction hholds with
  | file _ hname => exact List.forall_mem_singleton.mpr (ne_of_leadsOut_eq_false hname)
  | within _ hname _ ih => exact List.forall_mem_cons.mpr ⟨ne_of_leadsOut_eq_false hname, ih⟩

/-- The way to a file opens up if its path is not too long. -/
theorem opens_of_size {names : List String} (hnames : ∀ name ∈ names, name ≠ "") (hlead : lead ≤ 2)
    (hsize : (base.below names).text.utf8ByteSize ≤ maxPathLength) : Opens lead base names := by
  induction names generalizing base with
  | nil => trivial
  | cons name names ih =>
    cases names with
    | nil => trivial
    | cons next names =>
      have hrest := (List.forall_mem_cons.mp hnames).2
      rw [← Path.below_child] at hsize
      -- A slash and a name make up for what is in front of the path of the directory.
      have hupper := Path.size_text_add_two_le_below (base.child name) (by simp [Path.child])
        (List.forall_mem_cons.mp hrest).1 names
      exact ⟨decide_eq_true (by omega), ih hrest hsize⟩

/-! ## What is listed -/

theorem mem_byName {α : Type} {entries : List (String × α)} {entry : String × α} :
    entry ∈ byName entries ↔ entry ∈ entries :=
  (List.mergeSort_perm _ _).mem_iff

theorem mem_asFile?_iff {name : String} :
    (name, content) ∈ entries.filterMap asFile? ↔
      (name, .file content) ∈ entries ∧ leadsOut name = false := by
  rw [List.mem_filterMap]
  constructor
  · rintro ⟨⟨_, _ | _⟩, hmem, hfile⟩
    · rw [asFile?] at hfile
      split at hfile
      · cases hfile
      · rename_i hname
        cases hfile
        exact ⟨hmem, by simpa using hname⟩
    · cases hfile
  · rintro ⟨hmem, hname⟩
    exact ⟨_, hmem, by simp [asFile?, hname]⟩

theorem mem_asDirectory?_iff {block : String × List (Path × Octets)} :
    block ∈ entries.filterMap (asDirectory? lead base) ↔
      ∃ name inner, (name, .directory inner) ∈ entries ∧ leadsOut name = false ∧
        canOpen lead (base.child name) = true ∧
        block = (name, listing lead (base.child name) (.directory inner)) := by
  rw [List.mem_filterMap]
  constructor
  · rintro ⟨⟨name, _ | inner⟩, hmem, hblock⟩
    · cases hblock
    · rw [asDirectory?] at hblock
      split at hblock
      · cases hblock
      · rename_i hname
        obtain ⟨hname, hopen⟩ : leadsOut name = false ∧ canOpen lead (base.child name) = true := by
          simpa using hname
        exact ⟨name, inner, hmem, hname, hopen, (Option.some.inj hblock).symm⟩
  · rintro ⟨name, inner, hmem, hname, hopen, rfl⟩
    exact ⟨_, hmem, by simp [asDirectory?, hname, hopen]⟩

/-- A directory lists its files, and what its directories list. -/
theorem mem_listing_directory_iff :
    (path, content) ∈ listing lead base (.directory entries) ↔
      (∃ name, (name, .file content) ∈ entries ∧ leadsOut name = false ∧ path = base.child name) ∨
        ∃ name inner, (name, .directory inner) ∈ entries ∧ leadsOut name = false ∧
          canOpen lead (base.child name) = true ∧
          (path, content) ∈ listing lead (base.child name) (.directory inner) := by
  rw [listing_directory, List.mem_append]
  refine or_congr ?_ ?_
  · rw [List.mem_map]
    constructor
    · rintro ⟨⟨name, found⟩, hmem, heq⟩
      obtain ⟨rfl, rfl⟩ := Prod.mk.inj heq
      obtain ⟨hentry, hname⟩ := mem_asFile?_iff.mp (mem_byName.mp hmem)
      exact ⟨name, hentry, hname, rfl⟩
    · rintro ⟨name, hentry, hname, rfl⟩
      exact ⟨(name, content), mem_byName.mpr (mem_asFile?_iff.mpr ⟨hentry, hname⟩), rfl⟩
  · rw [List.mem_flatMap]
    constructor
    · rintro ⟨block, hmem, hlisted⟩
      obtain ⟨name, inner, hentry, hname, hopen, rfl⟩ :=
        mem_asDirectory?_iff.mp (mem_byName.mp hmem)
      exact ⟨name, inner, hentry, hname, hopen, hlisted⟩
    · rintro ⟨name, inner, hentry, hname, hopen, hlisted⟩
      have hblock : (name, listing lead (base.child name) (.directory inner))
          ∈ entries.filterMap (asDirectory? lead base) :=
        mem_asDirectory?_iff.mpr ⟨name, inner, hentry, hname, hopen, rfl⟩
      exact ⟨_, mem_byName.mpr hblock, hlisted⟩

theorem mem_listing_of_reaches {names : List String} (hholds : tree.Holds names content) :
    ∀ base : Path, Opens lead base names →
      (base.below names, content) ∈ listing lead base tree := by
  induction hholds with
  | @file entries name content hmem hname =>
    intro base _
    exact mem_listing_directory_iff.mpr (.inl ⟨name, hmem, hname, Path.child_eq_below base name⟩)
  | @within entries inner name names content hmem hname hholds ih =>
    intro base hopens
    obtain ⟨next, names, rfl⟩ := hholds.exists_cons
    refine mem_listing_directory_iff.mpr (.inr ⟨name, inner, hmem, hname, hopens.1, ?_⟩)
    rw [← Path.below_child]
    exact ih (base.child name) hopens.2

theorem exists_reaches_of_mem_listing (tree : FileTree) :
    ∀ (entries : List (String × FileTree)) (base : Path), tree = .directory entries →
      (path, content) ∈ listing lead base (.directory entries) →
      ∃ names, Reaches lead base (.directory entries) names content ∧ path = base.below names := by
  induction tree using FileTree.induction with
  | file _ => nofun
  | directory _ ih =>
    rintro entries base ⟨⟩ hmem
    rcases mem_listing_directory_iff.mp hmem with
      ⟨name, hentry, hname, rfl⟩ | ⟨name, inner, hentry, hname, hopen, hinner⟩
    · exact ⟨[name], ⟨.file hentry hname, trivial⟩, Path.child_eq_below base name⟩
    · obtain ⟨names, ⟨hholds, hopens⟩, rfl⟩ := ih _ hentry inner (base.child name) rfl hinner
      obtain ⟨next, names, rfl⟩ := hholds.exists_cons
      exact ⟨name :: next :: names, ⟨.within hentry hname hholds, hopen, hopens⟩,
        Path.below_child ..⟩

/-- The files that are come to are listed, at the paths that their names lead to, and nothing
else. -/
theorem mem_listing_iff :
    (path, content) ∈ listing lead base (.directory entries) ↔
      ∃ names, Reaches lead base (.directory entries) names content ∧ path = base.below names := by
  constructor
  · exact exists_reaches_of_mem_listing _ entries base rfl
  · rintro ⟨names, ⟨hholds, hopens⟩, rfl⟩
    exact mem_listing_of_reaches hholds base hopens

/-! ## In which order -/

/-- Entries with names of their own are sorted strictly. -/
theorem pairwise_lt_byName {α : Type} {entries : List (String × α)}
    (hnames : (entries.map Prod.fst).Nodup) :
    (byName entries).Pairwise fun a b => a.1 < b.1 := by
  have hsorted : ((byName entries).map Prod.fst).Nodup :=
    ((List.mergeSort_perm _ _).map Prod.fst).nodup_iff.mpr hnames
  refine ((pairwise_byName entries).and (List.pairwise_map.mp hsorted)).imp ?_
  rintro a b ⟨hle, hne⟩
  rw [← String.not_le]
  exact fun hge => hne (String.le_antisymm hle hge)

/-- Every file that is listed comes before those behind it. -/
theorem pairwise_listing (hnamed : tree.WellNamed) (lead : Nat) (base : Path) :
    (listing lead base tree).Pairwise fun a b => PrecedesBelow base a.1 b.1 := by
  induction hnamed generalizing base with
  | file content => exact List.pairwise_singleton _ _
  | @directory entries hnames _ _ ih =>
    -- What is listed for a directory is behind its name, and behind another name.
    have hblock : ∀ block ∈ byName (entries.filterMap (asDirectory? lead base)), ∀ item ∈ block.2,
        ∃ next names, item.1 = base.below (block.1 :: next :: names) := by
      intro block hmem item hitem
      obtain ⟨name, inner, hentry, -, -, rfl⟩ := mem_asDirectory?_iff.mp (mem_byName.mp hmem)
      obtain ⟨names, hreaches, hpath⟩ := mem_listing_iff.mp hitem
      obtain ⟨next, names, rfl⟩ := hreaches.1.exists_cons
      exact ⟨next, names, hpath.trans (Path.below_child ..)⟩
    rw [listing_directory, List.pairwise_append, List.pairwise_flatMap]
    refine ⟨?_, ⟨?_, ?_⟩, ?_⟩
    · rw [List.pairwise_map]
      refine (pairwise_lt_byName (nodup_names_filterMap name_asFile? hnames)).imp ?_
      intro a b hlt
      exact ⟨[a.1], [b.1], rfl, rfl, .files hlt⟩
    · intro block hmem
      obtain ⟨name, inner, hentry, -, -, rfl⟩ := mem_asDirectory?_iff.mp (mem_byName.mp hmem)
      exact (ih _ hentry (base.child name)).imp PrecedesBelow.of_child
    · refine (pairwise_lt_byName
        (nodup_names_filterMap (name_asDirectory? lead base) hnames)).imp_of_mem ?_
      intro a b ha hb hlt item hitem other hother
      obtain ⟨next, names, hpath⟩ := hblock a ha item hitem
      obtain ⟨next', others, hpath'⟩ := hblock b hb other hother
      exact ⟨_, _, hpath, hpath', .directories hlt⟩
    · intro item hitem other hother
      obtain ⟨⟨name, found⟩, -, rfl⟩ := List.mem_map.mp hitem
      obtain ⟨block, hmem, hother⟩ := List.mem_flatMap.mp hother
      obtain ⟨next, names, hpath⟩ := hblock block hmem other hother
      exact ⟨[name], _, Path.child_eq_below base name, hpath, .filesFirst⟩

/-! ## What is found where it is listed -/

/-- The names that lead to a file in a tree lead down to it. -/
theorem Holds.descend {names : List String} (hholds : tree.Holds names content)
    (hnamed : tree.WellNamed) : tree.descend names = .ok (.file content) := by
  induction hholds with
  | @file entries name content hmem _ =>
    cases hnamed with
    | directory hnames hproper _ =>
      have hlookup := (lookup_eq_some_iff_mem hnames).mpr hmem
      have hshort := (hproper _ hmem).short
      rw [FileTree.descend, under, if_neg (Nat.not_lt.mpr hshort), hlookup]
      rfl
  | @within entries inner name names content hmem _ _ ih =>
    cases hnamed with
    | directory hnames hproper hinner =>
      have hlookup := (lookup_eq_some_iff_mem hnames).mpr hmem
      have hshort := (hproper _ hmem).short
      rw [FileTree.descend, under, if_neg (Nat.not_lt.mpr hshort), hlookup]
      exact ih (hinner _ hmem)

theorem Holds.isName {names : List String} (hholds : tree.Holds names content)
    (hnamed : tree.WellNamed) : ∀ name ∈ names, IsName name := by
  induction hholds with
  | file hmem _ =>
    cases hnamed with
    | directory _ hproper _ => exact List.forall_mem_singleton.mpr (hproper _ hmem)
  | within hmem _ _ ih =>
    cases hnamed with
    | directory _ hproper hinner =>
      exact List.forall_mem_cons.mpr ⟨hproper _ hmem, ih (hinner _ hmem)⟩

/-- A file that is in the directory at a path is found there, unless its path is too long. -/
theorem isFile_of_holds {place : FileTree} {names : List String}
    (hlookup : tree.lookup base = .ok (some place)) (hnamed : place.WellNamed)
    (hholds : place.Holds names content) :
    tree.isFile (base.below names)
      = if maxPathLength < (base.below names).text.utf8ByteSize then .error .tooLong
        else .ok true := by
  have himpossible : (base.below names).isImpossible = false := by
    rw [Path.isImpossible_below, (of_lookup_eq_some hlookup).1]
    simpa using fun name hname => (hholds.isName hnamed name hname).possible
  rw [isFile_below hlookup hholds.ne_up, himpossible, if_neg Bool.false_ne_true,
    hholds.descend hnamed]
  rfl

end FileTree

end CommitSeal
