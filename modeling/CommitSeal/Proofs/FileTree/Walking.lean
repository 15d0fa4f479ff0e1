import CommitSeal.Proofs.FileTree.Arrangement

/-!
# What is looked up in a tree

A path to an entry of a directory is walked to the directory first (`FileTree.follow_child`).
Whether it is too long depends on the directory and on how many octets the name has, not on whether
there is such an entry (`FileTree.find_child_eq_tooLong_iff`).

Two trees may be compared at one path: by the file there (`FileTree.SameFile`), or by everything
below it (`FileTree.SameAt`).
-/

namespace CommitSeal

namespace Path

/-- How many octets names have, with a slash for each. -/
def sizeOfNames : List String → Nat
  | [] => 0
  | name :: names => name.utf8ByteSize + 1 + sizeOfNames names

theorem sizeOfNames_append (names others : List String) :
    sizeOfNames (names ++ others) = sizeOfNames names + sizeOfNames others := by
  induction names with
  | nil => simp [sizeOfNames]
  | cons name names ih =>
    rw [List.cons_append, sizeOfNames, sizeOfNames, ih]
    omega

/-- Names that are put together have one slash less. -/
theorem size_intercalate {names : List String} (hnames : names ≠ []) :
    (String.intercalate "/" names).utf8ByteSize + 1 = sizeOfNames names := by
  induction names with
  | nil => exact absurd rfl hnames
  | cons name names ih =>
    by_cases hrest : names = []
    · simp [hrest, sizeOfNames]
    · have hslash : ("/" : String).utf8ByteSize = 1 := rfl
      rw [String.intercalate_cons_of_ne_nil hrest, sizeOfNames, ← ih hrest]
      simp only [String.utf8ByteSize_append, hslash]
      omega

/-- How many octets the written form of a path has. -/
theorem size_text (path : Path) (hnames : path.names ≠ []) :
    path.text.utf8ByteSize + 1 = path.root.text.utf8ByteSize + sizeOfNames path.names := by
  have htext : path.text = path.root.text ++ String.intercalate "/" path.names := by
    unfold text
    split
    · contradiction
    · rfl
  rw [htext, String.utf8ByteSize_append, ← size_intercalate hnames]
  omega

/-- The written form of the path of an entry has as many octets for one name as for another. -/
theorem size_text_child (base : Path) {name other : String}
    (hsize : name.utf8ByteSize = other.utf8ByteSize) :
    (base.child name).text.utf8ByteSize = (base.child other).text.utf8ByteSize := by
  have hname := size_text (base.child name) (by simp [child])
  have hother := size_text (base.child other) (by simp [child])
  simp only [child, sizeOfNames_append, sizeOfNames, hsize] at hname hother ⊢
  omega

end Path

namespace FileTree

variable {tree other : FileTree} {path : Path}

/-! ## Walking -/

/-- What is in a place under a name that is no double dot. -/
def under (place : FileTree) (name : String) : Except Error FileTree :=
  match place with
  | .file _ => .error .notADirectory
  | .directory entries =>
    if maxNameLength < name.utf8ByteSize then .error .tooLong
    else
      match entries.lookup name with
      | none => .error .missing
      | some next => .ok next

/-- One name of a walk: where it leads, and what is above that place. -/
def step (isRooted : Bool) (above : List FileTree) (place : FileTree) (name : String) :
    Except Error (List FileTree × FileTree) :=
  if name = ".." then
    match place with
    | .file _ => .error .notADirectory
    | .directory entries =>
      match above, entries.lookup name with
      | before :: above, _ => .ok (above, before)
      | [], some next => .ok ([], next)
      | [], none => if isRooted then .ok ([], place) else .error .missing
  else (place.under name).map fun next => (place :: above, next)

theorem walk_cons (isRooted : Bool) (above : List FileTree) (place : FileTree) (name : String)
    (rest : List String) :
    walk isRooted above place (name :: rest)
      = (step isRooted above place name).bind fun (above, place) =>
          walk isRooted above place rest := by
  unfold step
  cases place with
  | file content =>
    show Except.error Error.notADirectory = _
    by_cases hname : name = ".."
    · rw [if_pos hname]
      rfl
    · rw [if_neg hname]
      rfl
  | directory entries =>
    by_cases hname : name = ".."
    · -- It leads back, or else through an entry of that name, or nowhere.
      rw [walk.eq_def, if_pos hname]
      simp only [if_pos hname]
      cases above with
      | cons before above => rfl
      | nil =>
        cases entries.lookup name with
        | some next => rfl
        | none => cases isRooted <;> rfl
    · rw [walk.eq_def, if_neg hname]
      simp only [if_neg hname, under]
      split
      · rfl
      · cases entries.lookup name <;> rfl

/-- The last name of a walk is looked up where the others lead. -/
theorem walk_append_singleton (isRooted : Bool) {name : String} (hname : name ≠ "..")
    (names : List String) (above : List FileTree) (place : FileTree) :
    walk isRooted above place (names ++ [name])
      = (walk isRooted above place names).bind fun place => place.under name := by
  induction names generalizing above place with
  | nil =>
    rw [List.nil_append, walk_cons]
    unfold step
    rw [if_neg hname]
    show _ = place.under name
    cases place.under name <;> rfl
  | cons first names ih =>
    rw [List.cons_append, walk_cons, walk_cons]
    cases step isRooted above place first with
    | error e => rfl
    | ok reached => exact ih reached.1 reached.2

theorem follow_child (tree : FileTree) (base : Path) {name : String} (hname : name ≠ "..") :
    tree.follow (base.child name) = (tree.follow base).bind fun place => place.under name := by
  unfold follow Path.child
  cases base.root with
  | relative => exact walk_append_singleton false hname base.names [] tree
  | absolute =>
    cases walk false [] tree [rootName] with
    | error e => rfl
    | ok top => exact walk_append_singleton true hname base.names [] top
  | doubled =>
    cases walk false [] tree [rootName] with
    | error e => rfl
    | ok top => exact walk_append_singleton true hname base.names [] top

/-! ## Paths that are too long -/

theorem under_eq_tooLong_iff (place : FileTree) (name : String) :
    place.under name = .error .tooLong
      ↔ (∃ entries, place = .directory entries) ∧ maxNameLength < name.utf8ByteSize := by
  cases place with
  | file content => simp [under]
  | directory entries =>
    rw [under]
    split
    · simp_all
    · cases entries.lookup name <;> simp_all

/-- Of two entries of a directory with names of one size, the path of one is too long if that of the
other is. -/
theorem find_child_eq_tooLong_iff (tree : FileTree) (base : Path) {name other : String}
    (hsize : name.utf8ByteSize = other.utf8ByteSize) (hname : name ≠ "..") (hother : other ≠ "..")
    (hpossible : '\x00' ∉ name.toList) (hpossible' : '\x00' ∉ other.toList) :
    tree.find (base.child name) = .error .tooLong
      ↔ tree.find (base.child other) = .error .tooLong := by
  have himpossible : ∀ {name : String}, '\x00' ∉ name.toList →
      (base.child name).isImpossible = base.isImpossible := by
    intro name hpossible
    simp [Path.isImpossible, Path.child, hpossible]
  -- The walk to the directory is the same; behind it only the size of the name matters.
  have hfollow : tree.follow (base.child name) = .error .tooLong
      ↔ tree.follow (base.child other) = .error .tooLong := by
    rw [follow_child tree base hname, follow_child tree base hother]
    cases tree.follow base with
    | error e => rfl
    | ok place =>
      show place.under name = .error .tooLong ↔ place.under other = .error .tooLong
      rw [under_eq_tooLong_iff, under_eq_tooLong_iff, hsize]
  unfold find
  rw [himpossible hpossible, himpossible hpossible', Path.size_text_child base hsize]
  split
  · rfl
  · split
    · rfl
    · exact hfollow

/-! ## Files -/

/-- Whether there is a file is told by reading it. -/
theorem isFile_eq (tree : FileTree) (path : Path) :
    tree.isFile path =
      match tree.read path with
      | .ok _ => .ok true
      | .error .tooLong => .error .tooLong
      | .error _ => .ok false := by
  unfold isFile lookup read
  cases tree.find path with
  | error e => cases e <;> rfl
  | ok place => cases place <;> rfl

theorem isFile_eq_true_iff :
    tree.isFile path = .ok true ↔ ∃ content, tree.read path = .ok content := by
  rw [isFile_eq]
  cases tree.read path with
  | error e => cases e <;> simp
  | ok content => simp

/-- Looking for a file fails where the path is too long, and nowhere else. -/
theorem isFile_eq_error_iff {e : Error} :
    tree.isFile path = .error e ↔ tree.find path = .error .tooLong ∧ e = .tooLong := by
  unfold isFile lookup
  cases tree.find path with
  | error found => cases found <;> simp [Except.map, eq_comm]
  | ok place => cases place <;> simp [Except.map]

/-! ## Two trees -/

/-- Two trees have the same file at a path, or no file both. -/
def SameFile (tree other : FileTree) (path : Path) : Prop :=
  ∀ content, tree.read path = .ok content ↔ other.read path = .ok content

/-- Two trees have the same at a path, whatever the order of entries there. -/
def SameAt (tree other : FileTree) (path : Path) : Prop :=
  tree.lookup path = other.lookup path ∨
    ∃ place place', tree.lookup path = .ok (some place) ∧ other.lookup path = .ok (some place') ∧
      Rearranged place place'

end FileTree

end CommitSeal
