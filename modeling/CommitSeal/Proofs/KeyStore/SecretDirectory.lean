import CommitSeal.KeyStore.Reading
import CommitSeal.Proofs.FileTree.Order
import CommitSeal.Proofs.Listing
import Mathlib.Data.List.TakeWhile

/-!
# Reading a secret key directory

The files of a secret key directory are listed, and each is looked up once more at its own path. In
a directory whose entries have proper names the second look finds what the first did, unless the
path is too long (`FileTree.isFile_of_holds`), and then the reading breaks off. So it yields the
files that the listing comes to, in its order, up to the first whose path is too long
(`KeyStore.secretDirectory_complete`). Those are all files of the directory, if no path in it is too
long.

How entries are ordered makes no difference, and neither does anything outside the directory
(`KeyStore.secretDirectory_congr`).
-/

namespace CommitSeal.KeyStore

open FileTree

variable {tree other : FileTree} {path : Path} {entries : List (String × FileTree)}

/-! ## What is read -/

/-- A directory is read to what is found of its listing. -/
theorem secretDirectory_of_directory (hplace : tree.lookup path = .ok (some (.directory entries))) :
    secretDirectory tree path
      = .ok (Listing.collect (listedFile? tree) (listing (lead path) path (.directory entries))
          none) := by
  unfold secretDirectory
  simp only [hplace]
  rfl

/-- What is found of a file that was listed in a place is the same in every tree with the place. -/
theorem listedFile?_congr {entries others : List (String × FileTree)}
    (hplace : tree.lookup path = .ok (some (.directory entries)))
    (hplace' : other.lookup path = .ok (some (.directory others)))
    (hsame : (FileTree.directory entries).Rearranged (.directory others)) {item : Path × Octets}
    (hitem : item ∈ listing (lead path) path (.directory entries)) :
    listedFile? tree item = listedFile? other item := by
  obtain ⟨names, ⟨hholds, -⟩, hpath⟩ := mem_listing_iff.mp hitem
  have hfound : tree.isFile item.1 = other.isFile item.1 := by
    rw [hpath, isFile_below hplace hholds.ne_up, isFile_below hplace' hholds.ne_up,
      (hsame.descend names).isFileFound_eq]
  rw [listedFile?, listedFile?, isFile, isFile, hfound]

/-- A secret key directory is read alike wherever the same is in it, in whatever order. -/
theorem secretDirectory_eq_of_rearranged {entries others : List (String × FileTree)}
    (hplace : tree.lookup path = .ok (some (.directory entries)))
    (hplace' : other.lookup path = .ok (some (.directory others)))
    (hsame : (FileTree.directory entries).Rearranged (.directory others)) :
    secretDirectory tree path = secretDirectory other path := by
  rw [secretDirectory_of_directory hplace, secretDirectory_of_directory hplace',
    ← hsame.listing_eq (lead path) path,
    Listing.collect_congr fun item hitem => listedFile?_congr hplace hplace' hsame hitem]

/-- A secret key directory is read alike in trees that have the same there. -/
theorem secretDirectory_congr (hsame : tree.SameAt other path) :
    secretDirectory tree path = secretDirectory other path := by
  rcases hsame with hlookup | ⟨place, place', hplace, hplace', hrearranged⟩
  · -- Where there is no directory, what is looked up is all that counts.
    cases hplace : tree.lookup path with
    | error e => rw [secretDirectory, secretDirectory, ← hlookup, hplace]
    | ok found =>
      rcases found with _ | (content | entries)
      · rw [secretDirectory, secretDirectory, ← hlookup, hplace]
      · rw [secretDirectory, secretDirectory, ← hlookup, hplace]
      · exact secretDirectory_eq_of_rearranged hplace (hlookup.symm.trans hplace) (.refl _)
  · rcases hrearranged.eq_or_directories with rfl | ⟨entries, others, rfl, rfl⟩
    · cases place with
      | file content => rw [secretDirectory, secretDirectory, hplace, hplace']
      | directory entries => exact secretDirectory_eq_of_rearranged hplace hplace' hrearranged
    · exact secretDirectory_eq_of_rearranged hplace hplace' hrearranged

/-! ## Where the reading ends -/

/-- A reading ends early for one reason only. -/
theorem failure_secretDirectory {files : Listing Fault SecretFile} {fault : Fault}
    (hfiles : secretDirectory tree path = .ok files) (hfault : files.failure = some fault) :
    fault = .pathTooLong := by
  unfold secretDirectory at hfiles
  split at hfiles
  · cases hfiles
  · cases hfiles
    obtain hend | ⟨item, -, hitem⟩ := Listing.failure_collect hfault
    · cases hend
    · unfold listedFile? isFile at hitem
      cases hfound : tree.isFile item.1 with
      | error e =>
        rw [hfound] at hitem
        exact (Except.error.inj hitem).symm
      | ok found =>
        rw [hfound] at hitem
        cases hitem
  · cases hfiles

/-- A path is longer than any can be that is looked up. -/
def isLong (path : Path) : Bool := decide (maxPathLength < path.text.utf8ByteSize)

/-- What is found of a file that was listed: the file, unless its path is too long. -/
theorem listedFile?_of_mem (hplace : tree.lookup path = .ok (some (.directory entries)))
    (hnamed : (FileTree.directory entries).WellNamed) {item : Path × Octets}
    (hitem : item ∈ listing (lead path) path (.directory entries)) :
    listedFile? tree item
      = if isLong item.1 then .error .pathTooLong else .ok (some ⟨item.1, item.2⟩) := by
  obtain ⟨names, ⟨hholds, -⟩, hpath⟩ := mem_listing_iff.mp hitem
  rw [listedFile?, isFile, hpath, isFile_of_holds hplace hnamed hholds, isLong]
  by_cases hlong : maxPathLength < (path.below names).text.utf8ByteSize <;> simp [hlong] <;> rfl

/-- The files of a listing in front of the first whose path is too long. -/
def untilLong (items : List (Path × Octets)) : List SecretFile :=
  (items.takeWhile fun item => !isLong item.1).map fun item => ⟨item.1, item.2⟩

/-- What ends the reading of a listing: that a path is too long, if one is. -/
def longFault? (items : List (Path × Octets)) : Option Fault :=
  if items.any fun item => isLong item.1 then some .pathTooLong else none

theorem mem_untilLong_iff {items : List (Path × Octets)} {file : SecretFile} :
    file ∈ untilLong items ↔
      (file.path, file.content) ∈ items.takeWhile fun item => !isLong item.1 := by
  rw [untilLong, List.mem_map]
  constructor
  · rintro ⟨item, hitem, rfl⟩
    exact hitem
  · exact fun hitem => ⟨_, hitem, rfl⟩

theorem longFault?_eq_some_iff {items : List (Path × Octets)} {fault : Fault} :
    longFault? items = some fault ↔
      fault = .pathTooLong ∧ ∃ item ∈ items, isLong item.1 = true := by
  rw [longFault?, ← List.any_eq_true]
  cases items.any fun item => isLong item.1 with
  | true => simp [eq_comm]
  | false => simp

theorem untilLong_of_short {items : List (Path × Octets)}
    (hshort : ∀ item ∈ items, isLong item.1 = false) :
    untilLong items = items.map fun item => ⟨item.1, item.2⟩ := by
  rw [untilLong, List.takeWhile_eq_self_iff.mpr fun item hitem => by simp [hshort item hitem]]

theorem longFault?_of_short {items : List (Path × Octets)}
    (hshort : ∀ item ∈ items, isLong item.1 = false) : longFault? items = none :=
  if_neg fun hany => by
    obtain ⟨item, hitem, hlong⟩ := List.any_eq_true.mp hany
    rw [hshort item hitem] at hlong
    cases hlong

/-- The reading yields the files of the listing up to the first whose path is too long. -/
theorem secretDirectory_eq (hplace : tree.lookup path = .ok (some (.directory entries)))
    (hnamed : (FileTree.directory entries).WellNamed) :
    secretDirectory tree path
      = .ok ⟨untilLong (listing (lead path) path (.directory entries)),
          longFault? (listing (lead path) path (.directory entries))⟩ := by
  rw [secretDirectory_of_directory hplace,
    Listing.collect_of_refused fun item hitem => listedFile?_of_mem hplace hnamed hitem]
  rfl

/-- Files in the order of their names, at paths that are not too long. -/
structure Tidy (path : Path) (files : List (String × Octets)) : Prop where
  names : ∀ file ∈ files, IsName file.1 ∧ leadsOut file.1 = false ∧
    isLong (path.child file.1) = false
  sorted : files.Pairwise fun a b => a.1 < b.1

instance (path : Path) (files : List (String × Octets)) : Decidable (Tidy path files) :=
  decidable_of_iff
    ((∀ file ∈ files, IsName file.1 ∧ leadsOut file.1 = false ∧
        isLong (path.child file.1) = false) ∧
      files.Pairwise fun a b => a.1 < b.1)
    ⟨fun ⟨names, sorted⟩ => ⟨names, sorted⟩, fun h => ⟨h.names, h.sorted⟩⟩

namespace Tidy

variable {files : List (String × Octets)}

theorem wellNamed (htidy : Tidy path files) :
    (FileTree.directory (files.map fun (name, content) => (name, .file content))).WellNamed := by
  refine .directory ?_ ?_ ?_
  · rw [List.map_map]
    refine List.pairwise_map.mpr (htidy.sorted.imp ?_)
    intro a b hlt heq
    have hname : a.1 = b.1 := heq
    exact String.lt_irrefl b.1 (hname ▸ hlt)
  · exact List.forall_mem_map.mpr fun file hfile => (htidy.names file hfile).1
  · exact List.forall_mem_map.mpr fun file _ => .file file.2

theorem listing_eq (htidy : Tidy path files) :
    listing (lead path) path (.directory (files.map fun (name, content) => (name, .file content)))
      = files.map fun (name, content) => (path.child name, content) :=
  listing_of_files (lead path) path (fun file hfile => (htidy.names file hfile).2.1)
    (htidy.sorted.imp fun hlt => String.not_lt.mp (String.lt_asymm hlt))

end Tidy

/-- A secret key directory of files only is read as it is, if it is tidy. -/
theorem secretDirectory_of_files {files : List (String × Octets)}
    (hplace : tree.lookup path
      = .ok (some (.directory (files.map fun (name, content) => (name, .file content)))))
    (htidy : Tidy path files) :
    secretDirectory tree path
      = .ok (.ofList (files.map fun (name, content) => ⟨path.child name, content⟩)) := by
  have hshort : ∀ item ∈ files.map fun (name, content) => (path.child name, content),
      isLong item.1 = false :=
    List.forall_mem_map.mpr fun file hfile => (htidy.names file hfile).2.2
  rw [secretDirectory_eq hplace htidy.wellNamed, htidy.listing_eq, untilLong_of_short hshort,
    longFault?_of_short hshort, List.map_map]
  rfl

/-! ## All files, once and in order -/

theorem lead_le (path : Path) : lead path ≤ 2 := by
  rw [lead]
  split <;> decide

/-- If no path is too long, the listing comes to every file. -/
theorem reaches_iff_of_short (hnamed : (FileTree.directory entries).WellNamed)
    (hshort : ∀ names content, (FileTree.directory entries).Holds names content →
      isLong (path.below names) = false) {names : List String} {content : Octets} :
    Reaches (lead path) path (.directory entries) names content
      ↔ (FileTree.directory entries).Holds names content := by
  refine ⟨And.left, fun hholds => ⟨hholds, ?_⟩⟩
  have hsize := of_decide_eq_false (hshort names content hholds)
  exact opens_of_size (fun name hname => (hholds.isName hnamed name hname).nonempty) (lead_le path)
    (Nat.not_lt.mp hsize)

/-- What holds of all items of a listing holds of all files that the listing comes to. -/
theorem forall_mem_listing_iff {motive : Path → Prop} :
    (∀ item ∈ listing (lead path) path (.directory entries), motive item.1) ↔
      ∀ names content, Reaches (lead path) path (.directory entries) names content →
        motive (path.below names) := by
  constructor
  · exact fun hall names content hreaches =>
      hall (path.below names, content) (mem_listing_iff.mpr ⟨names, hreaches, rfl⟩)
  · rintro hall ⟨found, content⟩ hitem
    obtain ⟨names, hreaches, rfl⟩ := mem_listing_iff.mp hitem
    exact hall names content hreaches

/-- The files that are read are those that come before all whose path is too long. -/
theorem mem_read_iff (hnamed : (FileTree.directory entries).WellNamed) {file : SecretFile} :
    file ∈ untilLong (listing (lead path) path (.directory entries)) ↔
      (∃ names, Reaches (lead path) path (.directory entries) names file.content ∧
        file.path = path.below names) ∧
      ∀ names content, Reaches (lead path) path (.directory entries) names content →
        isLong (path.below names) = true → PrecedesBelow path file.path (path.below names) := by
  rw [mem_untilLong_iff, Listing.mem_takeWhile_iff_of_pairwise PrecedesBelow.asymm
    (pairwise_listing hnamed (lead path) path), mem_listing_iff]
  simp only [Bool.not_eq_false']
  exact and_congr_right fun _ => forall_mem_listing_iff
    (motive := fun other => isLong other = true → PrecedesBelow path file.path other)

/-- A path is too long in a listing if that of a file is which the listing comes to. -/
theorem exists_isLong_iff :
    (∃ item ∈ listing (lead path) path (.directory entries), isLong item.1 = true) ↔
      ∃ names content, Reaches (lead path) path (.directory entries) names content ∧
        isLong (path.below names) = true := by
  constructor
  · rintro ⟨⟨found, content⟩, hitem, hlong⟩
    obtain ⟨names, hreaches, rfl⟩ := mem_listing_iff.mp hitem
    exact ⟨names, content, hreaches, hlong⟩
  · rintro ⟨names, content, hreaches, hlong⟩
    exact ⟨_, mem_listing_iff.mpr ⟨names, hreaches, rfl⟩, hlong⟩

/-- A secret key directory is read to the files that the listing of it comes to, those in
directories below it included, each once. They come in the order of their names, with the files of a
directory before what is in its directories, up to the first file whose path is too long; so all
files of the directory are there, if no path is too long. They are the same, in the same order,
where the entries of the directories have changed places. -/
theorem secretDirectory_complete (hplace : tree.lookup path = .ok (some (.directory entries)))
    (hnamed : (FileTree.directory entries).WellNamed) :
    ∃ files, secretDirectory tree path = .ok files ∧
      (∀ file, file ∈ files.items ↔
        (∃ names, Reaches (lead path) path (.directory entries) names file.content ∧
          file.path = path.below names) ∧
        ∀ names content, Reaches (lead path) path (.directory entries) names content →
          isLong (path.below names) = true → PrecedesBelow path file.path (path.below names)) ∧
      (files.items.map SecretFile.path).Nodup ∧
      (files.items.Pairwise fun a b => PrecedesBelow path a.path b.path) ∧
      (∀ fault, files.failure = some fault ↔ fault = .pathTooLong ∧
        ∃ names content, Reaches (lead path) path (.directory entries) names content ∧
          isLong (path.below names) = true) ∧
      ((∀ names content, (FileTree.directory entries).Holds names content →
          isLong (path.below names) = false) →
        files.failure = none ∧
          ∀ file, file ∈ files.items ↔ ∃ names,
            (FileTree.directory entries).Holds names file.content ∧
              file.path = path.below names) ∧
      ∀ other others, other.lookup path = .ok (some (.directory others)) →
        (FileTree.directory entries).Rearranged (.directory others) →
        secretDirectory other path = .ok files := by
  have hordered : (untilLong (listing (lead path) path (.directory entries))).Pairwise
      fun a b => PrecedesBelow path a.path b.path :=
    List.pairwise_map.mpr ((pairwise_listing hnamed (lead path) path).sublist
      (List.takeWhile_sublist _))
  refine ⟨_, secretDirectory_eq hplace hnamed, fun file => mem_read_iff hnamed, ?_, hordered, ?_,
    ?_, ?_⟩
  · exact List.pairwise_map.mpr (hordered.imp PrecedesBelow.ne)
  · intro fault
    rw [longFault?_eq_some_iff, exists_isLong_iff]
  · intro hshort
    have hlisted : ∀ item ∈ listing (lead path) path (.directory entries), isLong item.1 = false :=
      (forall_mem_listing_iff (motive := fun other => isLong other = false)).mpr
        fun names content hreaches => hshort names content hreaches.1
    refine ⟨longFault?_of_short hlisted, fun file => (mem_read_iff hnamed).trans ?_⟩
    simp only [reaches_iff_of_short hnamed hshort]
    refine and_iff_left fun names content hholds hlong => ?_
    rw [hshort names content hholds] at hlong
    cases hlong
  · intro other others hplace' hsame
    rw [← secretDirectory_eq hplace hnamed]
    exact (secretDirectory_eq_of_rearranged hplace hplace' hsame).symm

/-! ## Directories in directories -/

/-- Two files, and a directory with a file and another directory in it, out of order. -/
def nestedEntries : List (String × FileTree) :=
  [("b", .directory [("d", .directory [("f", .file [1])]), ("c", .file [2])]), ("e", .file [3]),
    ("a", .file [4])]

/-- The secret key directory that has them. -/
def nestedTree : FileTree := .directory [("keys", .directory nestedEntries)]

/-- Where it is. -/
def nestedPath : Path := ⟨.relative, ["keys"]⟩

theorem wellNamed_nestedEntries : (FileTree.directory nestedEntries).WellNamed := by
  have hdeepest : (FileTree.directory [("f", .file [1])]).WellNamed := by
    refine .directory (by decide) (by decide) ?_
    exact List.forall_mem_singleton.mpr (.file [1])
  have hinner : (FileTree.directory
      [("d", .directory [("f", .file [1])]), ("c", .file [2])]).WellNamed := by
    refine .directory (by decide) (by decide) ?_
    simp only [List.forall_mem_cons]
    exact ⟨hdeepest, .file [2], nofun⟩
  refine .directory (by decide) (by decide) ?_
  simp only [nestedEntries, List.forall_mem_cons]
  exact ⟨hinner, .file [3], .file [4], nofun⟩

/-- No path in it is too long. -/
theorem isLong_nestedPath {names : List String} {content : Octets}
    (hholds : (FileTree.directory nestedEntries).Holds names content) :
    isLong (nestedPath.below names) = false := by
  obtain rfl | rfl | rfl | rfl :
      names = ["e"] ∨ names = ["a"] ∨ names = ["b", "c"] ∨ names = ["b", "d", "f"] := by
    cases hholds with
    | @file _ name _ hmem _ =>
      have hname : name = "e" ∧ content = [3] ∨ name = "a" ∧ content = [4] := by
        simpa [nestedEntries] using hmem
      rcases hname with ⟨rfl, -⟩ | ⟨rfl, -⟩ <;> simp
    | @within _ inner name _ _ hmem _ hinner =>
      obtain ⟨rfl, rfl⟩ : name = "b" ∧
          inner = [("d", .directory [("f", .file [1])]), ("c", .file [2])] := by
        simpa [nestedEntries] using hmem
      cases hinner with
      | @file _ name _ hmem _ =>
        obtain ⟨rfl, -⟩ : name = "c" ∧ content = [2] := by simpa using hmem
        simp
      | @within _ inner name _ _ hmem _ hdeepest =>
        obtain ⟨rfl, rfl⟩ : name = "d" ∧ inner = [("f", .file [1])] := by simpa using hmem
        cases hdeepest with
        | @file _ name _ hmem _ =>
          obtain ⟨rfl, -⟩ : name = "f" ∧ content = [1] := by simpa using hmem
          simp
        | within hmem _ _ => simp at hmem
  all_goals decide

theorem secretDirectory_complete_nested :
    nestedTree.lookup nestedPath = .ok (some (.directory nestedEntries)) ∧
    (FileTree.directory nestedEntries).WellNamed ∧
    (∀ names content, (FileTree.directory nestedEntries).Holds names content →
      isLong (nestedPath.below names) = false) ∧
    ∃ files, secretDirectory nestedTree nestedPath = .ok files ∧
      files.failure = none ∧
      (∀ file, file ∈ files.items ↔
        ∃ names, (FileTree.directory nestedEntries).Holds names file.content ∧
          file.path = nestedPath.below names) ∧
      (files.items.map SecretFile.path).Nodup ∧
      (files.items.Pairwise fun a b => PrecedesBelow nestedPath a.path b.path) ∧
      ∀ other others, other.lookup nestedPath = .ok (some (.directory others)) →
        (FileTree.directory nestedEntries).Rearranged (.directory others) →
        secretDirectory other nestedPath = .ok files := by
  have hplace : nestedTree.lookup nestedPath = .ok (some (.directory nestedEntries)) := rfl
  refine ⟨hplace, wellNamed_nestedEntries, fun _ _ => isLong_nestedPath, ?_⟩
  obtain ⟨files, hfiles, -, hnodup, hordered, -, hall, hrearranged⟩ :=
    secretDirectory_complete hplace wellNamed_nestedEntries
  obtain ⟨hnone, hmem⟩ := hall fun _ _ => isLong_nestedPath
  exact ⟨files, hfiles, hnone, hmem, hnodup, hordered, hrearranged⟩

/-! ## A path that winds -/

/-- Names that lead into a directory and out of it again, so many times. -/
def windings (times : Nat) : List String := (List.replicate times ["x", ".."]).flatten

/-- A path that winds before it comes to a directory. -/
def windingPath (times : Nat) : Path := ⟨.relative, windings times ++ ["keys"]⟩

/-- What it leads to. -/
def windingEntries : List (String × FileTree) := [("abcdefgh", .file [0])]

/-- The directory that it leads through, and a secret key directory. -/
def windingTree : FileTree :=
  .directory [("x", .directory []), ("keys", .directory windingEntries)]

theorem walk_windings (times : Nat) (rest : List String) :
    walk false [] windingTree (windings times ++ rest) = walk false [] windingTree rest := by
  unfold windings
  induction times with
  | zero => rfl
  | succ times ih =>
    rw [List.replicate_succ, List.flatten_cons, List.append_assoc, ← ih]
    rfl

theorem sizeOfNames_windings (times : Nat) : Path.sizeOfNames (windings times) = 5 * times := by
  unfold windings
  induction times with
  | zero => rfl
  | succ times ih =>
    have hround : Path.sizeOfNames ["x", ".."] = 5 := by decide
    rw [List.replicate_succ, List.flatten_cons, Path.sizeOfNames_append, ih, hround]
    omega

theorem size_windingPath (times : Nat) (names : List String) :
    ((windingPath times).below names).text.utf8ByteSize
      = 5 * times + 4 + Path.sizeOfNames names := by
  have hsize := Path.size_text ((windingPath times).below names) (by simp [Path.below, windingPath])
  have hroot : Path.Root.relative.text.utf8ByteSize = 0 := rfl
  have hkeys : Path.sizeOfNames ["keys"] = 5 := by decide
  simp only [Path.below, windingPath, Path.sizeOfNames_append, sizeOfNames_windings, hroot, hkeys]
    at hsize ⊢
  omega

theorem lookup_windingPath (times : Nat) (htimes : 5 * times + 4 ≤ maxPathLength) :
    windingTree.lookup (windingPath times) = .ok (some (.directory windingEntries)) := by
  have hfollow : windingTree.follow (windingPath times) = .ok (.directory windingEntries) :=
    walk_windings times ["keys"]
  have hshort : ¬ maxPathLength < (windingPath times).text.utf8ByteSize := by
    have hsize := size_windingPath times []
    rw [Path.below_nil, Path.sizeOfNames] at hsize
    omega
  have hpossible : (windingPath times).isImpossible = false := by
    simp [Path.isImpossible, windingPath, windings]
  rw [lookup, find, if_neg (by simp [hpossible]), if_neg hshort, hfollow]

theorem isLong_windingPath : isLong ((windingPath 817).child "abcdefgh") = true := by
  have hname : Path.sizeOfNames ["abcdefgh"] = 9 := by decide
  rw [Path.child_eq_below, isLong, size_windingPath 817 ["abcdefgh"], hname]
  rfl

/-- A file is in the directory, and the path of the directory is not too long, but that of the file
is. -/
theorem secretDirectory_misses_file :
    windingTree.lookup (windingPath 817) = .ok (some (.directory windingEntries)) ∧
    (FileTree.directory windingEntries).WellNamed ∧
    (FileTree.directory windingEntries).Holds ["abcdefgh"] [0] ∧
    secretDirectory windingTree (windingPath 817) = .ok ⟨[], some .pathTooLong⟩ := by
  have hplace := lookup_windingPath 817 (by decide)
  have hnamed : (FileTree.directory windingEntries).WellNamed :=
    .directory (by decide) (by decide) (List.forall_mem_singleton.mpr (.file [0]))
  have hlisting : listing (lead (windingPath 817)) (windingPath 817) (.directory windingEntries)
      = [((windingPath 817).child "abcdefgh", [0])] :=
    @listing_of_files _ _ [("abcdefgh", [0])] (by decide) (by decide)
  refine ⟨hplace, hnamed, .file (by simp [windingEntries]) (by decide), ?_⟩
  rw [secretDirectory_eq hplace hnamed, hlisting]
  simp [untilLong, longFault?, isLong_windingPath]

end CommitSeal.KeyStore
