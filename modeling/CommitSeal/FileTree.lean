import CommitSeal.Octets.Basic
import CommitSeal.Path

/-!
# File trees

The files that can be reached are a tree of directories below the working directory. Rooted paths
lead through an entry of their own, whose name no other entry can have, and so do paths that leave
the working directory upwards. A path is walked name by name; a double dot leads back to where the
walk came from. `FileTree.listing` gives the regular files of every directory that can be opened, in
an order that does not depend on the order of the entries.
-/

namespace CommitSeal

/-- A file, or a directory with its entries. -/
inductive FileTree where
  | file (content : Octets)
  | directory (entries : List (String × FileTree))
  deriving Inhabited

/-- Why a file cannot be read. -/
inductive FileTree.Error where
  /-- There is nothing at the path. -/
  | missing
  /-- A name on the way is that of a file. -/
  | notADirectory
  /-- There is a directory at the path. -/
  | isADirectory
  /-- The path, or a name in it, is longer than any can be. -/
  | tooLong
  /-- The path has a character that no path can have. -/
  | impossible
  deriving DecidableEq, Repr

namespace FileTree

/-- The wording of a reason. -/
def Error.message : Error → String
  | missing => "No such file or directory"
  | notADirectory => "Not a directory"
  | isADirectory => "Is a directory"
  | tooLong => "File name too long"
  | impossible => "embedded null byte"

/-- A directory without entries. -/
def empty : FileTree := .directory []

/-! ## Walking -/

/-- How many octets a name can have. -/
def maxNameLength : Nat := 255

/-- How many octets a path can have. -/
def maxPathLength : Nat := 4095

/-- Walks from a place; the places that the walk came through are above it. With none above, a
double dot is an entry like any other, behind which the walk starts anew; at the top of all it
stays. -/
def walk (isRooted : Bool) (above : List FileTree) (place : FileTree) :
    List String → Except Error FileTree
  | [] => .ok place
  | name :: rest =>
    match place with
    | .file _ => .error .notADirectory
    | .directory entries =>
      if name = ".." then
        match above, entries.lookup name with
        | before :: above, _ => walk isRooted above before rest
        | [], some next => walk isRooted [] next rest
        | [], none => if isRooted then walk isRooted [] place rest else .error .missing
      else if maxNameLength < name.utf8ByteSize then .error .tooLong
      else
        match entries.lookup name with
        | none => .error .missing
        | some next => walk isRooted (place :: above) next rest

/-- The name of the entry that rooted paths lead through. -/
def rootName : String := "/"

/-- The names that lead to a path. -/
def namesOf (path : Path) : List String :=
  match path.root with
  | .relative => path.names
  | _ => rootName :: path.names

/-- What is at a path that a walk can follow. -/
def follow (tree : FileTree) (path : Path) : Except Error FileTree :=
  match path.root with
  | .relative => walk false [] tree path.names
  | _ =>
    match walk false [] tree [rootName] with
    | .ok top => walk true [] top path.names
    | .error e => .error e

/-- What is at a path. -/
def find (tree : FileTree) (path : Path) : Except Error FileTree :=
  if path.isImpossible then .error .impossible
  else if maxPathLength < path.text.utf8ByteSize then .error .tooLong
  else tree.follow path

/-- The content of the file at a path. -/
def read (tree : FileTree) (path : Path) : Except Error Octets :=
  match tree.find path with
  | .ok (.file content) => .ok content
  | .ok (.directory _) => .error .isADirectory
  | .error e => .error e

/-- What is at a path, if there is anything. A path that is too long cannot be looked up at all. -/
def lookup (tree : FileTree) (path : Path) : Except Error (Option FileTree) :=
  match tree.find path with
  | .ok place => .ok (some place)
  | .error .tooLong => .error .tooLong
  | .error _ => .ok none

/-- Whether a file is at a path. -/
def isFile (tree : FileTree) (path : Path) : Except Error Bool :=
  (tree.lookup path).map fun
    | some (.file _) => true
    | _ => false

/-! ## Changing -/

/-- A tree with only the given place, behind names. -/
def branch (place : FileTree) : List String → FileTree
  | [] => place
  | name :: rest => .directory [(name, branch place rest)]

/-- Replaces the entry of a name, or adds one. -/
def setEntry (name : String) (place : FileTree) :
    List (String × FileTree) → List (String × FileTree)
  | [] => [(name, place)]
  | (known, old) :: rest =>
    if known = name then (name, place) :: rest else (known, old) :: setEntry name place rest

/-- Puts a place behind names; directories on the way are made. A directory that is there already
keeps its entries. -/
def put (place : FileTree) : List String → FileTree → FileTree
  | [], old =>
    match place, old with
    | .directory [], .directory entries => .directory entries
    | _, _ => place
  | name :: rest, .file _ => branch place (name :: rest)
  | name :: rest, .directory entries =>
    match entries.lookup name with
    | none => .directory (setEntry name (branch place rest) entries)
    | some next => .directory (setEntry name (put place rest next) entries)

/-- Names without double dots where a name is before them, which each takes along. At the top of all
they lead nowhere. -/
def collapse (before : List String) : List String → List String
  | [] => before.reverse
  | name :: rest =>
    if name = ".." then
      match before with
      | last :: others =>
        if last = rootName then collapse before rest
        else if last = ".." then collapse (name :: before) rest
        else collapse others rest
      | [] => collapse [name] rest
    else collapse (name :: before) rest

/-- Puts a place at a path; directories on the way are made. -/
def putAt (place : FileTree) (path : Path) (tree : FileTree) : FileTree :=
  put place (collapse [] (namesOf path)) tree

/-- Writes a file. Its directory must be there. -/
def write (content : Octets) (path : Path) (tree : FileTree) : Except Error FileTree :=
  if path.names.getLast?.getD ".." = ".." then .error .isADirectory
  else
    match tree.find path with
    | .ok (.directory _) => .error .isADirectory
    | .ok (.file _) => .ok (putAt (.file content) path tree)
    | .error .tooLong => .error .tooLong
    | .error .impossible => .error .impossible
    | .error _ =>
      match tree.find { path with names := path.names.dropLast } with
      | .error e => .error e
      | .ok (.file _) => .error .notADirectory
      | .ok (.directory _) => .ok (putAt (.file content) path tree)

/-! ## Listing

Directories may be nested to any depth. A limit on how deep a call can go is left out; the limit
on how long a path can be is not. -/

/-- Entries in the order of their names. -/
def byName {α : Type} (entries : List (String × α)) : List (String × α) :=
  entries.mergeSort fun a b => decide (a.1 ≤ b.1)

/-- Whether an entry leads out of the tree. -/
def leadsOut (name : String) : Bool := name == rootName || name == ".."

/-- How many octets the directories in a directory are listed with besides their paths: what is in
the working directory is reached through a dot and a slash. -/
def lead (path : Path) : Nat := if path = .here then 2 else 0

/-- Whether a directory that is come to while one is listed can be opened. One that cannot is passed
over with all that is in it. -/
def canOpen (lead : Nat) (path : Path) : Bool :=
  decide (lead + path.text.utf8ByteSize ≤ maxPathLength)

/-- The files among entries. -/
def filesOf : List (String × FileTree) → List (String × Octets)
  | [] => []
  | (name, .file content) :: rest =>
    if leadsOut name then filesOf rest else (name, content) :: filesOf rest
  | (_, .directory _) :: rest => filesOf rest

mutual

/-- The files of a tree that is at a path: first those of the top directory by name, then those of
its directories by name. -/
def listing (lead : Nat) (path : Path) : FileTree → List (Path × Octets)
  | .file content => [(path, content)]
  | .directory entries =>
    (byName (filesOf entries)).map (fun (name, content) => (path.child name, content))
      ++ (byName (listings lead path entries)).flatMap Prod.snd

/-- The listing of each directory among entries. -/
def listings (lead : Nat) (path : Path) :
    List (String × FileTree) → List (String × List (Path × Octets))
  | [] => []
  | (_, .file _) :: rest => listings lead path rest
  | (name, .directory entries) :: rest =>
    if leadsOut name || !canOpen lead (path.child name) then listings lead path rest
    else (name, listing lead (path.child name) (.directory entries)) :: listings lead path rest

end

end FileTree

end CommitSeal
