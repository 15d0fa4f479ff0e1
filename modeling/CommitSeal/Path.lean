/-!
# Paths

A path is a root and the names below it. Reading a path drops empty names and those that are a
single dot; a double dot is kept, since only the file system can tell where it leads. Exactly two
slashes in front are a root of their own. `Path.expandHome` replaces a tilde in front.
-/

namespace CommitSeal

/-- Where a path starts. -/
inductive Path.Root where
  /-- At the working directory. -/
  | relative
  /-- At the top. -/
  | absolute
  /-- At the place that two slashes name. -/
  | doubled
  deriving DecidableEq, Repr

/-- A path: its root, and the names below it. -/
structure Path where
  root : Path.Root
  names : List String
  deriving DecidableEq, Repr

namespace Path

/-! ## Written form -/

/-- The slashes of a root. -/
def Root.text : Root → String
  | relative => ""
  | absolute => "/"
  | doubled => "//"

/-- The root that slashes in front select. -/
def Root.ofChars : List Char → Root
  | '/' :: '/' :: '/' :: _ => absolute
  | '/' :: '/' :: _ => doubled
  | '/' :: _ => absolute
  | _ => relative

/-- The pieces of a text between slashes. -/
def pieces (current : List Char) : List Char → List (List Char)
  | [] => [current.reverse]
  | c :: rest => if c = '/' then current.reverse :: pieces [] rest else pieces (c :: current) rest

/-- Whether a piece names something. -/
def isName (piece : List Char) : Bool := piece != [] && piece != ['.']

/-- Reads a path. -/
def parse (text : String) : Path :=
  { root := Root.ofChars text.toList,
    names := ((pieces [] text.toList).filter isName).map String.ofList }

/-- The written form of a path; the working directory is a dot. -/
def text (path : Path) : String :=
  match path.root, path.names with
  | .relative, [] => "."
  | root, names => root.text ++ String.intercalate "/" names

/-- Whether a path has the one character besides the slash that no name can have. -/
def isImpossible (path : Path) : Bool := path.names.any fun name => name.toList.contains '\x00'

/-! ## Joining -/

/-- The working directory. -/
def here : Path := ⟨.relative, []⟩

/-- A path below another. A path with a root of its own stands alone. -/
def join (base path : Path) : Path :=
  match path.root with
  | .relative => ⟨base.root, base.names ++ path.names⟩
  | _ => path

/-- The path of an entry of a directory. -/
def child (base : Path) (name : String) : Path := ⟨base.root, base.names ++ [name]⟩

/-- The paths on the way to a path, which is the last of them. -/
def way (path : Path) : List Path :=
  (List.range (path.names.length + 1)).map fun count => { path with names := path.names.take count }

/-! ## Home directories -/

/-- Why a tilde stands for no directory. -/
inductive HomeError where
  /-- There is no such account, or its home directory is itself given with a tilde. -/
  | unknown
  /-- The name of the account has a character that no name can have. -/
  | impossible
  deriving DecidableEq, Repr

/-- The home directories that a tilde can stand for. -/
structure Homes where
  /-- The one that a tilde alone stands for. -/
  own : Option String
  /-- Those of accounts, by name. -/
  accounts : List (String × String)

/-- The home directory that a name behind a tilde selects. -/
def Homes.select (homes : Homes) (name : List Char) : Option String :=
  if name = [] then homes.own else homes.accounts.lookup (String.ofList name)

/-- A text without slashes at its end. -/
def dropSlashes (text : List Char) : List Char :=
  (text.reverse.dropWhile fun c => c == '/').reverse

/-- The text of a home directory; without anything but slashes it is that at the top. -/
def homeDirectory (home : String) : String :=
  match dropSlashes home.toList with
  | [] => "/"
  | text => String.ofList text

/-- The directory that a tilde with a name behind it stands for. -/
def tildeDirectory (homes : Homes) (name : List Char) : Except HomeError String :=
  if name.contains '\x00' then .error .impossible
  else
    match (homes.select name).map homeDirectory with
    | none => .error .unknown
    | some directory =>
      if directory.toList.head? = some '~' then .error .unknown else .ok directory

/-- A path with a tilde in front, and the name of an account behind it, replaced by a home
directory. -/
def expandHome (homes : Homes) (path : Path) : Except HomeError Path :=
  match path.root, path.names with
  | .relative, first :: rest =>
    match first.toList with
    | '~' :: name =>
      (tildeDirectory homes name).map fun directory =>
        let base := parse directory
        ⟨base.root, base.names ++ rest⟩
    | _ => .ok path
  | _, _ => .ok path

end Path

end CommitSeal
