/-!
# Options among arguments

Options have long names, behind two dashes, and names of one letter behind one. A value follows its
option as an argument of its own, or directly: behind an equals sign after a long name, without
anything after a letter. Letters without values may share a dash. Two dashes alone end the options.

`Options.parse` reads the arguments of a command; where a command is named among them, options end
in front of it.
-/

namespace CommitSeal.CommandLine

/-- An option. -/
structure OptionForm (κ : Type) where
  /-- What the option is for. -/
  key : κ
  /-- The long name. -/
  long : String
  /-- The letter. -/
  letter : Option Char := none
  /-- Whether a value follows. -/
  takesValue : Bool := true

/-- Arguments read: the options with their values, in order, and the other arguments. -/
structure Options (κ : Type) where
  given : List (κ × String)
  others : List String

namespace Options

variable {κ : Type}

/-- One more option in front. -/
def cons (key : κ) (value : String) (options : Options κ) : Options κ :=
  { options with given := (key, value) :: options.given }

/-- One more other argument in front. -/
def consOther (argument : String) (options : Options κ) : Options κ :=
  { options with others := argument :: options.others }

/-- The options in one argument, and the option that waits for the next argument as its value. -/
abbrev Cluster (κ : Type) := List (κ × String) × Option κ

/-- Whether an argument is one or more options. A dash alone is none. -/
def isOption : List Char → Bool
  | '-' :: _ :: _ => true
  | _ => false

/-- The options that letters behind one dash stand for. -/
def letters (forms : List (OptionForm κ)) : List Char → Option (Cluster κ)
  | [] => some ([], none)
  | letter :: rest =>
    match forms.find? fun form => form.letter == some letter with
    | none => none
    | some form =>
      if form.takesValue then
        if rest.isEmpty then some ([], some form.key)
        else some ([(form.key, String.ofList rest)], none)
      else (letters forms rest).map fun (given, waiting) => ((form.key, "") :: given, waiting)

/-- The options that an argument stands for. -/
def ofArgument (forms : List (OptionForm κ)) (argument : List Char) : Option (Cluster κ) :=
  let name := String.ofList (argument.takeWhile (· != '='))
  let attached :=
    match argument.dropWhile (· != '=') with
    | [] => none
    | _ :: value => some (String.ofList value)
  match forms.find? (fun form => form.long == name), attached with
  | some form, none =>
    some (if form.takesValue then ([], some form.key) else ([(form.key, "")], none))
  | some form, some value => if form.takesValue then some ([(form.key, value)], none) else none
  | none, _ =>
    match argument with
    | '-' :: '-' :: _ => none
    | _ => letters forms (argument.drop 1)

/-- Reads arguments. With `stops`, the first argument that is no option ends the options. There is
no answer if an option is unknown, lacks its value, or has one that it does not take. -/
def parse (forms : List (OptionForm κ)) (stops : Bool) : List String → Option (Options κ)
  | [] => some ⟨[], []⟩
  | argument :: rest =>
    if argument = "--" then some ⟨[], rest⟩
    else if !isOption argument.toList then
      if stops then some ⟨[], argument :: rest⟩
      else (parse forms stops rest).map (consOther argument)
    else
      match ofArgument forms argument.toList with
      | none => none
      | some (given, waiting) =>
        let all := fun (options : Options κ) => { options with given := given ++ options.given }
        match waiting, rest with
        | none, rest => (parse forms stops rest).map all
        | some _, [] => none
        | some key, value :: rest =>
          (parse forms stops rest).map fun options => all (cons key value options)

/-- The value of the last option of a kind. -/
def value? [BEq κ] (key : κ) (options : Options κ) : Option String :=
  options.given.reverse.lookup key

/-- The options given, each where it is given first. -/
def keys [BEq κ] (options : Options κ) : List κ := (options.given.map Prod.fst).eraseDups

/-- Whether an option is given. -/
def has [BEq κ] (key : κ) (options : Options κ) : Bool :=
  options.given.any fun given => given.1 == key

end Options

end CommitSeal.CommandLine
