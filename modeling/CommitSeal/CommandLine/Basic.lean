import CommitSeal.CommandLine.Options
import CommitSeal.Octets.Numeral
import CommitSeal.Signer
import CommitSeal.Text.Digit
import CommitSeal.Text.Integer
import CommitSeal.Text.Plain
import CommitSeal.Text.Utf8

/-!
# The command line

Three commands sign a payload, check a signature, and show which public key an identifier refers to.
`CommandLine.run` is a whole run: from what there is to begin with and the arguments to the output,
the exit code, and the files afterwards. `CommandLine.reads` says which files a run may look at.

A fault that the user is to be told of ends a run with code 2 and a line of text; a negative answer
ends it with code 1. Any other fault is a crash.
-/

namespace CommitSeal.CommandLine

/-! ## Arguments -/

/-- The options in front of the command. -/
inductive GlobalOption where
  | version
  | home
  | verbose
  | help
  deriving DecidableEq, Repr

/-- The forms of the options in front of the command. -/
def globalForms : List (OptionForm GlobalOption) :=
  [{ key := .version, long := "--version", letter := some 'V', takesValue := false },
    { key := .home, long := "--gnupg-home" },
    { key := .verbose, long := "--verbose", letter := some 'v', takesValue := false },
    { key := .help, long := "--help", takesValue := false }]

/-- The options of commands. -/
inductive CommandOption where
  | keyId
  | input
  | output
  | secretKeyPath
  | attempts
  | signature
  | help
  deriving DecidableEq, Repr

/-- The option that asks for help. -/
def helpForm : OptionForm CommandOption := { key := .help, long := "--help", takesValue := false }

/-- The option that names a key. -/
def keyIdForm : OptionForm CommandOption :=
  { key := .keyId, long := "--key-id", letter := some 'k' }

/-- The option that names the file with the payload. -/
def inputForm : OptionForm CommandOption := { key := .input, long := "--input", letter := some 'i' }

/-- The forms of the options for signing. -/
def signForms : List (OptionForm CommandOption) :=
  [keyIdForm, inputForm, { key := .output, long := "--output", letter := some 'o' },
    { key := .secretKeyPath, long := "--secret-key-path" },
    { key := .attempts, long := "--attempts" }, helpForm]

/-- The forms of the options for checking. -/
def verifyForms : List (OptionForm CommandOption) :=
  [keyIdForm, { key := .signature, long := "--signature", letter := some 's' }, inputForm, helpForm]

/-- The commands with their arguments. -/
inductive Command where
  | sign (keyId : Option String) (input output secretKeyPath : Option Path) (attempts : Option Nat)
  | verify (keyId : String) (signature : Path) (input : Option Path)
  | locate (keyId : String)
  deriving DecidableEq, Repr

/-- What arguments ask for, or why they ask for nothing. -/
inductive Asked (α : Type) where
  | something (request : α)
  | help
  | misuse
  /-- A path among them is none that there can be. -/
  | impossible

/-- A number of attempts, which is at least one. Digits and white space of any script will do. -/
def attempts? (text : String) : Option Nat :=
  let digits := Text.asciiDigits (Text.Integer.trimPadding text.toList)
  match Numeral.int? 10 (Octets.ofText (String.ofList digits)) with
  | some (.ofNat value) => if 0 < value then some value else none
  | _ => none

/-! ## Values of options -/

/-- Why the value of an option is not taken. -/
inductive Refusal where
  | misuse
  | impossible

/-- A path, which must be one that there can be. -/
def checkPath (text : String) : Option Refusal :=
  if (Path.parse text).isImpossible then some .impossible else none

/-- A number of attempts. -/
def checkAttempts (text : String) : Option Refusal :=
  if (attempts? text).isSome then none else some .misuse

/-- Why the value of an option is not taken. -/
def CommandOption.check (key : CommandOption) (text : String) : Option Refusal :=
  match key with
  | .input => checkPath text
  | .output => checkPath text
  | .secretKeyPath => checkPath text
  | .signature => checkPath text
  | .attempts => checkAttempts text
  | .keyId => none
  | .help => none

/-- Goes on if the values of all options are taken; else the first that is not decides. -/
def checking {κ α : Type} [BEq κ] (check : κ → String → Option Refusal) (options : Options κ)
    (asked : Asked α) : Asked α :=
  match options.keys.findSome? fun key => check key ((options.value? key).getD "") with
  | some .misuse => .misuse
  | some .impossible => .impossible
  | none => asked

/-- The path that an option gives. -/
def pathOption (key : CommandOption) (options : Options CommandOption) : Option Path :=
  (options.value? key).map Path.parse

/-! ## Commands -/

/-- What the options for signing ask for. -/
def signCommand (options : Options CommandOption) : Asked Command :=
  match options.others with
  | [] =>
    .something (.sign (options.value? .keyId) (pathOption .input options)
      (pathOption .output options) (pathOption .secretKeyPath options)
      ((options.value? .attempts).bind attempts?))
  | _ => .misuse

/-- What the options for checking ask for. -/
def verifyCommand (options : Options CommandOption) : Asked Command :=
  match options.others, options.value? .keyId, pathOption .signature options with
  | [], some keyId, some signature =>
    .something (.verify keyId signature (pathOption .input options))
  | _, _, _ => .misuse

/-- What the arguments for locating ask for. -/
def locateCommand (options : Options CommandOption) : Asked Command :=
  match options.others with
  | [keyId] => .something (.locate keyId)
  | _ => .misuse

/-- Reads the arguments of a command. -/
def commandWith (forms : List (OptionForm CommandOption))
    (command : Options CommandOption → Asked Command) (arguments : List String) : Asked Command :=
  match Options.parse forms false arguments with
  | none => .misuse
  | some options =>
    if options.has .help then .help
    else checking CommandOption.check options (command options)

/-- How the arguments of a named command are read. -/
def commandReader? (name : String) : Option (List String → Asked Command) :=
  match name with
  | "sign" => some (commandWith signForms signCommand)
  | "verify" => some (commandWith verifyForms verifyCommand)
  | "locate" => some (commandWith [helpForm] locateCommand)
  | _ => none

/-- What the arguments in front of a command's own ask for. -/
inductive Request where
  | version
  | command (home : Option Path) (verbose : Bool) (read : List String → Asked Command)
      (arguments : List String)

/-- Why the value of an option in front of the command is not taken. -/
def GlobalOption.check (key : GlobalOption) (text : String) : Option Refusal :=
  match key with
  | .home => checkPath text
  | _ => none

/-- What options in front of the command ask for; without version and help, what is given. Of these
two the first counts, and either makes a command needless. -/
def globalRequest (options : Options GlobalOption) (otherwise : Asked Request) : Asked Request :=
  match options.keys.find? fun key => key == .version || key == .help with
  | some .version => .something .version
  | some _ => .help
  | none => checking GlobalOption.check options otherwise

/-- Arguments that start with no command. They may be options all the same. -/
def requestWithout (arguments : List String) : Asked Request :=
  match Options.parse globalForms true arguments with
  | none => .misuse
  | some options => globalRequest options .misuse

/-- Reads the arguments up to the name of the command. -/
def request (arguments : List String) : Asked Request :=
  match Options.parse globalForms true arguments with
  | none => .misuse
  | some options =>
    globalRequest options (match options.others with
      | [] => .misuse
      | name :: arguments =>
        match commandReader? name with
        | none => requestWithout (name :: arguments)
        | some read =>
          .something (.command ((options.value? .home).map Path.parse) (options.has .verbose) read
            arguments))

/-! ## Runs -/

/-- What a run starts with. -/
structure Session where
  tree : FileTree
  environment : Environment
  /-- The time in seconds. -/
  now : Nat
  /-- What can be read from standard input. -/
  input : Octets

/-- What a run broke off with. -/
inductive Crash where
  | fault (fault : Fault)
  /-- A file that cannot be written. -/
  | unwritable (reason : FileTree.Error)

/-- How a run ends. -/
inductive Ending where
  | exited (code : Nat)
  /-- The arguments make no sense. -/
  | misused
  /-- Help was asked for. -/
  | helped
  | crashed (cause : Crash)

/-- What a run leads to. -/
structure Report where
  ending : Ending
  output : String := ""
  errors : String := ""
  /-- The file that was written. -/
  written : Option (Path × Octets) := none

/-- The end of a run with a line of errors. -/
def failWith (shown : String) (code : Nat) (line : String) : Report :=
  { ending := .exited code, errors := shown ++ line ++ "\n" }

/-- The line for a fault. -/
def faultLine (fault : Fault) : String :=
  match fault with
  | .failed failure =>
    (if failure.isResolution then "Key not found: " else "Signing failed: ") ++ failure.text
  | fault => "Error: " ++ fault.text

/-- The end of a run with a fault. -/
def failed (shown : String) (fault : Fault) : Report :=
  if fault.isReportable then failWith shown 2 (faultLine fault)
  else { ending := .crashed (.fault fault), errors := shown }

/-- The line for a file that cannot be read. -/
def unreadable (path : Path) (reason : FileTree.Error) : String :=
  s!"Error: cannot read {path.text}: {reason.message}"

/-- The payload: the content of a file, or standard input. -/
def payload (session : Session) : Option Path → Except String Octets
  | none => .ok session.input
  | some path =>
    match session.tree.read path with
    | .ok content => .ok content
    | .error reason => .error (unreadable path reason)

/-- The lines that octets hold in full, up to a place where they end inside a character. -/
def linesBefore (position : Nat) (octets : Octets) : List Octets :=
  let before := octets.take position
  match before.getLast? with
  | none => []
  | some last =>
    if last = 0x0A ∨ last = 0x0D then Octets.lines before else (Octets.lines before).dropLast

/-- What is typed at prompts, line by line. Octets that are no text are met when the first line is
read, unless the end of the octets may have cut a character short: then behind the lines. -/
def typed (octets : Octets) : Terminal :=
  let texts := fun lines => lines.map fun line => (Octets.text? line).getD ""
  match Utf8.flaw? octets with
  | none => { lines := texts (Octets.lines octets), shown := [] }
  | some flaw =>
    match flaw.reason with
    | .ending =>
      { lines := texts (linesBefore flaw.position octets), shown := []
        fault := some (.invalid { flaw with position := 0 }.message) }
    | _ => { lines := [], shown := [], fault := some (.invalid flaw.message) }

/-- The terminal that prompts are answered at: standard input, unless that is the payload. -/
def terminal (session : Session) : Option Path → Terminal
  | none => { lines := [], shown := [] }
  | some _ => typed session.input

/-- What was shown at a terminal. -/
def shownBy (credentials : Credentials) : String :=
  match credentials.source with
  | .terminal terminal => String.join terminal.shown
  | _ => ""

/-- Hands out a signature: to standard output, or to a file. -/
def handOut (session : Session) (shown text : String) : Option Path → Report
  | none => { ending := .exited 0, output := text, errors := shown }
  | some path =>
    let content := Octets.ofText text
    match session.tree.write content path with
    | .ok _ =>
      { ending := .exited 0, errors := shown ++ s!"Signature written to {path.text}\n"
        written := some (path, content) }
    | .error reason => { ending := .crashed (.unwritable reason), errors := shown }

/-- What an operation finds around it in a run. -/
def Session.surroundings (session : Session) (settings : Settings) : Surroundings :=
  { tree := session.tree, environment := session.environment, settings, now := session.now }

/-- Runs a command. -/
def runCommand (session : Session) (settings : Settings) : Command → Report
  | .sign keyId input output secretKeyPath attempts =>
    match payload session input with
    | .error line => failWith "" 2 line
    | .ok content =>
      let budget := attempts.getD settings.attempts
      let settings := { settings with attempts := budget }
      let asking : Signer.Asking :=
        { coordinator := .start budget
          credentials := Signer.credentials settings (terminal session input) }
      match Signer.sign (session.surroundings settings) keyId secretKeyPath content asking with
      | (.error fault, asking) => failed (shownBy asking.credentials) fault
      | (.ok signature, asking) =>
        handOut session (shownBy asking.credentials) signature.headerText output
  | .verify keyId signature input =>
    match payload session input with
    | .error line => failWith "" 2 line
    | .ok content =>
      match session.tree.read signature with
      | .error reason => failWith "" 2 (unreadable signature reason)
      | .ok octets =>
        match Signer.verifyOctets (session.surroundings settings) keyId content octets with
        | .error fault => failed "" fault
        | .ok true =>
          { ending := .exited 0, output := s!"Good signature from {Text.upper keyId}\n" }
        | .ok false =>
          { ending := .exited 1, output := s!"BAD signature for {Text.upper keyId}\n" }
  | .locate keyId =>
    match Signer.findPublic (session.surroundings settings) keyId with
    | .error fault => failed "" fault
    | .ok none => failWith "" 1 s!"No public key matches {keyId}"
    | .ok (some record) =>
      { ending := .exited 0
        output := s!"fingerprint: {record.fingerprintText}\nkey id:      {record.keyId}\n"
          ++ s!"algorithm:   {record.key.family.name}\nsource:      {record.source.text}\n" }

/-- The names of the levels of log messages. -/
def logLevels : List String :=
  ["CRITICAL", "FATAL", "ERROR", "WARN", "WARNING", "INFO", "DEBUG", "NOTSET"]

/-- The settings of a run. A level of log messages that is unknown is refused, unless the run is to
be verbose. -/
def settingsFor (session : Session) (home : Option Path) (verbose : Bool) :
    Except Fault Settings :=
  match Settings.load [] session.environment session.tree with
  | .error fault => .error fault
  | .ok settings =>
    let level := Text.upper settings.logLevel
    if verbose || logLevels.contains level then
      .ok { settings with gnupgHome := home.or settings.gnupgHome }
    else .error (.invalid ("Unknown level: " ++ Text.quoted level))

/-- The version of the program. -/
def version : String := "0.1.0"

/-- The end of a run with a path among the arguments that is none. -/
def impossiblePath : Report :=
  { ending := .crashed (.fault (.invalid FileTree.Error.impossible.message)) }

/-- What a run leads to, with styles in the texts. -/
def styledRun (session : Session) (arguments : List String) : Report :=
  match request arguments with
  | .misuse => { ending := .misused }
  | .help => { ending := .helped }
  | .impossible => impossiblePath
  | .something .version => { ending := .exited 0, output := s!"commitsign version {version}\n" }
  | .something (.command home verbose read arguments) =>
    match settingsFor session home verbose with
    | .error fault => { ending := .crashed (.fault fault) }
    | .ok settings =>
      match read arguments with
      | .misuse => { ending := .misused }
      | .help => { ending := .helped }
      | .impossible => impossiblePath
      | .something command => runCommand session settings command

/-- A whole run. Where it shows texts there is no terminal. -/
def run (session : Session) (arguments : List String) : Report :=
  let report := styledRun session arguments
  { report with output := Text.plain report.output, errors := Text.plain report.errors }

/-! ## What a run looks at -/

/-- The names of the variables that a run may look at, given the text of the variable file. -/
def variableNames (file : String) : List String :=
  let prefixed := Settings.names.map fun name => Settings.variablePrefix ++ name
  let settings := prefixed ++ Settings.homeNames
  let known := "HOME" :: settings.map Settings.lower ++ settings.map Text.upper
  (known ++ Dotenv.mentioned file.toList).eraseDups

/-- The paths that a command names. -/
def Command.paths (environment : Environment) : Command → List Path
  | .sign _ input output secretKeyPath _ =>
    let parent := output.map fun path => { path with names := path.names.dropLast }
    let keyring := secretKeyPath.bind fun path => (path.expandHome environment.homes).toOption
    input.toList ++ output.toList ++ parent.toList ++ keyring.toList
  | .verify _ signature input => signature :: input.toList
  | .locate _ => []

/-- The paths of the key stores. -/
def storePaths (environment : Environment) (settings : Settings) : List Path :=
  let paths := [settings.keyboxPath environment, settings.keyringPath environment]
  paths.filterMap Except.toOption
    ++ ((settings.override environment).toOption.bind id).toList

/-- What a run may look at: files, a directory with all in it, and whether standard input counts. -/
structure Reads where
  files : List Path := []
  directory : Option Path := none
  usesInput : Bool := false

/-- What a run may look at, given the variable file. -/
def reads (session : Session) (arguments : List String) : Reads :=
  match request arguments with
  | .something (.command home verbose read arguments) =>
    match settingsFor session home verbose, read arguments with
    | .ok settings, .something command =>
      { files := storePaths session.environment settings ++ command.paths session.environment
        directory := (settings.secretDirectory session.environment).toOption
        usesInput :=
          match command with
          | .sign _ input _ _ _ => input.isNone || settings.passphrase.isNone
          | .verify _ _ input => input.isNone
          | .locate _ => false }
    | _, _ => {}
  | _ => {}

end CommitSeal.CommandLine
