import CommitSeal.Datum
import CommitSeal.FileTree
import CommitSeal.Octets.Text
import CommitSeal.Settings.Dotenv
import CommitSeal.Settings.Environment
import CommitSeal.Text.Integer

/-!
# Settings

A setting is taken from the values given to the program, else from an environment variable, else
from the variable file, else it has a default. `Settings.load` reads all of them and reports the
first that is not admitted; the paths of the key stores follow from the settings and the
environment.
-/

namespace CommitSeal

/-- What can be configured. -/
structure Settings where
  /-- The directory with the key stores. -/
  gnupgHome : Option Path := none
  /-- A keyring to sign with in place of the key stores. -/
  secretKeyPath : Option Path := none
  /-- The key to sign with if none is named. -/
  signingKey : Option String := none
  /-- A passphrase that makes prompts needless. -/
  passphrase : Option String := none
  /-- How often the passphrase of a key may be asked for. -/
  attempts : Nat := 1
  /-- The least severe messages that are logged. -/
  logLevel : String := "WARNING"
  deriving DecidableEq, Repr

namespace Settings

/-! ## Admitted values -/

/-- Why a value is not admitted. -/
inductive Problem where
  | notAPath
  | notText
  | notAnInteger
  | unreadableInteger
  | tooLong
  | fractional
  | notFinite
  | tooSmall
  deriving DecidableEq, Repr

/-- The wording of a refusal. -/
def Problem.message : Problem → String
  | notAPath => "Input is not a valid path for <class 'pathlib.Path'>"
  | notText => "Input should be a valid string"
  | notAnInteger => "Input should be a valid integer"
  | unreadableInteger => "Input should be a valid integer, unable to parse string as an integer"
  | tooLong => "Unable to parse input string as an integer, exceeded maximum size"
  | fractional => "Input should be a valid integer, got a number with a fractional part"
  | notFinite => "Input should be a finite number"
  | tooSmall => "Input should be greater than or equal to 1"

/-- A path, if one is given. -/
def path? : Datum → Except Problem (Option Path)
  | .null => .ok none
  | .text value => .ok (some (Path.parse value))
  | _ => .error .notAPath

/-- A text, if one is given. -/
def text? : Datum → Except Problem (Option String)
  | .null => .ok none
  | .text value => .ok (some value)
  | _ => .error .notText

/-- A text. -/
def text : Datum → Except Problem String
  | .text value => .ok value
  | _ => .error .notText

/-- A text without surrounding white space; one with nothing else counts as none. -/
def name? (value : Datum) : Except Problem (Option String) :=
  match text? value with
  | .error problem => .error problem
  | .ok none => .ok none
  | .ok (some value) =>
    if Text.strip value = "" then .ok none else .ok (some (Text.strip value))

/-- What is wrong with a text that is to be an integer. -/
def Problem.ofInteger : Text.Integer.Problem → Problem
  | .unreadable => .unreadableInteger
  | .tooLong => .tooLong

/-- The integer that a value stands for. A number with a fraction or an exponent stands for one only
below the size of a machine word. -/
def integer : Datum → Except Problem Int
  | .integer value => .ok value
  | .truth true => .ok 1
  | .truth false => .ok 0
  | .decimal isNegative mantissa places =>
    match Datum.whole? mantissa places with
    | none => .error .fractional
    | some n =>
      if 1 <<< 63 ≤ n then .error .tooLong else .ok (if isNegative then -(n : Int) else n)
  | .infinite _ => .error .notFinite
  | .notANumber => .error .notFinite
  | .text value => (Text.Integer.ofChars value.toList).mapError Problem.ofInteger
  | _ => .error .notAnInteger

/-- A number of attempts. -/
def attempts? (value : Datum) : Except Problem Nat :=
  match integer value with
  | .error problem => .error problem
  | .ok n => if 1 ≤ n then .ok n.toNat else .error .tooSmall

/-! ## Sources -/

/-- Where settings are taken from. -/
structure Sources where
  /-- Values given to the program, by the names of the settings. -/
  given : List (String × Datum)
  /-- The environment. -/
  environment : Environment
  /-- The assignments of the variable file. -/
  file : List (String × Option String)

/-- The lower case of a character, as far as it is an ASCII letter. The Kelvin sign has one. -/
def lowerChar (c : Char) : Char := if c = '\u212A' then 'k' else c.toLower

/-- A name in lower case. -/
def lower (text : String) : String := String.ofList (text.toList.map lowerChar)

/-- What is bound to a name, which is in lower case: names are compared without regard to case, and
the last one counts. -/
def lookupName {α : Type} (name : String) (bindings : List (String × α)) : Option α :=
  (bindings.reverse.find? fun entry => lower entry.1 == name).map Prod.snd

/-- What variables say about a setting; one without a value says nothing. -/
def lookupVariable (name : String) (bindings : List (String × Option String)) : Option String :=
  (lookupName name bindings).join

/-- The environment in the form of assignments. -/
def environmentVariables (environment : Environment) : List (String × Option String) :=
  environment.bindings.map fun (name, value) => (name, some value)

/-- The prefix of the variables that hold settings. -/
def variablePrefix : String := "commitsign_"

/-- The names of the settings. -/
def names : List String :=
  ["gnupg_home", "secret_key_path", "signing_key", "passphrase", "passphrase_attempts", "log_level"]

/-- The value of a setting whose values are given by some names, best first, and whose variables
have others. -/
def Sources.find? (sources : Sources) (given asVariable : List String) : Option Datum :=
  (given.findSome? fun name => lookupName (lower name) sources.given) <|>
    (((asVariable.findSome? fun name =>
        lookupVariable (lower name) (environmentVariables sources.environment)) <|>
      (asVariable.findSome? fun name =>
        lookupVariable (lower name) sources.file)).map Datum.text)

/-- The value of a setting with one name. -/
def Sources.value? (sources : Sources) (name : String) : Option Datum :=
  sources.find? [name] [variablePrefix ++ name]

/-- The names of the home directory setting, best first. -/
def homeNames : List String := ["gnupg_home", "COMMITSIGN_GNUPG_HOME", "GNUPGHOME"]

/-- The value of the home directory setting. -/
def Sources.homeValue? (sources : Sources) : Option Datum := sources.find? homeNames homeNames

/-- The name under which the home directory setting is reported: one that it was given by, if it was
spelled exactly so. -/
def Sources.homeName (sources : Sources) : String :=
  (homeNames.find? fun name => (sources.given.lookup name).isSome).getD "gnupg_home"

/-! ## Loading -/

/-- Checks the value of a setting. -/
def checked {α : Type} (name : String) (default : α) (check : Datum → Except Problem α) :
    Option Datum → Except Fault α
  | none => .ok default
  | some value =>
    match check value with
    | .ok value => .ok value
    | .error problem => .error (.badField name problem.message)

/-- The settings that sources give. -/
def ofSources (sources : Sources) : Except Fault Settings := do
  let gnupgHome ← checked sources.homeName none path? sources.homeValue?
  let secretKeyPath ← checked "secret_key_path" none path? (sources.value? "secret_key_path")
  let signingKey ← checked "signing_key" none name? (sources.value? "signing_key")
  let passphrase ← checked "passphrase" none text? (sources.value? "passphrase")
  let attempts ← checked "passphrase_attempts" 1 attempts? (sources.value? "passphrase_attempts")
  let logLevel ← checked "log_level" "WARNING" text (sources.value? "log_level")
  .ok { gnupgHome, secretKeyPath, signingKey, passphrase, attempts, logLevel }

/-- The path of the variable file. -/
def filePath : Path := ⟨.relative, [".env"]⟩

/-- The assignments of the variable file, if there is one. -/
def fileVariables (environment : Environment) (tree : FileTree) :
    Except Fault (List (String × Option String)) :=
  match tree.read filePath with
  | .error _ => .ok []
  | .ok content =>
    match Octets.text? content with
    | none => .error .notText
    | some text => .ok (Dotenv.bindings environment.bindings text)

/-- Loads the settings. -/
def load (given : List (String × Datum)) (environment : Environment) (tree : FileTree) :
    Except Fault Settings :=
  match fileVariables environment tree with
  | .error fault => .error fault
  | .ok file => ofSources { given, environment, file }

/-! ## Key stores -/

/-- The directory of the key stores: the configured one, else that of the environment, else the
default below the home directory. -/
def home (settings : Settings) (environment : Environment) : Except Fault Path :=
  match settings.gnupgHome with
  | some path => environment.expand path
  | none =>
    match environment.get? "GNUPGHOME" with
    | some path => if path = "" then standard else .ok (Path.parse path)
    | none => standard
where
  /-- The default directory. -/
  standard : Except Fault Path := (environment.expand ⟨.relative, ["~"]⟩).map (·.child ".gnupg")

/-- The path of the keybox. -/
def keyboxPath (settings : Settings) (environment : Environment) : Except Fault Path :=
  (settings.home environment).map (·.child "pubring.kbx")

/-- The path of the directory with a file for each secret key. -/
def secretDirectory (settings : Settings) (environment : Environment) : Except Fault Path :=
  (settings.home environment).map (·.child "private-keys-v1.d")

/-- The path of the combined keyring. -/
def keyringPath (settings : Settings) (environment : Environment) : Except Fault Path :=
  (settings.home environment).map (·.child "secring.gpg")

/-- The path of a keyring that is configured explicitly. -/
def override (settings : Settings) (environment : Environment) : Except Fault (Option Path) :=
  match settings.secretKeyPath with
  | none => .ok none
  | some path => (environment.expand path).map some

end Settings

end CommitSeal
