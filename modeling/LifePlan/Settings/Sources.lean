import LifePlan.Archive
import LifePlan.Settings.Basic
import LifePlan.Settings.EnvFile
import LifePlan.Text.Case
import LifePlan.Yaml.Value

/-!
# Where settings come from

A setting is given by the caller, by a configuration file in YAML, by a variable of the environment, or by a
variable in an environment file. Of these the first in this order counts. The caller and the configuration
file name a setting by its name, variables by its name behind `LIPLA_`, and neither minds the case.
-/

namespace LifePlan

/-! ## What can go wrong -/

/-- Why there are no settings. -/
inductive SettingsFlaw where
  /-- A file cannot be read. -/
  | file (trouble : Trouble)
  /-- A file holds bytes that are no text. -/
  | undecodable
  /-- The configuration file is no YAML. -/
  | yaml (flaw : Yaml.Flaw)
  /-- The configuration is neither names with values nor nothing at all. -/
  | notSettings
  /-- The configuration is a sequence with an element that is no pair. -/
  | notAPair (index length : Nat)
  /-- A file is to be found in a home directory, and there is none. -/
  | homeless
  /-- A value makes no sense for its setting. -/
  | invalid
  deriving DecidableEq, Repr

/-- The wording for an element that is no pair. -/
def SettingsFlaw.pairMessage (index length : Nat) : String :=
  "dictionary update sequence element #" ++ toString index ++ " has length " ++ toString length ++
    "; 2 is required"

namespace Settings

/-! ## Configuration files -/

/-- The value that a configuration file gives. -/
def givenOf : Yaml.Value → Given
  | .text s => .text s
  | .bool b => .bool b
  | .int n => .int n
  | .fraction f => (f.whole?.map Given.int).getD .other
  | .bytes bs => ((String.fromUTF8? ⟨bs.toArray⟩).map Given.bytes).getD .other
  | _ => .other

/-- The elements of a value, if it has any. -/
def elements? : Yaml.Value → Option (List Yaml.Value)
  | .text s => some (s.toList.map fun c => .text (String.singleton c))
  | .broken length => some (List.replicate length (.broken 1))
  | .bytes bs => some (bs.map fun b => .int b.toNat)
  | .list items => some items
  | .pair first second => some [first, second]
  | .mapping members => some (members.map (·.1))
  | _ => none

/-- Whether a value can be a name or a number of something. -/
def canBeKey : Yaml.Value → Bool
  | .list _ | .mapping _ => false
  | .pair first second => canBeKey first && canBeKey second
  | _ => true

/-- The pairs of a sequence, from an index on. -/
def pairsFrom (index : Nat) : List Yaml.Value → Except SettingsFlaw (List (Yaml.Value × Yaml.Value))
  | [] => .ok []
  | v :: vs =>
    match elements? v with
    | some [key, value] =>
      if canBeKey key then do
        let rest ← pairsFrom (index + 1) vs
        return (key, value) :: rest
      else .error .notSettings
    | some other => .error (.notAPair index other.length)
    | none => .error .notSettings

/-- The names and values in a document. A document that says nothing has none. -/
def members : Yaml.Value → Except SettingsFlaw (List (Yaml.Value × Yaml.Value))
  | .null => .ok []
  | .bool b => if b then .error .notSettings else .ok []
  | .int n => if n = 0 then .ok [] else .error .notSettings
  | .fraction f => if f = .zero then .ok [] else .error .notSettings
  | .mapping ms => .ok ms
  | .other => .error .notSettings
  | v => pairsFrom 0 ((elements? v).getD [])

/-- The names and values, if each name is a text. A name that is no text elsewhere names no setting. -/
def named : List (Yaml.Value × Yaml.Value) → Except SettingsFlaw (List (String × Given))
  | [] => .ok []
  | (key, value) :: rest =>
    match key with
    | .text name => do
      let rest ← named rest
      return (name, givenOf value) :: rest
    | .broken _ => named rest
    | _ => .error .notSettings

/-- What a configuration file gives. -/
def readConfig (s : Store) (file : FileName) : Except SettingsFlaw (List (String × Given)) :=
  match s.read file with
  | .error trouble => .error (.file trouble)
  | .ok content =>
    match Archive.decode content with
    | none => .error .undecodable
    | some cs =>
      match Yaml.read cs with
      | .error flaw => .error (.yaml flaw)
      | .ok value => do named (← members value)

/-! ## Variables -/

/-- What the names of variables start with. -/
def variableStart : String := "lipla_"

/-- Whether a name in any case is the given one, which is in small letters. -/
def isName (name given : String) : Bool := Text.lower given.toList = name.toList

/-- The value of the last variable whose name, in small letters, is the given one. -/
def lastOf {α : Type} (given : List (String × α)) (name : String) : Option α :=
  ((given.filter fun v => isName name v.1).getLast?).map (·.2)

/-- The value that variables give a setting. -/
def variableValue (given : Bindings (Option String)) (setting : Setting) : Option Given :=
  ((lastOf given (variableStart ++ setting.name)).getD none).map .text

/-- Whether a variable has a null character, which none can have. -/
def hasNull (environment : Bindings String) : Bool :=
  environment.any fun v => v.1.toList.contains '\x00' || v.2.toList.contains '\x00'

/-! ## Home directories -/

/-- The home directory, unless it is only known by a further name. -/
def homeOf (environment : Bindings String) : Option FileName :=
  let text := Text.dropRight (· == '/') ((environment.get? "HOME").getD "").toList
  if text.head? = some '~' then none else some (.ofText (if text = [] then "/" else String.ofList text))

/-- The accounts that every system has, with their home directories. -/
def usualAccounts : List (String × String) :=
  [("root", "/root"), ("daemon", "/usr/sbin"), ("bin", "/bin"), ("sys", "/dev"), ("nobody", "/nonexistent")]

/-- A file name, in which a first part that starts with `~` stands for the home directory of the user or of
an account. -/
def expandHome (home : Option FileName) (name : FileName) : Except SettingsFlaw FileName :=
  match name.slashes, name.parts with
  | 0, first :: rest =>
    if first.toList.head? = some '~' then
      let found := if first = "~" then home else
        (usualAccounts.lookup (String.ofList (first.toList.drop 1))).map FileName.ofText
      match found with
      | some home => .ok { home with parts := home.parts ++ rest }
      | none => .error .homeless
    else .ok name
  | _, _ => .ok name

/-! ## Environment files -/

/-- The environment file: the one that the environment names, or else the usual one. -/
def envFileOf (environment : Bindings String) : Except SettingsFlaw FileName :=
  match environment.get? "LIPLA_ENV_FILE" with
  | some name => if name = "" then .ok (.ofText ".env") else expandHome (homeOf environment) (.ofText name)
  | none => .ok (.ofText ".env")

/-- What the environment file gives; a file that is not there gives nothing. -/
def readEnvFile (s : Store) (environment : Bindings String) :
    Except SettingsFlaw (Bindings (Option String)) := do
  match s.read (← envFileOf environment) with
  | .error .nameTooLong => .error (.file .nameTooLong)
  | .error _ => .ok []
  | .ok content =>
    match Archive.decode content with
    | none => .error .undecodable
    | some cs => .ok (EnvFile.bindings environment cs)

/-! ## All sources -/

/-- What each source gives. -/
structure Sources where
  /-- The configuration file, with what the caller gives in its stead. -/
  direct : Bindings Given
  environment : Bindings String
  envFile : Bindings (Option String)

namespace Sources

/-- The value that the caller or the configuration file gives, under the first name that differs from the
setting's name at most in its case. -/
def direct? (sources : Sources) (setting : Setting) : Option Given :=
  (sources.direct.find? fun v => isName setting.name v.1).map (·.2)

/-- The value of the first source that gives one. -/
def given? (sources : Sources) (setting : Setting) : Option Given :=
  sources.direct? setting <|>
    variableValue (sources.environment.map fun v => (v.1, some v.2)) setting <|>
      variableValue sources.envFile setting

end Sources

/-- The configuration file that the environment names. -/
def configFileOf (environment : Bindings String) : Option FileName :=
  match environment.get? "LIPLA_CONFIG_FILE" with
  | some name => if name = "" then none else some (.ofText name)
  | none => none

/-- What the caller gives. A name that comes without a value is as good as none. -/
def overridesOf (asked : List (String × Option Given)) : List (String × Given) :=
  asked.filterMap fun v => v.2.map fun given => (v.1, given)

/-- Collects what each source gives. -/
def collect (s : Store) (environment : Bindings String) (overrides : List (String × Given)) :
    Except SettingsFlaw Sources := do
  let config ←
    match configFileOf environment with
    | some file => readConfig s file
    | none => pure []
  let envFile ← readEnvFile s environment
  return ⟨Bindings.assignAll (Bindings.assignAll [] config) overrides, environment, envFile⟩

/-- The settings from all that is given. Without a home directory the files that are usually in it must be
given. -/
def ofSources (sources : Sources) : Except SettingsFlaw Settings :=
  let home := homeOf sources.environment
  if home = none ∧ needsHome sources.given? = true then .error .homeless
  else
    match ofGiven (home.getD (.ofText ".")) sources.given? with
    | some settings => .ok settings
    | none => .error .invalid

/-- The settings of a run. -/
def load (s : Store) (environment : Bindings String) (overrides : List (String × Given)) :
    Except SettingsFlaw Settings := do
  if hasNull environment then .error (.file .nullInName)
  else ofSources (← collect s environment overrides)

end Settings

end LifePlan
