import SeriesCatalog.Settings.Basic
import SeriesCatalog.Settings.EnvFile
import SeriesCatalog.Settings.Options

/-! Where settings come from. An override stands before a variable of the environment, that before a variable
of the file, and a default comes last. Names are the same in every case of letters: of the overrides under
one name the first counts, of the variables the last. A name that means no setting is refused among the
overrides and in the file; the environment holds other variables too. The order of the sources is that of
`pydantic-settings`, a library outside the catalog. -/

namespace SeriesCatalog

/-- What surrounds a process: the variables of its environment and the text of its file of variables. -/
structure Surroundings where
  environment : List (String × String) := []
  file : String := ""

namespace Settings

/-- Entries under their names as they are compared. Of those that become one the last counts. -/
def foldNames {α : Type} (o : SettingsOptions) (entries : List (String × α)) : List (String × α) :=
  Assoc.byName (entries.map fun (name, value) => (o.fold name, value))

def environmentVariables (o : SettingsOptions) (s : Surroundings) : List (String × String) :=
  (foldNames o s.environment).filter fun (_, value) => !(o.skipsEmpty && value = "")

/-- The variables of the file; those without a value have none. -/
def fileVariables (o : SettingsOptions) (s : Surroundings) : List (String × Option String) :=
  if o.readsFile then
    (foldNames o (EnvFile.read s.environment s.file)).filter fun (_, value) =>
      !(o.skipsEmpty && value = some "")
  else []

/-- The value that the text of a variable gives to a setting. Only hosts may be spelled as a document. -/
def ofVariable? (setting : Setting) (text : String) : Option Json :=
  if setting = .hosts then Hosts.document? text else some (.str text)

def override? (o : SettingsOptions) (overrides : Members) (setting : Setting) : Option Json :=
  (overrides.find? fun (name, _) => o.fold name = setting.name).map (·.2)

/-- What is given for a setting by the first source that has something for it. -/
def given (o : SettingsOptions) (overrides : Members) (s : Surroundings) : Given := fun setting =>
  let name := o.variableName setting
  (override? o overrides setting).or
    ((((environmentVariables o s).lookup name).bind (ofVariable? setting)).or
      (((fileVariables o s).lookup name).join.bind (ofVariable? setting)))

/-- The overrides that mean no setting and no option. -/
def unknownOverrides (o : SettingsOptions) (overrides : Members) : List String :=
  (overrides.map (·.1)).filter fun name =>
    !SettingsOptions.names.contains name && !Setting.all.any (·.name == o.fold name)

/-- A name of the file that means a setting, or is passed over because it is the bare name of one. -/
def isFamiliar (o : SettingsOptions) (name : String) : Bool :=
  Setting.all.any fun setting => setting.name == name || o.variableName setting == name

/-- The variables of the file that have content but mean no setting. -/
def unknownVariables (o : SettingsOptions) (s : Surroundings) : List String :=
  (fileVariables o s).filterMap fun (name, value) =>
    if value.getD "" = "" ∨ isFamiliar o name then none else some name

def sortNames (names : List String) : List String :=
  names.eraseDups.mergeSort fun a b => decide (a ≤ b)

/-- The settings with the given overrides, or the names at fault. -/
def build (overrides : Members) (s : Surroundings) : Except Fault Settings := do
  let o ← SettingsOptions.ofOverrides overrides
  let (settings, faulty) := draw (given o overrides s)
  match faulty.map Setting.name ++ unknownOverrides o overrides ++ unknownVariables o s with
  | [] => .ok settings
  | names => .error (.settingsRefused (sortNames names))

end Settings

end SeriesCatalog
