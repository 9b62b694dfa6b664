import SeriesCatalog.Settings.Basic

/-! Options for drawing up settings. They are given among the overrides under names that start with an
underscore, and they mean no setting: which files of variables are read, what the names of variables start
with, whether variables without content count and whether small letters and capitals differ. The options are
those of `pydantic-settings`, a library outside the catalog; no theorem depends on them. -/

namespace SeriesCatalog

/-- How settings are drawn up. -/
structure SettingsOptions where
  readsFile : Bool := true
  start : String := "tsmeta_"
  skipsEmpty : Bool := false
  keepsCase : Bool := false

namespace SettingsOptions

/-- The names of options that change nothing here. -/
def idleNames : List String :=
  ["_env_file_encoding", "_env_nested_delimiter", "_env_nested_max_split", "_env_parse_none_str",
    "_env_parse_enums", "_secrets_dir"]

def names : List String :=
  ["_env_file", "_env_prefix", "_env_ignore_empty", "_case_sensitive"] ++ idleNames

/-- A path that leads to the file of variables. -/
def leadsToFile (path : String) : Bool :=
  path.toList.head? ≠ some '/' && (Text.splitAll '/' path).filter (fun s => s ≠ "" && s ≠ ".") = [".env"]

/-- Whether the files that a document names include the file of variables. Null names none. -/
def namesFile : Json → Except Fault Bool
  | .null => .ok false
  | .str path => .ok (leadsToFile path)
  | v => do
    let found ← (← v.items).mapM fun
      | .str path => .ok (leadsToFile path)
      | _ => .error .wrongKind
    .ok (found.any id)

/-- The options with one of them set. Null leaves all but the file as they stand. -/
def setOption (o : SettingsOptions) (name : String) (value : Json) : Except Fault SettingsOptions :=
  if name = "_env_file" then (namesFile value).map ({ o with readsFile := · })
  else if value.isNull then .ok o
  else if name = "_env_prefix" then
    match value with
    | .str start => .ok { o with start }
    | _ => .error .wrongKind
  else if name = "_env_ignore_empty" then .ok { o with skipsEmpty := !value.isBlank }
  else if name = "_case_sensitive" then .ok { o with keepsCase := !value.isBlank }
  else .ok o

def ofOverrides (overrides : Members) : Except Fault SettingsOptions :=
  overrides.foldlM (fun o (name, value) => o.setOption name value) {}

def fold (o : SettingsOptions) (name : String) : String := if o.keepsCase then name else Text.lower name

/-- The name of the variable of a setting. -/
def variableName (o : SettingsOptions) (setting : Setting) : String := o.fold (o.start ++ setting.name)

end SettingsOptions

end SeriesCatalog
