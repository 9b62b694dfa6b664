import SeriesCatalog.Number.Basic
import SeriesCatalog.Settings.Basic
import SeriesCatalog.Text.Capital

/-! Levels of logging. A level is a number or has a name, which counts in every case of letters. -/

namespace SeriesCatalog.LogLevel

def named : List (String × Int) :=
  [("CRITICAL", 50), ("FATAL", 50), ("ERROR", 40), ("WARN", 30), ("WARNING", 30), ("INFO", 20),
    ("DEBUG", 10), ("NOTSET", 0)]

def ofName (name : String) : Except Fault Number :=
  match named.lookup (Text.capitals name) with
  | some n => .ok (.int n)
  | none => .error (.unknownLevel name)

/-- The level that a document gives; a null leaves it to the settings. -/
def resolve (settings : Except Fault Settings) : Json → Except Fault Number
  | .null => settings >>= fun s => ofName s.logLevel
  | .int n => .ok (.int n)
  | .bool b => .ok (.flag b)
  | .str name => ofName name
  | _ => .error .noMember

end SeriesCatalog.LogLevel
