import SeriesCatalog.Settings.Store
import SeriesCatalog.Telemetry.LogLevel

/-! Opening clusters in a process. A cluster needs hosts, an HTTP client, which is given or made, and the log of
the process. The log is set up once, when the first cluster asks for it, at the level that the settings of the
process name. These are the settings that the process holds; the cluster may be opened from others. -/

namespace SeriesCatalog

/-- The settings that a process holds, and the level of its log once that is set up. -/
structure Process where
  store : Store Settings := {}
  level : Option Number := none

/-- Sets up the log, if that has not been done. -/
def Process.setUpLog (construct : Construction Fault Settings) (p : Process) : Except Fault Unit × Process :=
  match p.level with
  | some _ => (.ok (), p)
  | none =>
    let (settings, store) := p.store.get construct none
    let level := LogLevel.resolve settings .null
    (level.map fun _ => (), ⟨store, level.toOption⟩)

/-- Opens the cluster of settings; `client` is what getting the HTTP client comes to. -/
def Settings.openCluster (construct : Construction Fault Settings) (client : Except Fault Unit) (s : Settings)
    (p : Process) : Except Fault Cluster × Process :=
  match s.cluster, client with
  | .error fault, _ => (.error fault, p)
  | .ok _, .error fault => (.error fault, p)
  | .ok cluster, .ok () =>
    let (done, next) := p.setUpLog construct
    (done.map fun _ => cluster, next)

end SeriesCatalog
