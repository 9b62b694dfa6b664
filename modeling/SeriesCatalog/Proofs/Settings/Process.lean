import SeriesCatalog.Proofs.Fallible
import SeriesCatalog.Proofs.Settings.Snapshot
import SeriesCatalog.Settings.Process

/-! What keeps a process from opening a cluster, whatever the hosts of the cluster are: it gets no HTTP client, or its
log is not set up and cannot be. -/

namespace SeriesCatalog

open Fallible

/-- The settings of a process: those that it holds, or those that it can build when it holds none. -/
inductive Process.Holds (construct : Construction Fault Settings) (p : Process) (s : Settings) : Prop
  | kept (h : p.store.kept = some s)
  | built (hkept : p.store.kept = none) (h : construct [] p.store.surroundings = .ok s)

/-- The name of a level, in any case of letters. -/
def LogLevel.IsName (name : String) : Prop :=
  Text.capitals name ∈ ["CRITICAL", "FATAL", "ERROR", "WARN", "WARNING", "INFO", "DEBUG", "NOTSET"]

instance (name : String) : Decidable (LogLevel.IsName name) := inferInstanceAs (Decidable (_ ∈ _))

theorem LogLevel.ofName_eq_error_iff {name : String} {fault : Fault} :
    ofName name = .error fault ↔ fault = .unknownLevel name ∧ ¬IsName name := by
  have hnames : named.lookup (Text.capitals name) = none ↔ ¬IsName name := Assoc.lookup_eq_none_iff
  rw [ofName, ← hnames]
  cases named.lookup (Text.capitals name) with
  | none => simp [eq_comm]
  | some level => simp

namespace Process

variable {construct : Construction Fault Settings} {client : Except Fault Unit} {p : Process} {fault : Fault}

/-- A process cannot set up its log: it has no settings and cannot build any, or its settings name no level. -/
inductive LogFault (construct : Construction Fault Settings) (p : Process) : Fault → Prop
  | unbuilt {fault : Fault} (hlevel : p.level = none) (hkept : p.store.kept = none)
    (h : construct [] p.store.surroundings = .error fault) : LogFault construct p fault
  | unnamed {s : Settings} (hlevel : p.level = none) (hs : p.Holds construct s) (h : ¬LogLevel.IsName s.logLevel) :
    LogFault construct p (.unknownLevel s.logLevel)

/-- A process cannot open a cluster, whatever its hosts. The client comes before the log. -/
inductive Hinders (construct : Construction Fault Settings) (client : Except Fault Unit) (p : Process) : Fault → Prop
  | client {fault : Fault} (h : client = .error fault) : Hinders construct client p fault
  | log {fault : Fault} (hclient : client = .ok ()) (h : p.LogFault construct fault) : Hinders construct client p fault

/-- Nothing keeps a process from opening clusters. -/
def IsReady (construct : Construction Fault Settings) (client : Except Fault Unit) (p : Process) : Prop :=
  ∀ fault, ¬p.Hinders construct client fault

/-! ### The log -/

theorem get_eq_ok_iff {s : Settings} : (p.store.get construct none).1 = .ok s ↔ p.Holds construct s := by
  rw [Store.get_of_isPlain rfl]
  cases hkept : p.store.kept with
  | some held =>
      rw [Store.getKept_of_some construct hkept]
      constructor
      · intro h
        exact .kept (hkept.trans (congrArg some (Except.ok.inj h)))
      · rintro (h | ⟨hnone, -⟩)
        · exact congrArg Except.ok (Option.some.inj (hkept.symm.trans h))
        · cases hkept.symm.trans hnone
  | none =>
      rw [Store.getKept_of_none construct hkept]
      constructor
      · exact .built hkept
      · rintro (h | ⟨-, h⟩)
        · cases hkept.symm.trans h
        · exact h

theorem get_eq_error_iff :
    (p.store.get construct none).1 = .error fault ↔
      p.store.kept = none ∧ construct [] p.store.surroundings = .error fault := by
  rw [Store.get_of_isPlain rfl]
  cases hkept : p.store.kept with
  | some held =>
      rw [Store.getKept_of_some construct hkept]
      simp
  | none =>
      rw [Store.getKept_of_none construct hkept]
      simp

theorem Holds.unique {s other : Settings} (h : p.Holds construct s) (hother : p.Holds construct other) : s = other :=
  Except.ok.inj ((get_eq_ok_iff.mpr h).symm.trans (get_eq_ok_iff.mpr hother))

/-- A process is ready that gets a client and has its log set up, or has settings that name a level for it. -/
theorem isReady_iff :
    p.IsReady construct client ↔
      client = .ok () ∧ (p.level.isSome = true ∨ ∃ s, p.Holds construct s ∧ LogLevel.IsName s.logLevel) := by
  constructor
  · intro hready
    cases client with
    | error fault => exact absurd (.client rfl) (hready fault)
    | ok done =>
        refine ⟨rfl, ?_⟩
        cases hlevel : p.level with
        | some level => exact .inl rfl
        | none =>
            cases hget : (p.store.get construct none).1 with
            | error fault =>
                obtain ⟨hkept, hfault⟩ := get_eq_error_iff.mp hget
                exact absurd (.log rfl (.unbuilt hlevel hkept hfault)) (hready fault)
            | ok s =>
                have hs := get_eq_ok_iff.mp hget
                by_cases hname : LogLevel.IsName s.logLevel
                · exact .inr ⟨s, hs, hname⟩
                · exact absurd (.log rfl (.unnamed hlevel hs hname)) (hready _)
  · rintro ⟨rfl, hlog⟩ fault (hclient | ⟨-, ⟨hlevel, hkept, hfault⟩ | ⟨hlevel, hother, hnot⟩⟩)
    · cases hclient
    · rcases hlog with hsome | ⟨s, hs, -⟩
      · simp [hlevel] at hsome
      · cases (get_eq_ok_iff.mpr hs).symm.trans (get_eq_error_iff.mpr ⟨hkept, hfault⟩)
    · rcases hlog with hsome | ⟨s, hs, hname⟩
      · simp [hlevel] at hsome
      · exact hnot (hs.unique hother ▸ hname)

theorem resolve_eq_error_iff {settings : Except Fault Settings} :
    LogLevel.resolve settings .null = .error fault ↔
      settings = .error fault ∨
        ∃ s, settings = .ok s ∧ fault = .unknownLevel s.logLevel ∧ ¬LogLevel.IsName s.logLevel := by
  rw [LogLevel.resolve, bind_eq_error]
  simp only [LogLevel.ofName_eq_error_iff]

theorem setUpLog_of_some {level : Number} (h : p.level = some level) : p.setUpLog construct = (.ok (), p) := by
  rw [setUpLog, h]

theorem setUpLog_of_none (h : p.level = none) :
    p.setUpLog construct =
      ((LogLevel.resolve (p.store.get construct none).1 .null).map fun _ => (),
        ⟨(p.store.get construct none).2, (LogLevel.resolve (p.store.get construct none).1 .null).toOption⟩) := by
  rw [setUpLog, h]

theorem setUpLog_eq_error_iff : (p.setUpLog construct).1 = .error fault ↔ p.LogFault construct fault := by
  cases hlevel : p.level with
  | some level =>
      rw [setUpLog_of_some hlevel]
      refine iff_of_false (fun h => by cases h) ?_
      rintro (⟨hnone, -, -⟩ | ⟨hnone, -, -⟩) <;> cases hlevel.symm.trans hnone
  | none =>
      rw [setUpLog_of_none hlevel, map_eq_error, resolve_eq_error_iff, get_eq_error_iff]
      simp only [get_eq_ok_iff]
      constructor
      · rintro (⟨hkept, h⟩ | ⟨s, hs, rfl, h⟩)
        · exact .unbuilt hlevel hkept h
        · exact .unnamed hlevel hs h
      · rintro (⟨-, hkept, h⟩ | ⟨-, hs, h⟩)
        · exact .inl ⟨hkept, h⟩
        · exact .inr ⟨_, hs, rfl, h⟩

/-- The log is set up afterwards, unless that fails. -/
theorem level_setUpLog (h : (p.setUpLog construct).1 = .ok ()) : (p.setUpLog construct).2.level.isSome = true := by
  cases hlevel : p.level with
  | some level =>
      rw [setUpLog_of_some hlevel, hlevel]
      rfl
  | none =>
      rw [setUpLog_of_none hlevel] at h ⊢
      obtain ⟨level, hresolved, -⟩ := map_eq_ok.mp h
      rw [hresolved]
      rfl

end Process

/-! ### Opening -/

namespace Settings

variable {construct : Construction Fault Settings} {client : Except Fault Unit} {s : Settings} {p : Process}

theorem openCluster_of_error {fault : Fault} (h : s.cluster = .error fault) :
    s.openCluster construct client p = (.error fault, p) := by
  simp only [openCluster, h]

theorem openCluster_of_ok {cluster : Cluster} (h : s.cluster = .ok cluster) :
    s.openCluster construct (.ok ()) p = ((p.setUpLog construct).1.map fun _ => cluster, (p.setUpLog construct).2) := by
  simp only [openCluster, h]

theorem openCluster_eq_error_iff {cluster : Cluster} {fault : Fault} (h : s.cluster = .ok cluster) :
    (s.openCluster construct client p).1 = .error fault ↔ p.Hinders construct client fault := by
  cases client with
  | error other =>
      have hopened : (s.openCluster construct (.error other) p).1 = .error other := by
        simp only [openCluster, h]
      rw [hopened]
      constructor
      · intro hfault
        exact .client (congrArg Except.error (Except.error.inj hfault))
      · rintro (hother | ⟨hclient, -⟩)
        · exact congrArg Except.error (Except.error.inj hother)
        · cases hclient
  | ok done =>
      rw [openCluster_of_ok h, map_eq_error, Process.setUpLog_eq_error_iff]
      constructor
      · exact .log rfl
      · rintro (hclient | ⟨-, hlog⟩)
        · cases hclient
        · exact hlog

/-- What is opened is the cluster that the settings describe. -/
theorem cluster_of_openCluster {cluster : Cluster} {next : Process}
    (h : s.openCluster construct client p = (.ok cluster, next)) : s.cluster = .ok cluster := by
  cases hcluster : s.cluster with
  | error fault =>
      rw [openCluster_of_error hcluster] at h
      cases h
  | ok other =>
      cases client with
      | error fault =>
          simp only [openCluster, hcluster] at h
          cases h
      | ok done =>
          rw [openCluster_of_ok hcluster, Prod.mk.injEq, map_eq_ok] at h
          obtain ⟨⟨-, -, rfl⟩, -⟩ := h
          rfl

/-- A process that is ready opens the cluster, and its log is set up then. -/
theorem openCluster_of_isReady {cluster : Cluster} (h : s.cluster = .ok cluster) (hready : p.IsReady construct client) :
    ∃ next, next.level.isSome = true ∧ s.openCluster construct client p = (.ok cluster, next) := by
  cases client with
  | error other => exact absurd (.client rfl) (hready other)
  | ok done =>
      cases hlog : (p.setUpLog construct).1 with
      | error fault => exact absurd (.log rfl (Process.setUpLog_eq_error_iff.mp hlog)) (hready fault)
      | ok done =>
          refine ⟨(p.setUpLog construct).2, Process.level_setUpLog hlog, ?_⟩
          rw [openCluster_of_ok h, hlog]
          rfl

end Settings

end SeriesCatalog
