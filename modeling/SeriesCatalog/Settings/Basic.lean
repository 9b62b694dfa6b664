import SeriesCatalog.Catalog.Basic
import SeriesCatalog.Settings.Hosts

/-! Settings and how they are drawn up. Each setting is what is given for it, read as its kind demands, or
else its default. Settings are drawn up all at once, so that every setting at fault is known. Drawing up is the
business of `pydantic-settings`, a library outside the catalog, for which this module stands together with those
of loose values, options, sources and files of variables; what is proved of settings takes the way to build them
as a parameter. -/

namespace SeriesCatalog

/-- Where a process runs. -/
inductive Stage where
  | dev
  | test
  | prod
  deriving DecidableEq

namespace Stage

def label : Stage → String
  | .dev => "dev"
  | .test => "test"
  | .prod => "prod"

def ofLabel? (s : String) : Option Stage := [dev, test, prod].find? (·.label = s)

def ofJson? (v : Json) : Option Stage := (Loose.text? v).bind ofLabel?

end Stage

/-- The settings of a process. -/
structure Settings where
  stage : Stage := .dev
  logLevel : String := "INFO"
  maxCardinality : Int := 4096
  queryTimeout : String := "5s"
  fallbackOnException : Bool := true
  fallbackOnNoData : Bool := false
  maxResults : Int := 4096
  hosts : Hosts := .listed ["http://localhost:9200"]
  indexSuffix : String := ""
  allIndex : String := allNamespaces
  requestTimeout : Double := Double.ofInt 10
  deriving DecidableEq

/-- One of the settings. -/
inductive Setting where
  | stage
  | logLevel
  | maxCardinality
  | queryTimeout
  | fallbackOnException
  | fallbackOnNoData
  | maxResults
  | hosts
  | indexSuffix
  | allIndex
  | requestTimeout
  deriving DecidableEq

namespace Setting

def all : List Setting :=
  [stage, logLevel, maxCardinality, queryTimeout, fallbackOnException, fallbackOnNoData, maxResults, hosts,
    indexSuffix, allIndex, requestTimeout]

def name : Setting → String
  | .stage => "environment"
  | .logLevel => "log_level"
  | .maxCardinality => "max_cardinality"
  | .queryTimeout => "query_timeout"
  | .fallbackOnException => "fallback_on_exception"
  | .fallbackOnNoData => "fallback_on_no_data"
  | .maxResults => "max_results"
  | .hosts => "es_hosts"
  | .indexSuffix => "es_index_suffix"
  | .allIndex => "es_all_namespace_index"
  | .requestTimeout => "es_request_timeout_seconds"

end Setting

namespace Settings

/-- What is given for a setting, if anything. -/
abbrev Given := Setting → Option Json

/-- The setting that a value denotes, put in its place; none when it denotes none of its kind. -/
def accept? (settings : Settings) (setting : Setting) (v : Json) : Option Settings :=
  match setting with
  | .stage => (Stage.ofJson? v).map ({ settings with stage := · })
  | .logLevel => (Loose.text? v).map ({ settings with logLevel := · })
  | .maxCardinality => (Loose.integer? v).map ({ settings with maxCardinality := · })
  | .queryTimeout => (Loose.text? v).map ({ settings with queryTimeout := · })
  | .fallbackOnException => (Loose.switch? v).map ({ settings with fallbackOnException := · })
  | .fallbackOnNoData => (Loose.switch? v).map ({ settings with fallbackOnNoData := · })
  | .maxResults => (Loose.integer? v).map ({ settings with maxResults := · })
  | .hosts => (Hosts.ofJson? v).map ({ settings with hosts := · })
  | .indexSuffix => (Loose.text? v).map ({ settings with indexSuffix := · })
  | .allIndex => (Loose.text? v).map ({ settings with allIndex := · })
  | .requestTimeout => (Loose.number? v).map ({ settings with requestTimeout := · })

/-- The settings after what is given for one of them; unchanged and at fault when it denotes none. -/
def take (given : Given) (setting : Setting) (drawn : Settings × List Setting) :
    Settings × List Setting :=
  match given setting with
  | none => drawn
  | some v =>
    match drawn.1.accept? setting v with
    | some settings => (settings, drawn.2)
    | none => (drawn.1, setting :: drawn.2)

/-- The settings that what is given amounts to, and those of them at fault. -/
def draw (given : Given) : Settings × List Setting := Setting.all.foldr (take given) ({}, [])

/-! ### What is made from settings -/

def catalogConfig (s : Settings) : CatalogConfig :=
  { maxCardinality := .int s.maxCardinality
    queryTimeout := .str s.queryTimeout
    maxResults := .int s.maxResults
    fallback := ⟨.bool s.fallbackOnException, .bool s.fallbackOnNoData⟩ }

/-- The cluster that settings describe. It is a process that opens it (`Settings.openCluster`). -/
def cluster (s : Settings) : Except Fault Cluster :=
  Cluster.ofHosts s.hosts.toList s.indexSuffix s.allIndex

end Settings

end SeriesCatalog
