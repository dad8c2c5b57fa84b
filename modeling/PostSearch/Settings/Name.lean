import PostSearch.Query.Parse
import PostSearch.Search.Compile

/-! # Names of settings

There are eleven settings. Their names share one space with the names of the actions on settings,
and with the names of what settings are made of: a value may be stored under the name of an action,
and then stands in the action's place. All other names mean nothing. -/

namespace PostSearch.Settings

/-- A setting. -/
inductive Field where
  /-- Where the database is. -/
  | databaseUrl
  /-- Show statements as they are run. -/
  | databaseEcho
  | poolSize
  /-- Seconds until connecting is given up. -/
  | timeout
  /-- Length of the shortest word that a star may follow. -/
  | minStem
  | maxComplexity
  | textSearchConfig
  /-- Most results on a page. -/
  | limit
  | sort
  | outputFormat
  | logLevel
deriving DecidableEq, Repr

namespace Field

def all : List Field :=
  [.databaseUrl, .databaseEcho, .poolSize, .timeout, .minStem, .maxComplexity, .textSearchConfig,
    .limit, .sort, .outputFormat, .logLevel]

def name : Field → String
  | .databaseUrl => "database_url"
  | .databaseEcho => "database_echo"
  | .poolSize => "connection_pool_size"
  | .timeout => "connection_timeout"
  | .minStem => "min_prefix_length"
  | .maxComplexity => "max_query_complexity"
  | .textSearchConfig => "text_search_config"
  | .limit => "default_limit"
  | .sort => "default_sort"
  | .outputFormat => "output_format"
  | .logLevel => "log_level"

/-- The value that holds if nothing else was settled. -/
def standard : Field → Datum
  | .databaseUrl => .text "postgresql+psycopg2://localhost/freefeed"
  | .databaseEcho => .flag false
  | .poolSize => .number 5
  | .timeout => .number 30
  | .minStem => .number Query.defaultMinStem
  | .maxComplexity => .number Search.Options.defaultMaxComplexity
  | .textSearchConfig => .text Search.Options.defaultTextSearchConfig
  | .limit => .number Search.Options.defaultLimit
  | .sort => .text Search.Options.defaultSort
  | .outputFormat => .text "table"
  | .logLevel => .text "WARNING"

end Field

/-- What is done to settings. -/
inductive Action where
  /-- Gather the settings. -/
  | load
  /-- Write the settings to a file. -/
  | save
  /-- Take over what a file says. -/
  | merge
  /-- Read a file. -/
  | readFile
  /-- Take over what the environment says. -/
  | applyEnvironment
deriving DecidableEq, Repr

namespace Action

def all : List Action :=
  [.load, .save, .merge, .readFile, .applyEnvironment]

def name : Action → String
  | .load => "load"
  | .save => "save"
  | .merge => "_merge"
  | .readFile => "_load_toml"
  | .applyEnvironment => "_apply_env_vars"

end Action

/-! ### Inner names -/

/-- Names of what settings are made of. They are known from the start, and most of them are free to
store values under. -/
def innerNames : List String :=
  ["__annotations__", "__class__", "__dataclass_fields__", "__dataclass_params__", "__delattr__",
    "__dict__", "__dir__", "__doc__", "__eq__", "__format__", "__ge__", "__getattribute__",
    "__getstate__", "__gt__", "__hash__", "__init__", "__init_subclass__", "__le__", "__lt__",
    "__match_args__", "__module__", "__ne__", "__new__", "__reduce__", "__reduce_ex__", "__repr__",
    "__setattr__", "__sizeof__", "__str__", "__subclasshook__", "__weakref__"]

/-- The name of the kind of settings, which stays as it is. -/
def kindKey : String := "__class__"

/-- The name of everything that is stored, as a table. -/
def contentsKey : String := "__dict__"

/-- The name of what refers to the settings, which cannot be written. -/
def referencesKey : String := "__weakref__"

/-- The name of the list of fields. -/
def fieldsKey : String := "__dataclass_fields__"

/-- The inner names under which no value is stored. -/
def sealedNames : List String :=
  [kindKey, contentsKey, referencesKey]

/-- The name is one of those that settings know from the start. -/
def isKnown (name : String) : Bool :=
  Field.all.any (·.name = name) || Action.all.any (·.name = name) || innerNames.contains name

theorem isKnown_fieldName (f : Field) : isKnown f.name = true := by
  cases f <;> decide

/-- The field of a name, if it is the name of one. -/
def Field.ofName? (name : String) : Option Field :=
  Field.all.find? (·.name = name)

theorem Field.ofName?_name (f : Field) : Field.ofName? f.name = some f := by
  cases f <;> decide

end PostSearch.Settings
