import MetricRelay.Config.Decoder
import MetricRelay.Config.Environment
import MetricRelay.Config.Json
import MetricRelay.Config.Yaml

/-!
# Layered configuration

A configuration is put together from layers, each laid over the ones before it, with defaults
below all others whenever they are added.  Lists are the exception: the list of a later layer is
put behind that of an earlier one.

`Layers.merged` gives the `Settings`, which answer queries by key.  A key is a path of names
separated by points.  A value that is not there is told apart from one that cannot be read, and
the message about it names the environment variables that would set it.
-/

namespace MetricRelay

/-- Why a configuration could not be loaded or queried. -/
inductive ConfigError where
  | emptyPrefix
  /-- A field that is not there, with the variables that would set it. -/
  | missingField (field : String) (setters : List String)
  | invalidFieldType (field expected found : String)
  | file (path : String)
  | generic
  /-- A variable that cannot be set, or whose text is cut within a character. -/
  | brokenVariable (name : String)
deriving DecidableEq, Repr

def ConfigError.message : ConfigError → String
  | .emptyPrefix => "Environment variable prefix must not be empty."
  | .missingField field setters =>
    s!"Missing field '{field}' in configuration. Try setting `" ++
      "` or `".intercalate (field :: setters) ++ "`."
  | .invalidFieldType field expected found =>
    s!"Expected value for field '{field}' to be '{expected}', got '{found}' instead."
  | .file path => s!"Failed to load configuration file '{path}'."
  | .generic => "Failed to query configuration."
  | .brokenVariable name => s!"Broken environment variable '{name}'."

/-- The layers of a configuration. -/
structure Layers where
  /-- The values of the layers, the lowest one first. -/
  values : List Config := []
  /-- The stems of the environment variables that were looked up. -/
  stems : List String := []

namespace Layers

/-- Adds a layer above the others. -/
def add (l : Layers) (c : Config) : Layers := { l with values := l.values ++ [c] }

/-- Adds the content of a file, which has to be readable. -/
def addFile (l : Layers) (path : String) : Option Config → Except ConfigError Layers
  | none => .error (.file path)
  | some c => .ok (l.add c)

/-- Adds the content of a file if it is readable. -/
def addReadable (l : Layers) : Option Config → Layers
  | none => l
  | some c => l.add c

/-- Adds the variables that start with a word, in the environment that the settings make. -/
def addEnvironment (l : Layers) (word : String) (settings : List (String × String)) :
    Except ConfigError Layers :=
  match settings.find? fun (name, text) => !Environment.isVariable name text with
  | some (name, _) => .error (.brokenVariable name)
  | none =>
    if word.isEmpty then .error .emptyPrefix
    else
      let stem := Environment.stem word
      match Environment.layer stem (Environment.ofSettings settings) with
      | .error name => .error (.brokenVariable name)
      | .ok c =>
        let l := l.add c
        .ok { l with stems := if l.stems.contains stem then l.stems else l.stems ++ [stem] }

/-- Adds defaults below all other layers. -/
def addDefaults (l : Layers) (c : Config) : Layers := { l with values := c :: l.values }

end Layers

/-- A merged configuration. -/
structure Settings where
  /-- The whole configuration, unless some layer is no table. -/
  root : Except FieldError Config
  stems : List String

/-- The settings that the layers make up. -/
def Layers.merged (l : Layers) : Settings where
  root :=
    match l.values.find? (fun | .table _ => false | _ => true) with
    | some c => Decoder.mismatch "map" c
    | none => .ok (l.values.foldl (Config.overlay .append) (.table []))
  stems := l.stems

namespace Settings

variable {α : Type}

/-- The error for the user, about a value found under a key. -/
def explain (s : Settings) (key : String) : FieldError → ConfigError
  | .missing field => .missingField field (s.stems.map (Environment.variableFor · field))
  | .mismatch path expected found =>
    .invalidFieldType (".".intercalate (path ++ (Config.namesOfKey key).filter (· != "")))
      expected found
  | .rejected => .generic

/-- The reading of a result, with errors for the user. -/
def answer (s : Settings) (key : String) : Except FieldError α → Except ConfigError α
  | .ok a => .ok a
  | .error e => .error (s.explain key e)

/-- The value under a key. -/
def get (s : Settings) (read : Decoder α) (key : String) : Except ConfigError α :=
  match s.root with
  | .error e => .error (s.explain "" e)
  | .ok root =>
    match root.at? (Config.pathOfKey key) with
    | none => .error (s.explain key (.missing key))
    | some c => s.answer key (read c)

/-- The value under a key, if there is one. -/
def tryGet (s : Settings) (read : Decoder α) (key : String) : Except ConfigError (Option α) :=
  match s.get read key with
  | .ok a => .ok (some a)
  | .error (.missingField _ _) => .ok none
  | .error e => .error e

/-- The whole configuration as one value. -/
def whole (s : Settings) (read : Decoder α) : Except ConfigError α :=
  s.answer "" (s.root >>= read)

end Settings

end MetricRelay
