import StoryScript.Checker
import StoryScript.Json.Decoded
import StoryScript.EnvironmentFile

/-!
# Settings

The configuration of the validator and its server. A setting is taken from the first
source that gives it: values handed over by the caller, then environment variables,
then the environment file, then the default. Names are compared without regard to case:
of several spellings the caller's first one counts, and the last one of a variable. Only the
value that is taken is looked at.
-/

namespace StoryScript

structure Settings where
  logLevel : String := "INFO"
  diagnosticSource : String := Diagnostic.defaultSource
  maxScriptSize : Int := defaultMaxScriptSize
  transport : String := "stdio"
  serverHost : String := "localhost"
  serverPort : Int := 9000
  deriving DecidableEq, Repr

/-- Where settings come from, most important first. -/
structure SettingSources where
  given : List (String × Json) := []
  environment : List (String × String) := []
  file : List (String × String) := []

namespace SettingSources

/-- The value of the last variable whose name in lower case is the one given. -/
def valueOf? (entries : List (String × String)) (name : String) : Option String :=
  (entries.reverse.find? fun (key, _) => key.toLower = name).map (·.2)

/-- The first value given for a name in any case. -/
def given? (sources : SettingSources) (name : String) : Option Json :=
  (sources.given.find? fun (key, _) => key.toLower = name).map (·.2)

/-- What the sources say about a setting. -/
def value? (sources : SettingSources) (name : String) : Option Json :=
  sources.given? name <|>
    ((valueOf? sources.environment name <|> valueOf? sources.file name).map Json.string)

def setting {α : Type} (sources : SettingSources) (name : String) (default : α)
    (decode : Json → Decoded α) : Decoded α :=
  match sources.value? name with
  | some value => (decode value).under (.field name)
  | none => .ok default

end SettingSources

namespace Settings

/-- The names of the settings, in the order in which they are checked. -/
def names : List String :=
  ["log_level", "diagnostic_source", "max_script_size", "mcp_transport", "mcp_server_host",
    "mcp_server_port"]

def load (sources : SettingSources) : Decoded Settings :=
  let default : Settings := {}
  ((sources.setting "log_level" default.logLevel Json.toText).both
    ((sources.setting "diagnostic_source" default.diagnosticSource Json.toText).both
      ((sources.setting "max_script_size" default.maxScriptSize Json.toInteger).both
        ((sources.setting "mcp_transport" default.transport Json.toText).both
          ((sources.setting "mcp_server_host" default.serverHost Json.toText).both
            (sources.setting "mcp_server_port" default.serverPort Json.toInteger)))))).map
              fun (logLevel, diagnosticSource, maxScriptSize, transport, serverHost, serverPort) =>
                ⟨logLevel, diagnosticSource, maxScriptSize, transport, serverHost, serverPort⟩

def toJson (s : Settings) : Json :=
  .object [("log_level", .string s.logLevel), ("diagnostic_source", .string s.diagnosticSource),
    ("max_script_size", .int s.maxScriptSize), ("mcp_transport", .string s.transport),
    ("mcp_server_host", .string s.serverHost), ("mcp_server_port", .int s.serverPort)]

/-- The checker that the settings describe. -/
def checker (s : Settings) : Checker := ⟨s.maxScriptSize, s.diagnosticSource⟩

end Settings

end StoryScript
