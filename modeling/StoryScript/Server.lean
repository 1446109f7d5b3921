import StoryScript.Reference
import StoryScript.Settings
import StoryScript.Summary
import StoryScript.Text.Quoted
import StoryScript.Text.Uppercase

/-!
# The server

The server offers the validator as tools, together with its documentation. It is launched
from settings and answers calls one by one; nothing is kept between calls.
-/

namespace StoryScript

/-- What a caller can ask for. -/
inductive Call where
  | validateScript (script : String)
  | validateScriptJson (script : String)
  | listKeywords
  | getKeywordReference
  | keywordReference
  | writeScript
  deriving DecidableEq, Repr

namespace Call

/-- Finds a call by its name; validation takes a script with it. -/
def ofName? (name script : String) : Option Call :=
  match name with
  | "validate_script" => some (.validateScript script)
  | "validate_script_json" => some (.validateScriptJson script)
  | "list_keywords" => some .listKeywords
  | "get_keyword_reference" => some .getKeywordReference
  | "keyword_reference" => some .keywordReference
  | "write_script" => some .writeScript
  | _ => none

end Call

/-- Where the server listens. -/
inductive Endpoint where
  | stdio
  | network (transport serverHost : String) (serverPort : Int) (logLevel : String)
  deriving DecidableEq, Repr

/-- Why the server does not start. -/
inductive LaunchError where
  | settings (faults : List Fault)
  | unknownLevel (name : String)
  deriving DecidableEq, Repr

/-- Names the settings at fault, or the level that does not exist. -/
def LaunchError.message : LaunchError → String
  | .settings faults =>
    "Invalid settings: " ++ ", ".intercalate (faults.map fun f =>
      ".".intercalate (f.path.map PathStep.text))
  | .unknownLevel name => "Unknown level: " ++ quoted name

structure Server where
  checker : Checker
  threshold : LogLevel
  endpoint : Endpoint
  deriving DecidableEq, Repr

namespace Server

def name : String := "vnscript Validator"

def version : String := "0.3.0"

def info (message : String) : LogRecord := ⟨.info, .server, message⟩

/-- The endpoint that the settings describe. -/
def endpointOf (s : Settings) : Endpoint :=
  if s.transport = "stdio" then .stdio
  else .network s.transport s.serverHost s.serverPort s.logLevel.toLower

def startRecord (s : Settings) : LogRecord :=
  info ("vnscript MCP Server v" ++ version ++ " starting (transport=" ++ s.transport ++ ")")

/-- Starts the server; the settings are looked at before the log level is. -/
def launch (sources : SettingSources) : Except LaunchError (Logged Server) :=
  match Settings.load sources with
  | .error faults => .error (.settings faults)
  | .ok settings =>
    let level := upper settings.logLevel
    match LogLevel.ofName? level with
    | none => .error (.unknownLevel level)
    | some threshold =>
      .ok ⟨[startRecord settings], ⟨settings.checker, threshold, endpointOf settings⟩⟩

/-- Checks a script for the tool of the given name and writes its report. -/
def runTool (server : Server) (tool script : String) (write : Report → String) :
    Logged (Except Rejection String) :=
  let called := info (tool ++ " called (script length=" ++ script.length.repr ++ ")")
  match server.checker.check script with
  | ⟨records, .ok report⟩ => ⟨called :: records, .ok (write report)⟩
  | ⟨records, .error rejection⟩ =>
    ⟨called :: records ++ [⟨.warning, .server, "script rejected: " ++ rejection.message⟩],
      .error rejection⟩

def answer (server : Server) : Call → Logged (Except Rejection String)
  | .validateScript script => server.runTool "validate_script" script Report.toText
  | .validateScriptJson script => server.runTool "validate_script_json" script Report.toJsonText
  | .listKeywords => ⟨[], .ok Reference.keywordList⟩
  | .getKeywordReference => ⟨[], .ok Reference.text⟩
  | .keywordReference => ⟨[], .ok Reference.text⟩
  | .writeScript => ⟨[], .ok Reference.writingGuide⟩

end Server

end StoryScript
