import StoryScript.Json.Parser
import StoryScript.Server

/-!
# Calls and answers in JSON

Over standard input and output a call is a JSON object on a line of its own: the member
`call` names it and `script` holds the text to validate, if any. The answer is a JSON object
with the member `result`, or with `error` when the script was rejected or the line was no
call.
-/

namespace StoryScript

namespace Call

def ofJson? : Json → Option Call
  | .object members =>
    match Json.member? members "call" with
    | some (.string name) =>
      match Json.member? members "script" with
      | some (.string script) => ofName? name script
      | _ => ofName? name ""
    | _ => none
  | _ => none

def ofLine? (line : String) : Option Call := (Json.parse? line).bind ofJson?

end Call

namespace Server

def resultJson : Except Rejection String → Json
  | .ok text => .object [("result", .string text)]
  | .error rejection => .object [("error", .string rejection.message)]

/-- Answers a line: the text to write back, with the records of the call. -/
def answerLine (server : Server) (line : String) : Logged String :=
  match Call.ofLine? line with
  | some call =>
    let answered := server.answer call
    ⟨answered.records, Json.print .compact (resultJson answered.value)⟩
  | none => ⟨[], Json.print .compact (.object [("error", .string "Unknown call")])⟩

end Server

end StoryScript
