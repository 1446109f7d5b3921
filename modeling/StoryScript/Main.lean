import StoryScript.Server.Exchange
import StoryScript.Server.Surface

/-!
# Command line

Starts the server from the environment and the file `.env` in the working directory, and
answers calls line by line. Log lines go to standard error.
-/

open StoryScript

/-- The variables that settings can be read from, in the two usual spellings. -/
def settingVariables : List String :=
  Settings.names.flatMap fun name => [name.toUpper, name]

def readEnvironment : IO (List (String × String)) :=
  settingVariables.filterMapM fun name => do
    return (← IO.getEnv name).map fun value => (name, value)

def readEnvironmentFile : IO String := do
  try IO.FS.readFile ".env" catch _ => return ""

def writeLog {α : Type} (threshold : LogLevel) (l : Logged α) : IO Unit :=
  (l.lines threshold).forM IO.eprintln

partial def answerLines (server : Server) (input : IO.FS.Stream) : IO Unit := do
  let line ← input.getLine
  unless line.isEmpty do
    let answer := server.answerLine line
    writeLog server.threshold answer
    IO.println answer.value
    answerLines server input

def main : IO UInt32 := do
  let file := EnvironmentFile.entries (← readEnvironmentFile)
  match Server.launch ⟨[], ← readEnvironment, file⟩ with
  | .error e =>
    IO.eprintln e.message
    return 1
  | .ok started =>
    writeLog started.value.threshold started
    answerLines started.value (← IO.getStdin)
    return 0
