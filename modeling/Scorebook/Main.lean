import Scorebook.Command.Session

/-!
# The program

The command line on a computer: files and variables are those of the process. A language model and a
database are reached through other programs; without them a session goes as far as its plan.
-/

namespace Scorebook

/-- What is found under the name of a file. -/
def readEntry (name : String) : IO FileEntry := do
  try
    return .text (← IO.FS.readFile name)
  catch
    | .noFileOrDirectory _ _ _ => return .absent
    | _ => return .unreadable

/-- The name of the file with events in a directory; the empty name stands for the present one. -/
def logFileIn (directory : String) : String :=
  if directory.isEmpty then logFileStem else directory ++ "/" ++ logFileStem

/-- Makes the file with events in a directory, and the directory with it, if that is possible. -/
def makeLogFile (directory : String) : IO Bool := do
  try
    if !directory.isEmpty then IO.FS.createDirAll directory
    IO.FS.withFile (logFileIn directory) .append fun _ => return true
  catch _ => return false

/-- The world of the process. -/
def processWorld : World IO where
  fileEntry := readEntry
  getVariable name := IO.getEnv name
  model _ _ := return .error (.failed "no connection to a language model")
  warehouse _ := return none
  canLogIn := makeLogFile

/-- The line of an event on the console. -/
def eventLine (format : LogFormat) (event : Event) : String :=
  match format with
  | .json => event.toJson.compact
  | _ =>
    " ".intercalate (event.level.name :: (event.target.path ++ ":") :: event.message
      :: event.fields.map fun (name, value) => name ++ "=" ++ value.compact)

end Scorebook

open Scorebook in
/-- Runs a session and reports it on the standard streams. -/
def main (args : List String) : IO UInt32 := do
  let report ← Session.run processWorld args
  let format := (report.journal.map JournalSettings.logFormat).getD .pretty
  for event in report.consoleEvents do
    IO.eprintln (eventLine format event)
  if let some directory := report.logDirectory? then
    IO.FS.withFile (logFileIn directory) .append fun handle =>
      for event in report.admittedEvents do
        handle.putStrLn (eventLine .compact event)
  IO.print report.output
  if let some complaint := report.complaint then
    IO.eprintln complaint
  if let some error := report.error then
    IO.eprintln ("Error: " ++ error)
  return report.exitCode.toUInt32
