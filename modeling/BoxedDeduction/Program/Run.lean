import BoxedDeduction.Program.Arguments
import BoxedDeduction.Program.Conversation
import BoxedDeduction.Program.FileTree
import BoxedDeduction.Program.Script
import BoxedDeduction.Settings.Bundled
import BoxedDeduction.Settings.Reading
import BoxedDeduction.Text.LetterCase

/-!
# Runs of the program

A run reads the arguments, finds the settings, prepares the log and a session,
and then either runs a script or holds a conversation. Settings come from the
file that the arguments name, or else from the first file that exists among the
one that the environment names, one in the working directory and one in the
home directory; where none exists the bundled settings hold.
-/

namespace BoxedDeduction

/-- Why a run breaks off. -/
inductive RunFailure where
  /-- A directory stands where a file is to be read. -/
  | isDirectory
  /-- A path or a name on it is too long. -/
  | pathTooLong
  /-- The home directory is not known. -/
  | noHome
  /-- A file holds no settings. -/
  | unreadable (cause : NotationFault)
  /-- The arguments give a separator where a file is to be named. -/
  | noFileNamed
  /-- The settings name no level of the log. -/
  | unknownLevel
  /-- The settings give no width. -/
  | width (cause : WidthError)
  /-- A line cannot be answered. -/
  | breakdown (cause : Breakdown)
  deriving DecidableEq

/-- The message for a run that breaks off. -/
def RunFailure.message : RunFailure → String
  | .isDirectory => "A directory cannot be read as a file"
  | .pathTooLong => "A path is too long"
  | .noHome => "Could not determine home directory."
  | .unreadable cause => cause.message
  | .noFileNamed => "The arguments name no file"
  | .unknownLevel => "The settings name no level of the log"
  | .width _ => "The settings give no width"
  | .breakdown cause => cause.message

/-- Where settings were found. -/
inductive SettingsSource where
  /-- In the file at a path. -/
  | file (path : PathText)
  /-- Nowhere, so the bundled settings hold. -/
  | bundled
  deriving DecidableEq

/-- Settings and where they were found. -/
structure FoundSettings where
  /-- Where the settings were found. -/
  source : SettingsSource
  /-- The settings with references replaced. -/
  settings : Value

/-- What a run can see. -/
structure Surroundings where
  /-- What a path leads to. -/
  find : PathText → FileNode
  /-- The variables of the environment. -/
  environment : Environment
  /-- Which goodbye is said. -/
  chance : Fin 5
  /-- How much room there is for a column or a line of a drawing, if room is limited. -/
  room : Option Nat

namespace Surroundings

/-- Settings in a file, unless the path leads to nothing. -/
def readSettings? (surroundings : Surroundings) (path : PathText) :
    Except RunFailure (Option Value) :=
  match surroundings.find path with
  | .missing => .ok none
  | .directory => .error .isDirectory
  | .file content =>
    match Value.read content with
    | .ok stored => .ok (some (stored.load surroundings.environment))
    | .error cause => .error (.unreadable cause)
  | .tooLong => .error .pathTooLong

/-- The variable of the environment that names a file with settings. -/
def configVariable : String := "FITCH_CONFIG"

/-- The variable of the environment that names the home directory. -/
def homeVariable : String := "HOME"

/-- The home directory. Without the variable it is the working directory. Slashes at its end do not
count, and a tilde stands for no directory. -/
def home? (surroundings : Surroundings) : Option PathText :=
  match surroundings.environment.find? homeVariable with
  | none => some (.read "")
  | some named =>
    let bare := (named.toList.reverse.dropWhile (· = '/')).reverse
    if bare.head? = some '~' then none
    else some (.read (if bare = [] then "/" else String.ofList bare))

/-- The paths at which settings are looked for. -/
def configPaths? (surroundings : Surroundings) : Option (List PathText) := do
  let named := (surroundings.environment.find? configVariable).filter (· ≠ "")
  let home ← surroundings.home?
  return named.toList.map PathText.read ++
    [.read "configs/default.yaml", home.below [".fitch", "config.yaml"]]

/-- Settings from the first path that exists. A directory counts as existing. -/
def firstSettings (surroundings : Surroundings) : List PathText → Except RunFailure FoundSettings
  | [] => .ok ⟨.bundled, bundledSettings.load surroundings.environment⟩
  | path :: rest => do
    match ← surroundings.readSettings? path with
    | some settings => return ⟨.file path, settings⟩
    | none => surroundings.firstSettings rest

/-- The settings for a run without a choice of file. -/
def findSettings (surroundings : Surroundings) : Except RunFailure FoundSettings :=
  match surroundings.configPaths? with
  | some paths => surroundings.firstSettings paths
  | none => .error .noHome

end Surroundings

/-- What a run comes to. -/
inductive RunOutcome where
  /-- The program ends before it has begun. -/
  | exit (reason : EarlyExit)
  /-- The program ends with an exit code. -/
  | done (code : Nat) (screen : Screen)
  /-- The program breaks off. -/
  | failed (cause : RunFailure)
  deriving DecidableEq

/-- What the program does once its arguments and settings are known. -/
inductive Plan where
  /-- There is nothing left to do. -/
  | finished (outcome : RunOutcome)
  /-- A conversation follows, after a first text. -/
  | conversation (opening : String) (manner : Manner) (session : Session)

namespace Program

/-- How the program is called. -/
def usage : String :=
  "usage: fitch [-h] [--config CONFIG] [--script SCRIPT] [--no-greeting] [--verbose]"

/-- What is shown before a conversation. -/
def greeting : String := "Hi! I'm Fitch.
A command-line editor for natural deduction
proofs (for propositional logic).

Get started by typing a command, for example:
premise p & q
rule and_e_lhs 1
assume (p | q) -> -q
discharge
latex
help
quit
"

/-- The end of a run at a file that does not exist. -/
def missing (kind : String) (path : PathText) : RunOutcome :=
  .done 1 ⟨"", "Error: " ++ kind ++ " not found: " ++ path.print ++ "\n"⟩

/-- The level of the log. The name of a level counts in any case of letters. -/
def levelOf (choices : ProgramChoices) (settings : Value) : Except RunFailure LogLevel :=
  let named := (settings.get "logging.level" (.text "WARNING")).toText
  let name := if choices.verbose then "DEBUG" else LetterCase.upperToAscii named
  match LogLevel.ofName? name with
  | some level => .ok level
  | none => .error .unknownLevel

/-- The session that settings ask for, with the room that there is. -/
def sessionOf (surroundings : Surroundings) (settings : Value) : Except RunFailure Session :=
  match Session.start settings with
  | .ok session => .ok (session.withRoom surroundings.room)
  | .error cause => .error (.width cause)

/-- Run the script at a path. -/
def runScript (surroundings : Surroundings) (level : LogLevel) (session : Session)
    (path : PathText) : RunOutcome :=
  match surroundings.find path with
  | .missing => missing "File" path
  | .directory => .failed .isDirectory
  | .tooLong => .failed .pathTooLong
  | .file content =>
    match Script.runText level path.print session content with
    | .ok report => .done report.code report.screen
    | .error cause => .failed (.breakdown cause)

/-- The text before a conversation: the greeting, unless the arguments or the settings forbid it. -/
def opening (choices : ProgramChoices) (settings : Value) : String :=
  if (settings.get "repl.greeting" (.bool true)).isTruthy ∧ ¬choices.noGreeting then
    greeting ++ "\n"
  else ""

/-- Go on once the settings are known. -/
def planWith (surroundings : Surroundings) (choices : ProgramChoices) (settings : Value) : Plan :=
  match levelOf choices settings with
  | .error cause => .finished (.failed cause)
  | .ok level =>
    match sessionOf surroundings settings with
    | .error cause => .finished (.failed cause)
    | .ok session =>
      match choices.script with
      | some .separator => .finished (.failed .noFileNamed)
      | some (.path text) => .finished (runScript surroundings level session (PathText.read text))
      | none =>
        match Manner.ofSettings settings level surroundings.chance with
        | .ok manner => .conversation (opening choices settings) manner session
        | .error cause => .finished (.failed (.breakdown cause))

/-- Go on once the arguments are known. A file with settings that the arguments name must
exist. -/
def planFor (surroundings : Surroundings) (choices : ProgramChoices) : Plan :=
  match choices.config with
  | none =>
    match surroundings.findSettings with
    | .ok found => planWith surroundings choices found.settings
    | .error cause => .finished (.failed cause)
  | some .separator => .finished (.failed .noFileNamed)
  | some (.path text) =>
    let path := PathText.read text
    match surroundings.readSettings? path with
    | .ok (some settings) => planWith surroundings choices settings
    | .ok none => .finished (missing "Config" path)
    | .error cause => .finished (.failed cause)

/-- What the program does with given arguments. -/
def plan (surroundings : Surroundings) (arguments : List String) : Plan :=
  match ProgramChoices.read arguments with
  | .error exit => .finished (.exit exit)
  | .ok choices => planFor surroundings choices

/-- Run the program over the given events. -/
def run (surroundings : Surroundings) (arguments : List String) (events : List InputEvent) :
    RunOutcome :=
  match plan surroundings arguments with
  | .finished outcome => outcome
  | .conversation opening manner session =>
    match Conversation.hold manner session events with
    | .ok (screen, _) => .done 0 (⟨opening, ""⟩ ++ screen)
    | .error cause => .failed (.breakdown cause)

end Program

end BoxedDeduction
