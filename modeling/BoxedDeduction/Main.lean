import BoxedDeduction.Program.Run

/-!
# The command line

The program reads the files that its arguments may lead to, lets the library
decide what to do, and carries on a conversation on the console if one follows.
-/

namespace BoxedDeduction.Console

/-- The content of a file, if it can be read. -/
def readContent? (path : String) : IO (Option String) := do
  try return some (← IO.FS.readFile path)
  catch _ => return none

/-- The variables with given names, as far as they are set. -/
def lookUpAll (names : List String) : IO Environment :=
  names.filterMapM fun name => do return (← IO.getEnv name).map fun content => (name, content)

/-- What the program can see: the files that it may need, the variables that they refer to, and the
goodbye that chance has chosen. -/
def look (choices : ProgramChoices) : IO Surroundings := do
  let own ← lookUpAll [Surroundings.configVariable, Surroundings.homeVariable]
  let named := (choices.config.toList ++ choices.script.toList).filterMap FileChoice.path?
  let searched := Surroundings.configPaths? ⟨fun _ => .missing, own, 0, none⟩
  let files ← (named.map PathText.read ++ searched.getD []).filterMapM fun path => do
    return (← readContent? path.print).map fun content => (path.print, content)
  let texts := bundledLevel :: files.map Prod.snd
  let referred ← lookUpAll (texts.flatMap fun text => referencedNames text.toList)
  let chance ← IO.rand 0 4
  return ⟨fun path => ((files.lookup path.print).map FileNode.file).getD .missing,
    own ++ referred, Fin.ofNat 5 chance, none⟩

/-- Write to the two streams of the console. -/
def put (screen : Screen) : IO Unit := do
  IO.print screen.out
  IO.eprint screen.err
  (← IO.getStdout).flush

/-- Carry on a conversation until it ends. -/
partial def talk (input : IO.FS.Stream) (manner : Manner) (session : Session) : IO UInt32 := do
  if session.finished then
    put (Conversation.farewell manner)
    return 0
  put ⟨manner.prompt, ""⟩
  let line ← input.getLine
  if line.isEmpty then
    put (⟨"\n", ""⟩ ++ Conversation.farewell manner)
    return 0
  match Conversation.answer manner session line with
  | .ok (screen, next) =>
    put screen
    talk input manner next
  | .error cause =>
    IO.eprintln cause.message
    return 1

end BoxedDeduction.Console

open BoxedDeduction Console in
/-- Run the program. -/
def main (arguments : List String) : IO UInt32 := do
  let choices := (ProgramChoices.read arguments).toOption.getD {}
  match Program.plan (← look choices) arguments with
  | .finished (.exit reason) =>
    if reason = .helpShown then IO.println Program.usage else IO.eprintln Program.usage
    return reason.code.toUInt32
  | .finished (.done code screen) =>
    put screen
    return code.toUInt32
  | .finished (.failed cause) =>
    IO.eprintln cause.message
    return 1
  | .conversation opening manner session =>
    put ⟨opening, ""⟩
    talk (← IO.getStdin) manner session
