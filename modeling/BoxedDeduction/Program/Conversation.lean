import BoxedDeduction.Program.Screen

/-!
# Conversations

In a conversation the program prompts for lines and answers each. It ends when
a line ends the session, or when the input ends or is interrupted; then the
program says goodbye in one of several ways, which is left to chance.
-/

namespace BoxedDeduction

/-- What the user does at a prompt. -/
inductive InputEvent where
  /-- Enter a line. -/
  | line (text : String)
  /-- Interrupt the program. -/
  | interrupt
  deriving DecidableEq

/-- The ways to say goodbye. -/
def goodbyes : Fin 5 → String
  | 0 => "Bye!"
  | 1 => "See you later!"
  | 2 => "Have a nice day!"
  | 3 => "See you soon!"
  | 4 => "See you next time!"

/-- How a conversation is held. -/
structure Manner where
  /-- The text of the prompt. -/
  prompt : String
  /-- Whether the screen is cleared before an answer. -/
  clears : Bool
  /-- What is written to the log. -/
  level : LogLevel
  /-- What is said at the end. -/
  goodbye : String

namespace Manner

/-- The manner that settings ask for, if the prompt can be written. Which goodbye is said does not
depend on the settings. -/
def ofSettings (settings : Value) (level : LogLevel) (chance : Fin 5) : Except Breakdown Manner :=
  let prompt := settings.get "repl.prompt" (.text "fitch> ")
  if prompt.isPrintable then
    .ok ⟨prompt.toText, (settings.get "display.clear_screen" (.bool false)).isTruthy, level,
      goodbyes chance⟩
  else .error .promptTooLong

/-- The sequence that clears the screen and moves to its first place. -/
def clearing : String := "\x1b[2J\x1b[H"

end Manner

namespace Conversation

/-- What is shown when a session has ended. -/
def farewell (manner : Manner) : Screen := ⟨manner.goodbye ++ "\n", ""⟩

/-- How a response is shown. An empty answer shows nothing. -/
def shown (manner : Manner) (response : Response) : Screen :=
  if response.isError then ⟨"", response.output ++ "\n"⟩
  else if response.output = "" then {}
  else ⟨(if manner.clears then Manner.clearing else "") ++ response.output ++ "\n", ""⟩

/-- Answer one line. -/
def answer (manner : Manner) (session : Session) (text : String) :
    Except Breakdown (Screen × Session) :=
  let report := session.runLine text
  match report.outcome with
  | .ok response =>
    .ok (⟨"", manner.level.write report.log⟩ ++ shown manner response, report.session)
  | .error breakdown => .error breakdown

/-- The end of a conversation at a prompt. -/
def leave (manner : Manner) : Screen := ⟨manner.prompt ++ "\n", ""⟩ ++ farewell manner

/-- Hold a conversation over the given events. A session that has ended reads no further. -/
def hold (manner : Manner) (session : Session) :
    List InputEvent → Except Breakdown (Screen × Session)
  | .line text :: rest =>
    if session.finished then .ok (farewell manner, session)
    else
      match answer manner session text with
      | .error breakdown => .error breakdown
      | .ok (screen, next) =>
        match hold manner next rest with
        | .error breakdown => .error breakdown
        | .ok (later, last) => .ok (⟨manner.prompt, ""⟩ ++ screen ++ later, last)
  | _ => .ok (if session.finished then farewell manner else leave manner, session)

end Conversation

end BoxedDeduction
