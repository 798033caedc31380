import BoxedDeduction.Command.Reading
import BoxedDeduction.Proof.Citations
import BoxedDeduction.Rendering.Frames
import BoxedDeduction.Rendering.Typeset
import BoxedDeduction.Session.Help
import BoxedDeduction.Session.Log
import BoxedDeduction.Settings.Value

/-!
# Sessions

A session works on one proof, line by line. Each line gets a response: the text
to show, or the message of an error. Blank lines and comments get an empty
response. Some failures are not answered but end the work: an index with more
digits than are read, a proof in a state that does not allow the operation, a
proof that cannot be drawn, and a prompt that cannot be written. Formulas and
boxes may be nested to any depth: the depth of calls is not limited. Nor is the
room for a drawing, unless a session is given a limit.
-/

namespace BoxedDeduction

/-- The answer to one line. -/
structure Response where
  /-- The text to show. -/
  output : String := ""
  /-- Whether the text is the message of an error. -/
  isError : Bool := false
  deriving DecidableEq

/-- Why a command cannot be carried out. -/
inductive SessionError where
  /-- The line is not a command. -/
  | command (cause : CommandError)
  /-- The proof refuses the operation. -/
  | proof (cause : ProofError)
  /-- The proof cannot be typeset. -/
  | unclosed (cause : UnclosedBoxes)
  /-- There is no rule to explain. -/
  | topic (cause : RuleCallError)
  /-- The proof cannot be drawn. -/
  | drawing (cause : DrawingFault)
  deriving DecidableEq

/-- The message for a command that cannot be carried out. -/
def SessionError.message : SessionError → String
  | .command cause => cause.message
  | .proof cause => cause.message
  | .unclosed cause => cause.message
  | .topic cause => cause.message
  | .drawing cause => cause.message

/-- A failure that gets no response. -/
inductive Breakdown where
  /-- An index has more digits than are read. -/
  | indexTooLong
  /-- The state of the proof does not allow the operation. -/
  | fault (cause : StateFault)
  /-- The proof cannot be drawn. -/
  | drawing (cause : DrawingFault)
  /-- A number in the prompt has more digits than are written. -/
  | promptTooLong
  deriving DecidableEq

/-- The message for a failure without response. -/
def Breakdown.message : Breakdown → String
  | .indexTooLong => CommandError.indexTooLong.message
  | .fault cause => cause.message
  | .drawing cause => cause.message
  | .promptTooLong => "A number in the prompt is too long"

/-- The failure without response that an error amounts to, if it does. -/
def SessionError.breakdown? : SessionError → Option Breakdown
  | .command .indexTooLong => some .indexTooLong
  | .proof (.fault cause) => some (.fault cause)
  | .drawing cause => some (.drawing cause)
  | _ => none

/-- One proof with the settings for working on it. -/
structure Session where
  /-- The settings. -/
  settings : Value
  /-- The proof. -/
  proof : Proof
  /-- Whether the session has been ended. -/
  finished : Bool
  /-- How the proof is drawn. -/
  layout : FrameLayout

/-- What became of a line. -/
structure LineReport where
  /-- The session afterwards. -/
  session : Session
  /-- The response, or the failure that prevents one. -/
  outcome : Except Breakdown Response
  /-- The entries for the log. -/
  log : List LogEntry

namespace Session

/-- A session on a fresh proof. The settings give the width of the drawing and the choice of
signs. -/
def start (settings : Value) : Except WidthError Session := do
  let width ← (settings.get "display.width" (.int 70)).toInt
  let useSigns := (settings.get "display.unicode" (.bool true)).isTruthy
  let table := if useSigns then Connectives.signs else .keyboard
  return ⟨settings, .fresh, false, ⟨.whole width, table, none⟩⟩

/-- A session with as much room for its drawings as is given. -/
def withRoom (session : Session) (room : Option Nat) : Session :=
  { session with layout := { session.layout with room := room } }

/-- A text without the line feeds at its end. -/
def withoutFinalFeeds (text : String) : String :=
  String.ofList (text.toList.reverse.dropWhile (· = '\n')).reverse

/-- The drawn proof, without the line feed of its last row. -/
def display (session : Session) : Except DrawingFault String := do
  match ← session.proof.frameRows session.layout with
  | [] => return "The proof is empty"
  | rows => return "\n".intercalate rows

/-- The drawn proof as the answer to a command. -/
def displayAnswer (session : Session) : Except SessionError String :=
  session.display.mapError .drawing

/-- What is shown after a command that changes the proof. -/
def displayAfterChange (session : Session) : Except SessionError String :=
  if (session.settings.get "repl.show_after_command" (.bool true)).isTruthy then
    session.displayAnswer
  else .ok ""

/-- The typeset proof. -/
def typeset (session : Session) : Except SessionError String :=
  match session.proof.typeset (session.settings.get "latex.preamble" (.bool true)).isTruthy with
  | .ok text => .ok (withoutFinalFeeds text)
  | .error cause => .error (.unclosed cause)

/-- The report on unused premises. -/
def unusedReport (session : Session) : String :=
  match session.proof.unusedPremises with
  | [] => "Every premise is used"
  | unused => "Unused premises: " ++ ", ".intercalate (unused.map toString)

/-- The help on a topic that a register of rules gives. -/
def helpFrom (book : Rulebook) : Option String → Except SessionError String
  | none => .ok (Help.overview book)
  | some topic =>
    match book.resolve topic with
    | .ok entry => .ok (Help.ofRule entry)
    | .error cause => .error (.topic cause)

/-- The help on a topic. -/
def help (topic : Option String) : Except SessionError String :=
  helpFrom .standard topic

/-- Carry out a command. The result is the session afterwards, the text to show or what
prevents the command, and the entries for the log. -/
def execute (session : Session) :
    Command → Session × Except SessionError String × List LogEntry
  | .change operation =>
    match session.proof.perform operation with
    | (proof, .ok index) =>
      let next := { session with proof := proof }
      let shown :=
        if operation = .undo ∧ index = none then .ok "Nothing to undo" else next.displayAfterChange
      (next, shown, LogEntry.ofOperation session.proof proof operation)
    | (proof, .error cause) => ({ session with proof := proof }, .error (.proof cause), [])
  | .display => (session, session.displayAnswer, [])
  | .typeset => (session, session.typeset, [])
  | .unused => (session, .ok session.unusedReport, [])
  | .help topic => (session, help topic, [])
  | .quit => ({ session with finished := true }, .ok "", [])

/-- Turn the result of a command line into a report. -/
def report (line : String) : Session × Except SessionError String × List LogEntry → LineReport
  | (session, .ok text, log) => ⟨session, .ok ⟨text, false⟩, log⟩
  | (session, .error cause, log) =>
    match cause.breakdown? with
    | some breakdown => ⟨session, .error breakdown, log⟩
    | none =>
      ⟨session, .ok ⟨"Error: " ++ cause.message, true⟩, log ++ [.failed line cause.message]⟩

/-- Work on one line. -/
def runLine (session : Session) (text : String) : LineReport :=
  let line := Blank.strip text
  if line = "" ∨ line.toList.head? = some '#' then ⟨session, .ok {}, []⟩
  else
    match Command.read line with
    | .ok command => report line (session.execute command)
    | .error cause => report line (session, .error (.command cause), [])

end Session

end BoxedDeduction
