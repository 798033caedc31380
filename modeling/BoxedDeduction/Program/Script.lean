import BoxedDeduction.Program.Screen

/-!
# Scripts

A script is a text whose lines are run one after the other. It stops at the
first error, which is reported with the number of its line, and after a line
that ends the session. Without an error the proof is drawn at the end.
-/

namespace BoxedDeduction

/-- How a script ends. -/
structure ScriptReport where
  /-- The exit code. -/
  code : Nat
  /-- What the script writes. -/
  screen : Screen
  /-- The session afterwards. -/
  session : Session

namespace Script

/-- The lines of a text. A line ends with a line feed, a carriage return, or both in a row. -/
def splitLines (line : List Char) : List Char → List String
  | [] => if line.isEmpty then [] else [String.ofList line.reverse]
  | '\r' :: '\n' :: rest => String.ofList line.reverse :: splitLines [] rest
  | '\r' :: rest => String.ofList line.reverse :: splitLines [] rest
  | '\n' :: rest => String.ofList line.reverse :: splitLines [] rest
  | c :: rest => splitLines (c :: line) rest

/-- The lines of a script. -/
def lines (text : String) : List String := splitLines [] text.toList

/-- The report on an error in a line. -/
def complaint (path : String) (number : Nat) (message : String) : String :=
  path ++ ":" ++ toString number ++ ": " ++ message ++ "\n"

/-- The report on a script without an error. -/
def finalReport (session : Session) : Except Breakdown ScriptReport :=
  match session.display with
  | .ok text => .ok ⟨0, ⟨text ++ "\n", ""⟩, session⟩
  | .error cause => .error (.drawing cause)

/-- Run lines, of which the first has a number. -/
def run (level : LogLevel) (path : String) (number : Nat) (session : Session) :
    List String → Except Breakdown ScriptReport
  | [] => finalReport session
  | line :: rest =>
    let report := session.runLine line
    let log : Screen := ⟨"", level.write report.log⟩
    match report.outcome with
    | .error breakdown => .error breakdown
    | .ok response =>
      if response.isError then
        .ok ⟨1, log ++ ⟨"", complaint path number response.output⟩, report.session⟩
      else if report.session.finished then
        (finalReport report.session).map fun last => { last with screen := log ++ last.screen }
      else
        (run level path (number + 1) report.session rest).map fun later =>
          { later with screen := log ++ later.screen }

/-- Run the text of a script. -/
def runText (level : LogLevel) (path : String) (session : Session) (text : String) :
    Except Breakdown ScriptReport :=
  run level path 1 session (lines text)

end Script

end BoxedDeduction
