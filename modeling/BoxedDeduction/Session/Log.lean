import BoxedDeduction.Proof.Undo
import BoxedDeduction.Text.Quoted

/-!
# The log

The log tells what each operation did to the proof and which commands failed.
An entry is derived from the proof before and after the operation, so the proof
itself keeps no log. Whether entries are written depends on the level of the log.
-/

namespace BoxedDeduction

/-- An entry of the log. -/
inductive LogEntry where
  /-- A line was added. -/
  | added (line : Line)
  /-- A scope was opened at a depth. -/
  | opened (depth : Nat)
  /-- A scope was folded into a closed box. -/
  | closed (index : Int) (box : Proposition)
  /-- A closed box was opened again. -/
  | reopened (index : Int)
  /-- A line was taken back. -/
  | undone (index : Int)
  /-- A command failed. -/
  | failed (command message : String)
  deriving DecidableEq

namespace LogEntry

/-- The part of the program that an entry comes from. -/
def source : LogEntry → String
  | .failed _ _ => "fitch.cli.session"
  | _ => "fitch.proofs.proof"

/-- What an entry says. -/
def message : LogEntry → String
  | .added line =>
    "step " ++ toString line.index ++ ": " ++ line.prop.print .signs ++ " (" ++
      line.reason.print .signs ++ ")"
  | .opened depth => "opened scope " ++ toString depth
  | .closed index box =>
    "closed scope into proof box " ++ toString index ++ ": " ++ box.print .signs
  | .reopened index => "reopened proof box " ++ toString index
  | .undone index => "undid step " ++ toString index
  | .failed command cause => "command " ++ Quoted.quote command ++ " failed: " ++ cause

/-- An entry as a line of the log. -/
def print (entry : LogEntry) : String := "DEBUG " ++ entry.source ++ ": " ++ entry.message ++ "\n"

/-- The entry for the line that a proof received last. -/
def ofLastLine (proof : Proof) : List LogEntry := (proof.current.last?.map LogEntry.added).toList

/-- The entry for the box that a proof closed last. -/
def ofLastBox (proof : Proof) : List LogEntry :=
  (proof.current.last?.map fun line => LogEntry.closed line.index line.prop).toList

/-- The entries for a successful operation on a proof. -/
def ofOperation (before after : Proof) : Operation → List LogEntry
  | .premise _ | .copy _ | .infer _ => ofLastLine after
  | .assume _ => .opened (after.depth - 1) :: ofLastLine after
  | .close => ofLastBox after
  | .undo =>
    if before.nextIndex = 1 then []
    else before.reopenedByUndo.map .reopened ++ [.undone after.nextIndex]

end LogEntry

/-- How much is written to the log. -/
inductive LogLevel where
  | critical
  | fatal
  | error
  | warn
  | warning
  | info
  | debug
  | notset
  deriving DecidableEq

namespace LogLevel

/-- All levels. -/
def all : List LogLevel := [.critical, .fatal, .error, .warn, .warning, .info, .debug, .notset]

/-- The name of a level. -/
def name : LogLevel → String
  | .critical => "CRITICAL"
  | .fatal => "FATAL"
  | .error => "ERROR"
  | .warn => "WARN"
  | .warning => "WARNING"
  | .info => "INFO"
  | .debug => "DEBUG"
  | .notset => "NOTSET"

/-- The level with a name. -/
def ofName? (name : String) : Option LogLevel := all.find? (·.name = name)

/-- Whether the entries of the log are written. -/
def writesEntries : LogLevel → Bool
  | .debug | .notset => true
  | _ => false

/-- The entries that a level writes. -/
def write (level : LogLevel) (entries : List LogEntry) : String :=
  if level.writesEntries then String.join (entries.map LogEntry.print) else ""

end LogLevel

end BoxedDeduction
