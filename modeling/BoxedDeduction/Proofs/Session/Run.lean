import BoxedDeduction.Proofs.Command.Writing
import BoxedDeduction.Proofs.Proof.Rebuilding
import BoxedDeduction.Session.Basic

/-!
# Runs of sessions

A session works on lines one after the other. A line performs one operation that can be written
or leaves the proof alone, whether it is answered or not, so whatever lines a session is given, its
proof could have grown without undoing, and the operations that rebuild it can be written.
-/

namespace BoxedDeduction

/-- An operation that can be written assumes no box. -/
theorem Operation.IsWritable.assumesBox {operation : Operation} (h : operation.IsWritable) :
    operation.assumesBox = false := by
  cases operation with
  | assume prop =>
    have hf : prop.isFormula = true := h.1
    cases prop with
    | box steps =>
      rw [Proposition.isFormula] at hf
      cases hf
    | _ => rfl
  | _ => rfl

namespace Session

/-- The session after lines, whatever became of them. -/
def run (session : Session) (lines : List String) : Session :=
  lines.foldl (fun current line => (current.runLine line).session) session

/-- What became of each of the lines. -/
def reports (session : Session) : List String → List LineReport
  | [] => []
  | line :: rest => session.runLine line :: (session.runLine line).session.reports rest

/-- One line is worked on before the others. -/
theorem run_cons (session : Session) (line : String) (rest : List String) :
    session.run (line :: rest) = (session.runLine line).session.run rest := rfl

/-- One line is reported before the others. -/
theorem reports_cons (session : Session) (line : String) (rest : List String) :
    session.reports (line :: rest) =
      session.runLine line :: (session.runLine line).session.reports rest := rfl

/-- A report is about the session after the command. -/
theorem session_report (line : String)
    (outcome : Session × Except SessionError String × List LogEntry) :
    (report line outcome).session = outcome.1 := by
  obtain ⟨session, result, log⟩ := outcome
  cases result with
  | ok text => rfl
  | error cause =>
    rw [report]
    split <;> rfl

/-- A change performs its operation. -/
theorem execute_change (session : Session) (operation : Operation) :
    (session.execute (.change operation)).1 =
      { session with proof := (session.proof.perform operation).1 } := by
  rw [execute]
  rcases session.proof.perform operation with ⟨after, index | cause⟩ <;> rfl

/-- What a line makes of a session, whatever is shown for it. -/
def next (session : Session) (text : String) : Session :=
  let line := Blank.strip text
  if line = "" ∨ line.toList.head? = some '#' then session
  else
    match Command.read line with
    | .ok command => (session.execute command).1
    | .error _ => session

/-- A line is reported with the session that it makes. -/
theorem session_runLine (session : Session) (text : String) :
    (session.runLine text).session = session.next text := by
  rw [runLine,next]
  split
  · rfl
  · cases Command.read (Blank.strip text) with
    | error cause | ok command => exact session_report _ _

/-- A run goes through the sessions that its lines make. -/
theorem run_eq_foldl (session : Session) (lines : List String) :
    session.run lines = lines.foldl next session := by
  rw [run]
  exact congrArg (List.foldl · session lines) (funext₂ session_runLine)

/-- What a line does to a session: it performs an operation that can be written, or leaves the
proof alone. It never changes how proofs are drawn. -/
theorem runLine_session (session : Session) (text : String) :
    (session.runLine text).session.layout = session.layout ∧
      ((session.runLine text).session.proof = session.proof ∨
        ∃ operation : Operation, operation.IsWritable ∧
          (session.runLine text).session.proof = (session.proof.perform operation).1) := by
  rw [session_runLine,next]
  split
  · exact ⟨rfl, Or.inl rfl⟩
  · cases hr : Command.read (Blank.strip text) with
    | error cause => exact ⟨rfl, Or.inl rfl⟩
    | ok command =>
      cases command with
      | change operation =>
        dsimp only
        rw [execute_change]
        exact ⟨rfl, Or.inr ⟨operation, isWritable_of_read hr, rfl⟩⟩
      | display | typeset | unused | help | quit => exact ⟨rfl, Or.inl rfl⟩

/-- A run does not change how proofs are drawn. -/
theorem run_layout (session : Session) (lines : List String) :
    (session.run lines).layout = session.layout := by
  induction lines generalizing session with
  | nil => rfl
  | cons line rest ih => rw [run_cons,ih,(session.runLine_session line).1]

/-- Whether the proof of a session grew and is rebuilt by operations that can be written. -/
def IsRebuilt (session : Session) : Prop :=
  ∃ history, Proof.Grown history session.proof ∧
    ∀ operation ∈ session.proof.operations, operation.IsWritable

/-- A session begins when the settings have a width, with the proof without lines. -/
theorem start_eq {settings : Value} {width : Int}
    (hw : (settings.get "display.width" (.int 70)).toInt = .ok width) :
    start settings = .ok ⟨settings, .fresh, false, ⟨.whole width,
      if (settings.get "display.unicode" (.bool true)).isTruthy then .signs else .keyboard,
      none⟩⟩ := by
  rw [start,bind_of_eq_ok hw]
  rfl

/-- A session begins with the proof without lines. -/
theorem isRebuilt_of_start {settings : Value} {session : Session}
    (h : start settings = .ok session) : session.proof = .fresh ∧ session.IsRebuilt := by
  have hp : session.proof = .fresh := by
    cases hw : (settings.get "display.width" (.int 70)).toInt with
    | error fault =>
      rw [start,hw] at h
      cases h
    | ok width =>
      rw [start_eq hw] at h
      cases h
      rfl
  refine ⟨hp, [], ?_, ?_⟩
  · rw [hp]
    exact .fresh
  · rw [hp]
    exact nofun

/-- Working on a line keeps up that the proof is rebuilt by operations that can be written. -/
theorem IsRebuilt.runLine {session : Session} (h : session.IsRebuilt) (text : String) :
    (session.runLine text).session.IsRebuilt := by
  obtain ⟨history, hg, hw⟩ := h
  rcases (session.runLine_session text).2 with hp | ⟨operation, ho, hp⟩
  · refine ⟨history, ?_, ?_⟩
    · rw [hp]
      exact hg
    · rw [hp]
      exact hw
  · obtain ⟨after, ha⟩ := hg.exists_perform ho.assumesBox
    refine ⟨after, ?_, ?_⟩
    · rw [hp]
      exact ha
    · intro other hm
      rw [hp] at hm
      rcases List.mem_append.mp ((hg.operations_perform ho.assumesBox).subset hm) with hm | hm
      · exact hw other hm
      · rw [List.mem_singleton.mp hm]
        exact ho

/-- Whatever lines a session is given, its proof is rebuilt by operations that can be written. -/
theorem IsRebuilt.run {session : Session} (h : session.IsRebuilt) (lines : List String) :
    (session.run lines).IsRebuilt := by
  induction lines generalizing session with
  | nil => exact h
  | cons line rest ih => exact ih (h.runLine line)

end Session

end BoxedDeduction
