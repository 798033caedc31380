import BoxedDeduction.Proofs.Rendering.Room
import BoxedDeduction.Proofs.Session.Run

/-!
# Replaying a session

The proof of a session is written as a script, with one line for each operation that rebuilds it:
premises, assumptions, copies and rule steps from the outermost scope to the innermost, and for a
closed box the lines inside it followed by the line that closes it. Whatever a session went
through, failing lines and undone ones included, a fresh session that is given this script ends
with the same proof, and none of its responses is an error.
-/

namespace BoxedDeduction

/-- The lines that rebuild a proof. -/
def Proof.script (table : Connectives) (proof : Proof) : List String :=
  proof.operations.map (Operation.text table)

namespace LineReport

/-- Whether a line got no response that is an error. -/
def IsUnopposed (report : LineReport) : Prop :=
  ∀ response, report.outcome = .ok response → response.isError = false

/-- Whether a line got a response that is no error. -/
def IsAnswered (report : LineReport) : Prop :=
  ∃ response, report.outcome = .ok response ∧ response.isError = false

end LineReport

namespace Session

/-! ## Drawing the proof -/

/-- The only obstacle to showing the proof is that it cannot be drawn. -/
theorem displayAfterChange_error {session : Session} {cause : SessionError}
    (h : session.displayAfterChange = .error cause) : ∃ fault, cause = .drawing fault := by
  rw [displayAfterChange] at h
  split at h
  · rw [displayAnswer] at h
    cases hd : session.display with
    | ok text =>
      rw [hd] at h
      cases h
    | error fault =>
      rw [hd] at h
      cases h
      exact ⟨fault, rfl⟩
  · cases h

/-- The proof is drawn when there is room for it. -/
theorem exists_display {session : Session} (h : session.layout.HasRoom) :
    ∃ text, session.display = .ok text := by
  obtain ⟨rows, hr⟩ := session.proof.exists_frameRows h
  rw [display,bind_of_eq_ok hr]
  cases rows with
  | nil => exact ⟨_, rfl⟩
  | cons first rest => exact ⟨_, rfl⟩

/-- The drawn proof is the answer to a command when there is room for it. -/
theorem exists_displayAnswer {session : Session} (h : session.layout.HasRoom) :
    ∃ text, session.displayAnswer = .ok text := by
  obtain ⟨text, hd⟩ := exists_display h
  rw [displayAnswer,hd]
  exact ⟨text, rfl⟩

/-- The proof is shown after a change when there is room for it. -/
theorem exists_displayAfterChange {session : Session} (h : session.layout.HasRoom) :
    ∃ text, session.displayAfterChange = .ok text := by
  rw [displayAfterChange]
  split
  · exact exists_displayAnswer h
  · exact ⟨"", rfl⟩

/-! ## Working on the line of an operation -/

variable {table : Connectives} {operation : Operation} {session : Session} {after : Proof}
  {index : Option Int}

/-- The line of an operation is carried out as this operation. -/
theorem runLine_text (h : operation.IsWritable) (ht : table.IsReadable)
    (hb : EndsVisibly table.bottom.toList) : session.runLine (operation.text table) =
      report (operation.text table) (session.execute (.change operation)) := by
  obtain ⟨hs, hn⟩ := h.strip_text ht hb
  rw [runLine,hs,if_neg hn,h.read_text ht]

/-- A change that succeeds gets no response that is an error, and when there is room for the proof
it gets a response. -/
theorem report_change (line : String) (hp : session.proof.perform operation = (after, .ok index)) :
    (report line (session.execute (.change operation))).IsUnopposed ∧
      (session.layout.HasRoom →
        (report line (session.execute (.change operation))).IsAnswered) := by
  rw [execute,hp]
  dsimp only
  generalize hnext : { session with proof := after } = next
  have hl : next.layout = session.layout := by rw [← hnext]
  generalize LogEntry.ofOperation session.proof after operation = log
  split
  · -- There was nothing to undo.
    refine ⟨?_, fun _ => ⟨_, rfl, rfl⟩⟩
    rintro _ hr
    cases hr
    rfl
  · cases hd : next.displayAfterChange with
    | ok text =>
      refine ⟨?_, fun _ => ⟨_, rfl, rfl⟩⟩
      rintro _ hr
      cases hr
      rfl
    | error cause =>
      obtain ⟨fault, rfl⟩ := displayAfterChange_error hd
      refine ⟨?_, ?_⟩
      · rintro _ hr
        cases hr
      · intro hroom
        rw [← hl] at hroom
        obtain ⟨text, ht⟩ := exists_displayAfterChange hroom
        rw [hd] at ht
        cases ht

/-! ## Working on a script -/

/-- The lines of operations that succeed one after the other lead to the same proof as the
operations, and none of them is answered by an error. -/
theorem run_map_text (ht : table.IsReadable) (hb : EndsVisibly table.bottom.toList)
    {operations : List Operation} (hw : ∀ operation ∈ operations, operation.IsWritable)
    (he : session.proof.execute operations = .ok after) :
    (session.run (operations.map (Operation.text table))).proof = after ∧
      ∀ report ∈ session.reports (operations.map (Operation.text table)),
        report.IsUnopposed ∧ (session.layout.HasRoom → report.IsAnswered) := by
  induction operations generalizing session with
  | nil =>
    cases he
    exact ⟨rfl, fun report hm => absurd hm List.not_mem_nil⟩
  | cons first rest ih =>
    have hfirst : first.IsWritable := hw first List.mem_cons_self
    rw [Proof.execute] at he
    split at he
    · next middle index hp =>
      have hline := @runLine_text table first session hfirst ht hb
      have hproof : (session.runLine (first.text table)).session.proof = middle := by
        rw [hline,session_report,execute_change,hp]
      have hlayout := (session.runLine_session (first.text table)).1
      rw [← hproof] at he
      obtain ⟨hr, hall⟩ := ih (fun other ho => hw other (List.mem_cons_of_mem _ ho)) he
      rw [List.map_cons,run_cons,reports_cons]
      refine ⟨hr, ?_⟩
      intro report hm
      rcases List.mem_cons.mp hm with rfl | hm
      · rw [hline]
        exact report_change _ hp
      · have ha := hall report hm
        rw [hlayout] at ha
        exact ha
    · cases he

/-- Every session is replayed by its script. Whatever lines a session was given, a fresh session,
with whatever settings, that is given the script of its proof in either table ends with the same
proof: the same scopes and the same next index. No line of the script gets a response that is
an error, and every line gets a response unless the settings ask for a drawing that is wider than
any layout. -/
theorem run_script_of_start {settings settings' : Value} {session again : Session}
    (hs : start settings = .ok session) (ha : start settings' = .ok again) (lines : List String)
    {table : Connectives} (ht : table = .signs ∨ table = .keyboard) :
    let script := (session.run lines).proof.script table
    (again.run script).proof = (session.run lines).proof ∧
      ∀ report ∈ again.reports script, report.IsUnopposed ∧
        (again.layout.HasRoom → report.IsAnswered) := by
  have hr : table.IsReadable := by
    rcases ht with rfl | rfl
    · exact Connectives.isReadable_signs
    · exact Connectives.isReadable_keyboard
  have hb : EndsVisibly table.bottom.toList := by
    rcases ht with rfl | rfl
    · exact ⟨'⊥', by decide +kernel, by decide⟩
    · exact ⟨'m', by decide +kernel, by decide⟩
  obtain ⟨-, hstart⟩ := isRebuilt_of_start hs
  obtain ⟨history, hg, hw⟩ := hstart.run lines
  have he := hg.execute_operations
  rw [← (isRebuilt_of_start ha).1] at he
  exact run_map_text hr hb hw he

/-- A box that was closed, opened again by undoing and closed differently is replayed, and what was
undone or refused is left out. -/
theorem run_script_of_start_undone_line :
    let settings : Value := .ofFields [("repl", .ofFields [("show_after_command", .bool false)])]
    ∃ session, start settings = .ok session ∧
      let lines := ["assume -(p&q)", "premise r", "close", "undo", "copy 7", "copy 1", "close"]
      let script := ["assume ¬(p ∧ q)", "copy 1", "close"]
      (session.run lines).proof.script .signs = script ∧
      (session.run script).proof = (session.run lines).proof ∧
      ∀ report ∈ session.reports script, report.IsUnopposed ∧ report.IsAnswered := by
  intro settings
  have hw : (settings.get "display.width" (.int 70)).toInt = .ok 70 := by decide +kernel
  have hs := start_eq hw
  refine ⟨_, hs, ?_⟩
  intro lines script
  generalize hsession : Session.mk settings _ _ _ = session at hs ⊢
  obtain ⟨hr, hall⟩ := run_script_of_start hs hs lines (Or.inl rfl : Connectives.signs = _ ∨ _)
  have he : (session.run lines).proof.script .signs = script := by
    rw [← hsession]
    decide +kernel
  rw [he] at hr hall
  refine ⟨he, hr, ?_⟩
  intro report hm
  obtain ⟨hu, hroom⟩ := hall report hm
  refine ⟨hu, hroom ?_⟩
  rw [← hsession]
  exact ⟨70, rfl, FrameLayout.fits_none_iff.mpr (by decide)⟩

end Session

end BoxedDeduction
