import BoxedDeduction.Proofs.Command.Digits
import BoxedDeduction.Proofs.Proof.Dependence
import BoxedDeduction.Proofs.Proof.LateFailure
import BoxedDeduction.Proofs.Proof.Placement
import BoxedDeduction.Proofs.Session.Replay
import BoxedDeduction.Settings.Bundled

/-!
# Every line is answered

A session with the bundled settings answers every line, whatever lines it was given before, unless
the line holds an index with too many digits. No internal fault of the proof is met, the proof can
always be drawn at the width that is set, and what the citation graph looks up is there. A line that
is answered by an error, and one that is not answered, leaves the session as it was.
-/

namespace BoxedDeduction

/-! ## Looking up citations -/

/-- A recorded line is visible under its index. -/
theorem CitationWalk.exists_meaning? (walk : CitationWalk) (depth : Nat) {lines : List Line}
    {line : Line} (hl : line ∈ lines) :
    ∃ node, (walk.addLines depth lines).meaning? line.index = some node := by
  rw [meaning?,visible_addLines,← Option.isSome_iff_exists,List.lookup_isSome_iff]
  refine ⟨(line.index, line.node), List.mem_append_left _ (List.mem_reverse.mpr ?_), ?_⟩
  · exact List.mem_map_of_mem hl
  · exact beq_self_eq_true _

/-- Whether everything is found that the report on unused premises looks up: what the index of the
assumption and the last index of a closed box mean once its lines are recorded, and the last
line of the global scope in the graph. -/
structure Proof.FindsCitations (proof : Proof) : Prop where
  /-- The assumption and the last line of a box are visible after its lines. -/
  boxes : ∀ steps ∈ proof.closedBoxes, ∀ depth walk, ∃ first last,
    (steps.recordCitations depth walk).meaning? steps.start = some first ∧
      (steps.recordCitations depth walk).meaning? steps.lastLine.index = some last
  /-- The last line has a node. -/
  last : ∀ last, proof.globalScope.last? = some last → last.node ∈ proof.citations.nodes

/-- In a proof that grew everything is found that the report on unused premises looks up. -/
theorem Proof.Grown.findsCitations {history : List Proof} {proof : Proof}
    (h : Grown history proof) : proof.FindsCitations where
  boxes := by
    intro steps _ depth walk
    rw [steps.recordCitations_eq]
    have hfirst : steps.firstLine ∈ steps.toList := List.mem_cons_self
    have hlast : steps.lastLine ∈ steps.toList := List.mem_of_getLast? steps.getLast?_toList
    obtain ⟨first, hf⟩ := walk.exists_meaning? depth hfirst
    obtain ⟨last, hl⟩ := walk.exists_meaning? depth hlast
    exact ⟨first, last, hf, hl⟩
  last := fun _ hl => h.node_mem proof.globalScope_mem (List.mem_of_getLast? hl)

/-! ## Refused operations -/

/-- An operation that fails leaves a proof that grew as it was. -/
theorem Proof.Grown.perform_of_error {history : List Proof} {proof : Proof}
    (h : Grown history proof) {operation : Operation} {cause : ProofError}
    (he : (proof.perform operation).2 = .error cause) : (proof.perform operation).1 = proof := by
  by_contra hn
  exact h.not_failsLate operation (failsLate_iff.mpr ⟨⟨cause, he⟩, hn⟩)

namespace Session

variable {session : Session}

/-! ## Reports -/

section Reporting

variable {line : String} {after : Session} {result : Except SessionError String}
  {log : List LogEntry}

/-- A line is not answered when its error is a failure that gets no response. -/
theorem outcome_report_eq_error {breakdown : Breakdown}
    (h : (report line (after, result, log)).outcome = .error breakdown) :
    ∃ cause, result = .error cause ∧ cause.breakdown? = some breakdown := by
  cases result with
  | ok text => cases h
  | error cause =>
    rw [report] at h
    split at h
    · next found hf =>
      cases h
      exact ⟨cause, rfl, hf⟩
    · cases h

/-- A line is answered by an error when its command cannot be carried out. -/
theorem exists_of_isError {response : Response}
    (h : (report line (after, result, log)).outcome = .ok response)
    (hr : response.isError = true) : ∃ cause, result = .error cause := by
  cases result with
  | ok text =>
    cases h
    cases hr
  | error cause => exact ⟨cause, rfl⟩

end Reporting

/-! ## Commands -/

/-- A change that succeeds is answered when there is room for the proof. -/
theorem exists_execute_change (hw : session.layout.HasRoom) {operation : Operation}
    {after : Proof} {index : Option Int}
    (hp : session.proof.perform operation = (after, .ok index)) :
    ∃ text, (session.execute (.change operation)).2.1 = .ok text := by
  rw [execute,hp]
  dsimp only
  split
  · exact ⟨_, rfl⟩
  · exact exists_displayAfterChange hw

/-- A change that fails is the error of its operation. -/
theorem execute_change_of_error {operation : Operation} {after : Proof} {cause : ProofError}
    (hp : session.proof.perform operation = (after, .error cause)) :
    session.execute (.change operation) =
      ({ session with proof := after }, .error (.proof cause), []) := by
  rw [execute,hp]

/-- The error of an operation gets a response unless it is an internal fault. -/
theorem breakdown?_proof {cause : ProofError} (h : ∀ fault, cause ≠ .fault fault) :
    (SessionError.proof cause).breakdown? = none := by
  cases cause with
  | fault fault => exact absurd rfl (h fault)
  | inference cause => rfl
  | noOpenAssumption => rfl

/-- The only obstacle to help is that there is no rule to explain. -/
theorem helpFrom_error {book : Rulebook} {topic : Option String} {cause : SessionError}
    (h : helpFrom book topic = .error cause) : ∃ refusal, cause = .topic refusal := by
  cases topic with
  | none => cases h
  | some topic =>
    rw [helpFrom] at h
    split at h
    · cases h
    · next refusal _ =>
      cases h
      exact ⟨refusal, rfl⟩

/-- Help on a topic is looked up in the standard rules. -/
theorem help_eq (topic : Option String) : help topic = helpFrom .standard topic := rfl

/-- A request for help is carried out by looking up the help on its topic. -/
theorem execute_help (topic : Option String) :
    session.execute (.help topic) = (session, help topic, []) := by
  rw [execute]

/-- A request for help is answered unless there is no rule to explain. -/
theorem execute_help_of_error {topic : Option String} {cause : SessionError}
    (h : (session.execute (.help topic)).2.1 = .error cause) :
    ∃ refusal, cause = .topic refusal := by
  rw [execute_help] at h
  have hf : help topic = .error cause := h
  rw [help_eq] at hf
  exact helpFrom_error hf

/-- A command that cannot be carried out leaves the session as it was, and its error gets a
response. -/
theorem execute_of_error {history : List Proof} (h : Proof.Grown history session.proof)
    (hw : session.layout.HasRoom) {command : Command}
    (hb : ∀ operation, command = .change operation → operation.assumesBox = false)
    {cause : SessionError} (he : (session.execute command).2.1 = .error cause) :
    (session.execute command).1 = session ∧ cause.breakdown? = none := by
  cases command with
  | change operation =>
    -- There is room to draw the proof, so the operation itself has failed.
    have hn := h.perform_ne_fault (hb operation rfl)
    have hu := @h.perform_of_error _ _ operation
    obtain ⟨after, result, hp⟩ : ∃ after result,
        session.proof.perform operation = (after, result) := ⟨_, _, rfl⟩
    rw [hp] at hn hu
    cases result with
    | ok index =>
      obtain ⟨text, ht⟩ := exists_execute_change hw hp
      rw [ht] at he
      cases he
    | error refusal =>
      obtain rfl : after = session.proof := hu rfl
      rw [execute_change_of_error hp] at he ⊢
      cases he
      exact ⟨rfl, breakdown?_proof fun fault hf => hn fault (congrArg Except.error hf)⟩
  | display =>
    obtain ⟨text, ht⟩ := exists_displayAnswer hw
    rw [execute,ht] at he
    cases he
  | typeset =>
    refine ⟨rfl, ?_⟩
    rw [execute,typeset] at he
    dsimp only at he
    split at he
    · cases he
    · cases he
      rfl
  | unused | quit => cases he
  | help topic =>
    obtain ⟨refusal, rfl⟩ := execute_help_of_error he
    exact ⟨rfl, rfl⟩

/-! ## Lines -/

/-- A line is blank, it is refused, or its command is carried out. -/
theorem runLine_cases (session : Session) (text : String) :
    session.runLine text = ⟨session, .ok {}, []⟩ ∨
      (∃ cause, Command.read (Blank.strip text) = .error cause ∧
        session.runLine text = report (Blank.strip text) (session, .error (.command cause), [])) ∨
      ∃ command, Command.read (Blank.strip text) = .ok command ∧
        session.runLine text = report (Blank.strip text) (session.execute command) := by
  rw [runLine]
  split
  · exact Or.inl rfl
  · cases hr : Command.read (Blank.strip text) with
    | error cause => exact Or.inr (Or.inl ⟨cause, rfl, rfl⟩)
    | ok command => exact Or.inr (Or.inr ⟨command, rfl, rfl⟩)

/-- The command of a line assumes no box. -/
theorem assumesBox_of_read {line : String} {command : Command}
    (h : Command.read line = .ok command) :
    ∀ operation, command = .change operation → operation.assumesBox = false := by
  rintro operation rfl
  exact (isWritable_of_read h).assumesBox

/-- A line that is answered by an error leaves the session as it was. -/
theorem IsRebuilt.session_of_isError (h : session.IsRebuilt) (hw : session.layout.HasRoom)
    {text : String} {response : Response} (ho : (session.runLine text).outcome = .ok response)
    (hr : response.isError = true) : (session.runLine text).session = session := by
  obtain ⟨history, hg, -⟩ := h
  rcases session.runLine_cases text with he | ⟨cause, -, he⟩ | ⟨command, hc, he⟩
  · rw [he]
  · rw [he,session_report]
  · rw [he] at ho ⊢
    obtain ⟨cause, hx⟩ := exists_of_isError ho hr
    rw [session_report]
    exact (execute_of_error hg hw (assumesBox_of_read hc) hx).1

/-- A line that is not answered is refused for an index that is too long, and leaves the session as
it was. -/
theorem IsRebuilt.of_outcome_eq_error (h : session.IsRebuilt) (hw : session.layout.HasRoom)
    {text : String} {breakdown : Breakdown}
    (ho : (session.runLine text).outcome = .error breakdown) :
    breakdown = .indexTooLong ∧ Command.read (Blank.strip text) = .error .indexTooLong ∧
      (session.runLine text).session = session := by
  obtain ⟨history, hg, -⟩ := h
  rcases session.runLine_cases text with he | ⟨cause, hc, he⟩ | ⟨command, hc, he⟩
  · rw [he] at ho
    cases ho
  · rw [he] at ho ⊢
    obtain ⟨_, hx, hb⟩ := outcome_report_eq_error ho
    cases hx
    cases cause with
    | malformed text fault => cases hb
    | ruleCall cause => cases hb
    | indexTooLong =>
      cases hb
      exact ⟨rfl, hc, session_report _ _⟩
  · rw [he] at ho
    obtain ⟨cause, hx, hb⟩ := outcome_report_eq_error ho
    rw [(execute_of_error hg hw (assumesBox_of_read hc) hx).2] at hb
    cases hb

/-- A line with short indices is answered. -/
theorem IsRebuilt.exists_response (h : session.IsRebuilt) (hw : session.layout.HasRoom)
    {text : String} (ht : HasShortIndices (Blank.strip text)) :
    ∃ response, (session.runLine text).outcome = .ok response := by
  cases ho : (session.runLine text).outcome with
  | ok response => exact ⟨response, rfl⟩
  | error breakdown =>
    have hr := (h.of_outcome_eq_error hw ho).2.1
    exact absurd hr (Command.read_ne_of_hasShortIndices ht)

/-! ## The bundled settings -/

/-- The bundled settings give a width, whatever the environment is. -/
theorem width_bundledSettings (environment : Environment) :
    ((bundledSettings.load environment).get "display.width" (.int 70)).toInt = .ok 70 := rfl

/-- With the bundled settings, whatever lines a session was given, it answers every line whose
numbers are short. A line that is answered by an error and one that is not answered leave the
session as it was, and the report on unused premises finds everything that it looks up. -/
theorem answers_run (environment : Environment) :
    ∃ session, start (bundledSettings.load environment) = .ok session ∧
      ∀ (lines : List String) (line : String),
        let before := session.run lines
        let report := before.runLine line
        (HasShortNumbers line.toList → ∃ response, report.outcome = .ok response) ∧
          (∀ response, report.outcome = .ok response → response.isError = true →
            report.session = before) ∧
          (∀ breakdown, report.outcome = .error breakdown →
            breakdown = .indexTooLong ∧ report.session = before) ∧
          before.proof.FindsCitations := by
  have hs := start_eq (width_bundledSettings environment)
  refine ⟨_, hs, ?_⟩
  intro lines line before report
  have hr : before.IsRebuilt := (isRebuilt_of_start hs).2.run lines
  have hw : before.layout.HasRoom := by
    rw [run_layout]
    exact ⟨70, rfl, FrameLayout.fits_none_iff.mpr (by decide)⟩
  refine ⟨?_, fun _ ho he => hr.session_of_isError hw ho he, ?_, ?_⟩
  · intro hn
    exact hr.exists_response hw (hn.of_infix (infix_strip line)).hasShortIndices
  · intro breakdown ho
    obtain ⟨hb, -, hu⟩ := hr.of_outcome_eq_error hw ho
    exact ⟨hb, hu⟩
  · obtain ⟨history, hg, -⟩ := hr
    exact hg.findsCitations

/-- A rule that does not apply is answered by an error after lines that were refused and one that
was undone, and changes nothing. -/
theorem answers_run_of_refused_line :
    ∃ session, start (bundledSettings.load []) = .ok session ∧
      let before := session.run ["premise p", "assume q", "copy 7", "close", "close", "undo"]
      let report := before.runLine "rule and_e_lhs 1"
      ∃ response, report.outcome = .ok response ∧ response.isError = true ∧
        report.session = before := by
  obtain ⟨session, hs, hall⟩ := answers_run []
  refine ⟨session, hs, ?_⟩
  have h := hall ["premise p", "assume q", "copy 7", "close", "close", "undo"] "rule and_e_lhs 1"
  obtain ⟨response, hr⟩ := h.1 (.of_length (by decide))
  have hrefused : response.isError = true := by
    have heq := hs.symm.trans (start_eq (width_bundledSettings []))
    cases heq
    have hw : (Operation.infer (.andELhs 1)).IsWritable := by
      intro argument hm
      rw [List.mem_singleton.mp hm]
      exact ⟨1, Nat.one_lt_pow (by decide) (by decide), rfl⟩
    -- The line is read as the text of its rule, without a look-up in the whole rulebook.
    have ht : (Operation.infer (.andELhs 1)).text .keyboard = "rule and_e_lhs 1" := by
      decide +kernel
    rw [← ht,runLine_text hw Connectives.isReadable_keyboard ⟨'m', by decide +kernel, by decide⟩,
      run_eq_foldl] at hr
    have hm : Except.ok response.isError = Except.ok true :=
      (congrArg (Except.map Response.isError) hr).symm.trans (by decide +kernel)
    exact Except.ok.inj hm
  exact ⟨response, hr, hrefused, h.2.1 response hr hrefused⟩

end Session

end BoxedDeduction
