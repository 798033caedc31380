import BoxedDeduction.Program.Run
import BoxedDeduction.Proofs.Session.Answering

/-!
# Scripts and conversations agree

A script and a conversation hand their lines to the same session. A script goes up to the first line
that is answered by an error or ends the session. Up to this line both leave the same session, and
they write the same errors, except that a script puts its path and the number of the line in front.
Only what comes later is different: a conversation goes on behind an error, and a script draws the
proof at its end.
-/

namespace BoxedDeduction

/-! ## The text of a script -/

namespace Script

/-- Whether a text can stand as one line of a script. -/
structure IsLine (line : String) : Prop where
  /-- It holds no line feed. -/
  lineFeed : '\n' ∉ line.toList
  /-- It holds no carriage return. -/
  carriageReturn : '\r' ∉ line.toList

/-- The text of a script that has given lines. Each of them is ended by a line feed. -/
def ofLines (lines : List String) : String := String.join (lines.map (· ++ "\n"))

/-- The first line of a text is what stands in front of the first line end. -/
theorem splitLines_append {line : List Char} (hf : '\n' ∉ line) (hr : '\r' ∉ line)
    (taken rest : List Char) : splitLines taken (line ++ '\n' :: rest) =
      String.ofList (taken.reverse ++ line) :: splitLines [] rest := by
  induction line generalizing taken with
  | nil =>
    rw [List.nil_append,List.append_nil]
    rfl
  | cons c line ih =>
    obtain ⟨hcf, hf⟩ := List.ne_and_not_mem_of_not_mem_cons hf
    obtain ⟨hcr, hr⟩ := List.ne_and_not_mem_of_not_mem_cons hr
    rw [List.cons_append,splitLines,ih hf hr,List.reverse_cons,List.append_assoc]
    · rfl
    · exact fun _ hc _ => hcr hc.symm
    · exact fun hc => hcr hc.symm
    · exact fun hc => hcf hc.symm

/-- A text behind the lines of a script gives the later lines. -/
theorem lines_ofLines_append {lines : List String} (h : ∀ line ∈ lines, IsLine line)
    (more : String) : Script.lines (ofLines lines ++ more) = lines ++ Script.lines more := by
  induction lines with
  | nil =>
    rw [ofLines,List.map_nil,String.join_nil,String.empty_append]
    rfl
  | cons line rest ih =>
    have hl := h line List.mem_cons_self
    have hrest := ih fun other ho => h other (List.mem_cons_of_mem _ ho)
    rw [Script.lines] at hrest ⊢
    rw [ofLines,List.map_cons,String.join_cons,← ofLines]
    simp only [String.toList_append, List.append_assoc] at hrest ⊢
    have hfeed : "\n".toList = ['\n'] := rfl
    rw [hfeed,List.singleton_append,splitLines_append hl.lineFeed hl.carriageReturn,hrest]
    rw [List.reverse_nil,List.nil_append,String.ofList_toList]
    rfl

/-- The lines of a script are read back from its text. -/
theorem lines_ofLines {lines : List String} (h : ∀ line ∈ lines, IsLine line) :
    Script.lines (ofLines lines) = lines := by
  have hl := lines_ofLines_append h ""
  rw [String.append_empty] at hl
  exact hl.trans (List.append_nil lines)

end Script

/-! ## What a screen and a report begin with -/

namespace Screen

/-- Nothing in front of an output leaves it as it is. -/
theorem empty_append (screen : Screen) : ({} : Screen) ++ screen = screen := by
  obtain ⟨out, err⟩ := screen
  change Screen.mk ("" ++ out) ("" ++ err) = _
  rw [String.empty_append,String.empty_append]

/-- Outputs may be joined in any grouping. -/
theorem append_assoc (first second third : Screen) :
    first ++ second ++ third = first ++ (second ++ third) := by
  change Screen.mk (first.out ++ second.out ++ third.out) (first.err ++ second.err ++ third.err) =
    Screen.mk (first.out ++ (second.out ++ third.out)) (first.err ++ (second.err ++ third.err))
  rw [String.append_assoc,String.append_assoc]

end Screen

/-- A report with entries of the log in front. -/
def ScriptReport.logged (log : String) (report : ScriptReport) : ScriptReport :=
  { report with screen := ⟨"", log⟩ ++ report.screen }

/-- No entries in front leave a report as it is. -/
theorem ScriptReport.logged_empty (report : ScriptReport) : report.logged "" = report := by
  obtain ⟨code, screen, session⟩ := report
  exact congrArg (ScriptReport.mk code · session) screen.empty_append

/-- Entries may be put in front one after the other. -/
theorem ScriptReport.logged_logged (first later : String) (report : ScriptReport) :
    (report.logged later).logged first = report.logged (first ++ later) := by
  obtain ⟨code, screen, session⟩ := report
  exact congrArg (ScriptReport.mk code · session) (Screen.append_assoc ⟨"", first⟩ _ _).symm

/-! ## Lines that are worked on -/

namespace LineReport

variable {report : LineReport}

/-- Whether a script goes no further: the line is not answered, it is answered by an error, or the
session has ended. -/
def halts (report : LineReport) : Bool :=
  report.session.finished ||
    match report.outcome with
    | .ok response => response.isError
    | .error _ => true

/-- The error that a line is answered by. -/
def refusal? (report : LineReport) : Option String :=
  match report.outcome with
  | .ok response => if response.isError then some response.output else none
  | .error _ => none

/-- A script goes on behind a line that is answered by no error in a session that goes on. -/
theorem halts_eq_false_iff :
    report.halts = false ↔ report.IsAnswered ∧ report.session.finished = false := by
  rw [halts,Bool.or_eq_false_iff,and_comm]
  refine and_congr_left fun _ => ?_
  cases ho : report.outcome with
  | ok response => simp only [IsAnswered, ho, Except.ok.injEq, exists_eq_left']
  | error breakdown =>
    simp only [IsAnswered, ho, reduceCtorEq, false_and, exists_false, Bool.true_eq_false]

/-- A response is an error or not. -/
theorem refusal?_of_outcome {response : Response} (h : report.outcome = .ok response) :
    report.refusal? = if response.isError then some response.output else none := by
  rw [refusal?,h]

end LineReport

namespace Session

variable {session : Session}

/-- Whether none of the lines would halt a script. -/
def Passes (session : Session) (lines : List String) : Prop :=
  ∀ report ∈ session.reports lines, report.halts = false

/-- The lines up to the first that halts a script. -/
def worked (session : Session) : List String → List String
  | [] => []
  | line :: rest =>
    let report := session.runLine line
    if report.halts then [line] else line :: report.session.worked rest

/-- The error that the last of the lines is answered by. -/
def refusal? (session : Session) (lines : List String) : Option String :=
  (session.reports lines).getLast?.bind LineReport.refusal?

/-- What is written to the log while lines are worked on. -/
def logText (session : Session) (level : LogLevel) (lines : List String) : String :=
  String.join ((session.reports lines).map fun report => level.write report.log)

/-- Lines are worked on one after the other. -/
theorem run_append (session : Session) (first later : List String) :
    session.run (first ++ later) = (session.run first).run later :=
  List.foldl_append

/-- Lines are reported one after the other. -/
theorem reports_append (session : Session) (first later : List String) :
    session.reports (first ++ later) =
      session.reports first ++ (session.run first).reports later := by
  induction first generalizing session with
  | nil => rfl
  | cons line rest ih =>
    rw [List.cons_append,reports_cons,reports_cons,ih,run_cons,List.cons_append]

/-- No lines pass. -/
theorem passes_nil (session : Session) : session.Passes [] :=
  fun _ hm => absurd hm List.not_mem_nil

/-- Lines pass when the first does and then the others do. -/
theorem passes_cons {line : String} {rest : List String} : session.Passes (line :: rest) ↔
    (session.runLine line).halts = false ∧ (session.runLine line).session.Passes rest := by
  rw [Passes,reports_cons,List.forall_mem_cons]
  rfl

/-- The log of a line stands in front of the log of the later lines. -/
theorem logText_cons (level : LogLevel) (line : String) (rest : List String) :
    session.logText level (line :: rest) = level.write (session.runLine line).log ++
      (session.runLine line).session.logText level rest := by
  rw [logText,reports_cons,List.map_cons,String.join_cons]
  rfl

/-- The log of a line stands behind the log of the earlier lines. -/
theorem logText_concat (level : LogLevel) (lines : List String) (line : String) :
    session.logText level (lines ++ [line]) =
      session.logText level lines ++ level.write ((session.run lines).runLine line).log := by
  rw [logText,reports_append,List.map_append,String.join_append]
  refine congrArg (_ ++ ·) ?_
  exact (String.join_cons ..).trans (String.append_empty ..)

/-- The last line decides whether there is an error at the end. -/
theorem refusal?_concat (lines : List String) (line : String) :
    session.refusal? (lines ++ [line]) = ((session.run lines).runLine line).refusal? := by
  rw [refusal?,reports_append,reports_cons]
  generalize (session.run lines).runLine line = report
  exact congrArg (·.bind LineReport.refusal?) List.getLast?_concat

/-- Lines that pass end with no error. -/
theorem Passes.refusal?_eq_none {lines : List String} (h : session.Passes lines) :
    session.refusal? lines = none := by
  rw [refusal?,Option.bind_eq_none_iff]
  intro report hm
  obtain ⟨⟨response, ho, he⟩, -⟩ :=
    LineReport.halts_eq_false_iff.mp (h report (List.mem_of_getLast? hm))
  rw [LineReport.refusal?_of_outcome ho,he,if_neg Bool.false_ne_true]

/-- A session that lines pass goes on behind them. -/
theorem Passes.finished_run {lines : List String} (h : session.Passes lines)
    (hf : session.finished = false) : (session.run lines).finished = false := by
  induction lines generalizing session with
  | nil => exact hf
  | cons line rest ih =>
    obtain ⟨hline, hrest⟩ := passes_cons.mp h
    rw [run_cons]
    exact ih hrest (LineReport.halts_eq_false_iff.mp hline).2

/-- The lines that are worked on are all lines, if they pass, or else those in front of the first
that halts a script, and this one. -/
theorem worked_cases (session : Session) (lines : List String) :
    (session.Passes lines ∧ session.worked lines = lines) ∨
      ∃ before line rest, lines = before ++ line :: rest ∧ session.Passes before ∧
        ((session.run before).runLine line).halts = true ∧
          session.worked lines = before ++ [line] := by
  induction lines generalizing session with
  | nil => exact Or.inl ⟨session.passes_nil, rfl⟩
  | cons line rest ih =>
    cases hline : (session.runLine line).halts with
    | true =>
      refine Or.inr ⟨[], line, rest, rfl, session.passes_nil, hline, ?_⟩
      simp only [worked, hline, if_true, List.nil_append]
    | false =>
      have hw : session.worked (line :: rest) =
          line :: (session.runLine line).session.worked rest := by
        simp only [worked, hline, Bool.false_eq_true, if_false]
      rcases ih (session.runLine line).session with
        ⟨hp, he⟩ | ⟨before, last, later, rfl, hp, hl, he⟩
      · exact Or.inl ⟨passes_cons.mpr ⟨hline, hp⟩, by rw [hw,he]⟩
      · rw [hw,he]
        refine Or.inr ⟨line :: before, last, later, rfl, passes_cons.mpr ⟨hline, hp⟩, ?_, rfl⟩
        rw [run_cons]
        exact hl

end Session

/-! ## Lines that pass -/

variable {session : Session} {level : LogLevel}

namespace Script

variable {path : String} {number : Nat}

/-- A line that passes leaves the rest of a script to the session behind it. -/
theorem run_cons_of_passes {line : String} {rest : List String}
    (h : (session.runLine line).halts = false) : run level path number session (line :: rest) =
      (run level path (number + 1) (session.runLine line).session rest).map
        (ScriptReport.logged (level.write (session.runLine line).log)) := by
  obtain ⟨⟨response, ho, he⟩, hf⟩ := LineReport.halts_eq_false_iff.mp h
  simp only [run, ho, he, hf, Bool.false_eq_true, if_false]
  rfl

/-- Lines that pass leave the rest of a script to the session behind them. -/
theorem run_append_of_passes {before : List String} (h : session.Passes before)
    (rest : List String) : run level path number session (before ++ rest) =
      (run level path (number + before.length) (session.run before) rest).map
        (ScriptReport.logged (session.logText level before)) := by
  induction before generalizing session number with
  | nil =>
    have hid : ScriptReport.logged (session.logText level []) = id :=
      funext ScriptReport.logged_empty
    rw [hid,Except.map_id]
    rfl
  | cons line others ih =>
    obtain ⟨hline, hothers⟩ := Session.passes_cons.mp h
    have hn : number + (line :: others).length = number + 1 + others.length := by
      rw [List.length_cons]
      omega
    rw [List.cons_append,run_cons_of_passes hline,ih hothers,Session.logText_cons,hn,
      Session.run_cons]
    cases run level path (number + 1 + others.length) _ rest with
    | error breakdown => rfl
    | ok report => exact congrArg Except.ok (ScriptReport.logged_logged _ _ report)

/-- How a script ends that has written to the log: with an error in its last line, or with the drawn
proof. -/
def ended (path : String) (number : Nat) (log : String) (refusal : Option String) (drawing : String)
    (session : Session) : ScriptReport :=
  match refusal with
  | some message => ⟨1, ⟨"", log ++ complaint path number message⟩, session⟩
  | none => ⟨0, ⟨drawing ++ "\n", log⟩, session⟩

/-- More of the log stands in front of what a script has logged. -/
theorem logged_ended (first log : String) (refusal : Option String) (drawing : String) :
    (ended path number log refusal drawing session).logged first =
      ended path number (first ++ log) refusal drawing session := by
  cases refusal with
  | some message =>
    exact congrArg (ScriptReport.mk 1 · session)
      (congrArg₂ Screen.mk (String.empty_append ..) (String.append_assoc ..).symm)
  | none =>
    exact congrArg (ScriptReport.mk 0 · session) (congrArg (Screen.mk · _) (String.empty_append ..))

/-- A script without further lines draws the proof. -/
theorem run_nil {drawing : String} (hd : session.display = .ok drawing) :
    run level path number session [] = .ok (ended path number "" none drawing session) := by
  rw [run,finalReport,hd]
  rfl

/-- A script ends at a line that halts it, whatever stands behind. -/
theorem run_cons_of_halts {line drawing : String} {response : Response}
    (hh : (session.runLine line).halts = true)
    (ho : (session.runLine line).outcome = .ok response)
    (hd : (session.runLine line).session.display = .ok drawing) (rest : List String) :
    run level path number session (line :: rest) =
      .ok (ended path number (level.write (session.runLine line).log)
        (session.runLine line).refusal? drawing (session.runLine line).session) := by
  rw [LineReport.refusal?_of_outcome ho]
  cases he : response.isError with
  | true =>
    simp only [run, ho, he, if_true]
    rfl
  | false =>
    have hf : (session.runLine line).session.finished = true := by
      simp only [LineReport.halts, ho, he, Bool.or_false] at hh
      exact hh
    simp only [run, ho, he, hf, Bool.false_eq_true, if_false, if_true, finalReport, hd]
    exact congrArg (fun log => Except.ok (ScriptReport.mk 0 ⟨drawing ++ "\n", log⟩ _))
      (String.append_empty ..)

end Script

namespace Conversation

variable {manner : Manner}

/-- Whether a conversation, after it has shown a screen for given lines, goes on with a session. -/
def Reaches (manner : Manner) (session : Session) (lines : List String) (screen : Screen)
    (next : Session) : Prop :=
  ∀ events, hold manner session (lines.map .line ++ events) =
    (hold manner next events).map (Prod.map (screen ++ ·) id)

/-- Without lines a conversation shows nothing and goes on with the same session. -/
theorem Reaches.refl (manner : Manner) (session : Session) :
    Reaches manner session [] {} session := by
  intro events
  have hid : Prod.map (({} : Screen) ++ ·) id = (id : Screen × Session → Screen × Session) :=
    funext fun result => Prod.ext (Screen.empty_append _) rfl
  rw [hid,Except.map_id]
  rfl

/-- A conversation goes on behind the lines in front with the later lines. -/
theorem Reaches.append {middle last : Session} {first later : List String} {front back : Screen}
    (h : Reaches manner session first front middle) (h' : Reaches manner middle later back last) :
    Reaches manner session (first ++ later) (front ++ back) last := by
  intro events
  rw [List.map_append,List.append_assoc,h,h']
  cases hold manner last events with
  | error breakdown => rfl
  | ok result => exact congrArg Except.ok (Prod.ext (Screen.append_assoc _ _ _).symm rfl)

/-- What is shown for a line: the prompt, the log and the response. -/
def turn (manner : Manner) (log : List LogEntry) (response : Response) : Screen :=
  ⟨manner.prompt, ""⟩ ++ (⟨"", manner.level.write log⟩ ++ shown manner response)

/-- Only errors and the log are shown among the errors. -/
theorem err_turn (manner : Manner) (log : List LogEntry) (response : Response) :
    (turn manner log response).err =
      manner.level.write log ++ if response.isError then response.output ++ "\n" else "" := by
  have hs : (shown manner response).err =
      if response.isError then response.output ++ "\n" else "" := by
    rw [shown]
    split
    · rfl
    · split <;> rfl
  rw [turn,Screen.err_append,Screen.err_append,hs,String.empty_append]

/-- A conversation goes on behind a line that is answered. -/
theorem reaches_line (manner : Manner) (hf : session.finished = false) {text : String}
    {response : Response} (ho : (session.runLine text).outcome = .ok response) :
    Reaches manner session [text] (turn manner (session.runLine text).log response)
      (session.runLine text).session := by
  intro events
  rw [List.map_singleton,List.singleton_append,hold,hf,if_neg Bool.false_ne_true,answer,ho]
  dsimp only
  cases hold manner (session.runLine text).session events <;> rfl

/-- A conversation goes on behind lines that pass, and shows no errors. -/
theorem reaches_of_passes (manner : Manner) (hf : session.finished = false) {lines : List String}
    (h : session.Passes lines) : ∃ screen : Screen,
      screen.err = session.logText manner.level lines ∧
        Reaches manner session lines screen (session.run lines) := by
  induction lines generalizing session with
  | nil => exact ⟨{}, rfl, .refl manner session⟩
  | cons line rest ih =>
    obtain ⟨hline, hrest⟩ := Session.passes_cons.mp h
    obtain ⟨⟨response, ho, he⟩, hnext⟩ := LineReport.halts_eq_false_iff.mp hline
    obtain ⟨screen, hs, hr⟩ := ih hnext hrest
    have hstep := reaches_line manner hf ho
    rw [Session.run_cons]
    refine ⟨_, ?_, hstep.append hr⟩
    rw [Screen.err_append,err_turn,he,hs,Session.logText_cons]
    exact congrArg (· ++ _) (String.append_empty ..)

end Conversation

/-! ## Agreement -/

/-- The manner that settings ask for has the given level of the log. -/
theorem Manner.level_ofSettings {settings : Value} {chance : Fin 5} {manner : Manner}
    (h : ofSettings settings level chance = .ok manner) : manner.level = level := by
  rw [ofSettings] at h
  split at h
  · cases h
    rfl
  · cases h

/-- No conversation is held with a prompt that cannot be written. -/
theorem Manner.ofSettings_eq_error {settings : Value}
    (h : (settings.get "repl.prompt" (.text "fitch> ")).isPrintable = false) (chance : Fin 5) :
    ofSettings settings level chance = .error .promptTooLong := by
  simp only [ofSettings, h, Bool.false_eq_true, if_false]

/-- At a level that writes no entries nothing is logged. -/
theorem Session.logText_eq_empty (hn : level.writesEntries = false) (session : Session)
    (lines : List String) : session.logText level lines = "" := by
  induction lines generalizing session with
  | nil => rfl
  | cons line rest ih =>
    rw [logText_cons,ih,LogLevel.write,hn,if_neg Bool.false_ne_true,String.append_empty]

/-- What a script of some lines and a conversation that is given the same lines have in common. The
lines that count are those up to the first that halts the script. -/
structure Agreement (level : LogLevel) (path : String) (session : Session) (lines : List String)
    (report : ScriptReport) : Prop where
  /-- The script ends, -/
  script : Script.runText level path session (Script.ofLines lines) = .ok report
  /-- and does not depend on what stands behind the line that halts it. -/
  halted : ¬session.Passes lines → ∀ more,
    Script.runText level path session (Script.ofLines (session.worked lines) ++ more) = .ok report
  /-- It leaves the session that the lines lead to. -/
  session_eq : report.session = session.run (session.worked lines)
  /-- If the last of them is answered by an error, the script fails, and apart from the log it only
  writes the error with its place. -/
  refused : ∀ message, session.refusal? (session.worked lines) = some message →
    report.code = 1 ∧ report.screen = ⟨"", session.logText level (session.worked lines) ++
      Script.complaint path (session.worked lines).length message⟩
  /-- Otherwise it succeeds, and apart from the log it only writes the drawn proof. -/
  answered : session.refusal? (session.worked lines) = none →
    report.code = 0 ∧ ∃ text, (session.run (session.worked lines)).display = .ok text ∧
      report.screen = ⟨text ++ "\n", session.logText level (session.worked lines)⟩
  /-- A conversation that can be held over these lines goes on with the same session. Apart from the
  log the only error that it writes is the one of the last line, if it is answered by an error. -/
  conversation : ∀ chance manner, Manner.ofSettings session.settings level chance = .ok manner →
    ∃ screen : Screen,
      screen.err = session.logText level (session.worked lines) ++
        ((session.refusal? (session.worked lines)).map (· ++ "\n")).getD "" ∧
      Conversation.Reaches manner session (session.worked lines) screen
        (session.run (session.worked lines))
  /-- At a level that writes no entries nothing is logged. -/
  silent : level.writesEntries = false → session.logText level (session.worked lines) = ""

/-- A session whose proof is rebuilt by operations that can be written works on lines with short
indices up to the first that halts a script, and answers it. -/
theorem Session.IsRebuilt.worked_cases {lines : List String} (h : session.IsRebuilt)
    (hw : session.layout.HasRoom) (ht : ∀ line ∈ lines, HasShortIndices (Blank.strip line)) :
    (session.Passes lines ∧ session.worked lines = lines) ∨
      ∃ before line rest response, lines = before ++ line :: rest ∧ session.Passes before ∧
        ((session.run before).runLine line).halts = true ∧
          ((session.run before).runLine line).outcome = .ok response ∧
            session.worked lines = before ++ [line] := by
  rcases Session.worked_cases session lines with hp | ⟨before, line, rest, rfl, hp, hh, he⟩
  · exact Or.inl hp
  · have hroom : (session.run before).layout.HasRoom := by
      rw [run_layout]
      exact hw
    have hl := ht line (List.mem_append_right _ List.mem_cons_self)
    obtain ⟨response, ho⟩ := (h.run before).exists_response hroom hl
    exact Or.inr ⟨before, line, rest, response, rfl, hp, hh, ho, he⟩

/-- A script ends at the first line that halts it, or behind its lines, whatever its text is behind
the line that halts it. -/
theorem Script.runText_ofLines (level : LogLevel) (path : String) {drawing : String}
    {lines : List String} (h : session.IsRebuilt) (hw : session.layout.HasRoom)
    (hl : ∀ line ∈ lines, IsLine line) (ht : ∀ line ∈ lines, HasShortIndices (Blank.strip line))
    (hd : (session.run (session.worked lines)).display = .ok drawing) :
    let report := ended path (session.worked lines).length
      (session.logText level (session.worked lines)) (session.refusal? (session.worked lines))
      drawing (session.run (session.worked lines))
    runText level path session (ofLines lines) = .ok report ∧
      (¬session.Passes lines → ∀ more,
        runText level path session (ofLines (session.worked lines) ++ more) = .ok report) := by
  intro report
  rcases h.worked_cases hw ht with ⟨hp, he⟩ | ⟨before, line, rest, response, rfl, hp, hh, ho, he⟩
  · refine ⟨?_, fun hn => absurd hp hn⟩
    have hr : run level path 1 session (lines ++ []) = _ := run_append_of_passes hp []
    rw [he] at hd
    rw [run_nil hd,List.append_nil] at hr
    rw [runText,lines_ofLines hl,hr]
    refine congrArg Except.ok ((logged_ended ..).trans ?_)
    simp only [report, he, hp.refusal?_eq_none, String.append_empty]
    rfl
  · have hnext : session.run (before ++ [line]) = ((session.run before).runLine line).session :=
      session.run_append before [line]
    have hrun : ∀ others, run level path 1 session (before ++ line :: others) = .ok report := by
      intro others
      rw [he,hnext] at hd
      rw [run_append_of_passes hp,run_cons_of_halts hh ho hd]
      refine congrArg Except.ok ((logged_ended ..).trans ?_)
      simp only [report, he, hnext, Session.refusal?_concat, Session.logText_concat,
        List.length_append, List.length_singleton, Nat.add_comm]
    have hlines : ∀ other ∈ before ++ [line], IsLine other := by
      intro other hm
      refine hl other ?_
      rw [← List.singleton_append,← List.append_assoc]
      exact List.mem_append_left _ hm
    refine ⟨?_, fun _ more => ?_⟩
    · rw [runText,lines_ofLines hl]
      exact hrun rest
    · rw [runText,he,lines_ofLines_append hlines,List.append_assoc,List.singleton_append]
      exact hrun _

/-- A conversation goes on behind the lines up to the first that halts a script, and apart from the
log writes as errors only the one of the last line. -/
theorem Conversation.exists_reaches_worked {lines : List String} (h : session.IsRebuilt)
    (hf : session.finished = false) (hw : session.layout.HasRoom)
    (ht : ∀ line ∈ lines, HasShortIndices (Blank.strip line)) (manner : Manner) :
    ∃ screen : Screen,
      screen.err = session.logText manner.level (session.worked lines) ++
        ((session.refusal? (session.worked lines)).map (· ++ "\n")).getD "" ∧
      Reaches manner session (session.worked lines) screen
        (session.run (session.worked lines)) := by
  rcases h.worked_cases hw ht with ⟨hp, he⟩ | ⟨before, line, rest, response, rfl, hp, hh, ho, he⟩
  · obtain ⟨screen, hs, hr⟩ := reaches_of_passes manner hf hp
    rw [he,hp.refusal?_eq_none]
    exact ⟨screen, hs.trans (String.append_empty ..).symm, hr⟩
  · obtain ⟨screen, hs, hr⟩ := reaches_of_passes manner hf hp
    have hlast := reaches_line manner (hp.finished_run hf) ho
    rw [he,Session.refusal?_concat,Session.logText_concat,LineReport.refusal?_of_outcome ho,
      Session.run_append]
    refine ⟨_, ?_, hr.append hlast⟩
    rw [Screen.err_append,hs,err_turn,String.append_assoc]
    cases response.isError <;> rfl

/-- Scripts and conversations agree, whatever settings a session begins with, as long as they ask
for a width below one million: the script ends with a report, a conversation goes on, and the two
write the same errors. -/
theorem agreement_of_start {settings : Value} {session : Session} {width : Int}
    (hs : Session.start settings = .ok session)
    (hw : (settings.get "display.width" (.int 70)).toInt = .ok width) (hb : width < 1000000)
    (level : LogLevel) (path : String) {lines : List String}
    (hl : ∀ line ∈ lines, Script.IsLine line ∧ HasShortIndices (Blank.strip line)) :
    ∃ report, Agreement level path session lines report := by
  have hstart := Session.isRebuilt_of_start hs
  have heq := Session.start_eq hw
  have hf : session.finished = false := by
    rw [heq] at hs
    cases hs
    rfl
  have hroom : session.layout.HasRoom := by
    rw [heq] at hs
    cases hs
    have hl : (1000000 : Int) ≤ Layout.numberLimit := by decide
    exact ⟨width, rfl, FrameLayout.fits_none_iff.mpr (by omega)⟩
  have hlines := fun line hm => (hl line hm).1
  have hshort := fun line hm => (hl line hm).2
  obtain ⟨drawing, hd⟩ : ∃ drawing, (session.run (session.worked lines)).display = .ok drawing := by
    refine Session.exists_display ?_
    rw [Session.run_layout]
    exact hroom
  obtain ⟨hscript, hhalted⟩ :=
    Script.runText_ofLines level path hstart.2 hroom hlines hshort hd
  refine ⟨_, hscript, hhalted, ?_, ?_, ?_, ?_, fun hn => session.logText_eq_empty hn _⟩
  · cases session.refusal? (session.worked lines) <;> rfl
  · intro message hm
    rw [hm]
    exact ⟨rfl, rfl⟩
  · intro hn
    rw [hn]
    exact ⟨rfl, drawing, hd, rfl⟩
  · intro chance manner hm
    have hc := Conversation.exists_reaches_worked hstart.2 hf hroom hshort manner
    rw [Manner.level_ofSettings hm] at hc
    exact hc

/-- Behind a refused line a script leaves out the line that would end the session. -/
theorem agreement_of_start_refused_line :
    let settings : Value := .ofFields [("repl", .ofFields [("show_after_command", .bool false)])]
    ∃ session, Session.start settings = .ok session ∧
      let lines := ["premise p", "# a note", "", "copy 7", "quit"]
      session.worked lines = lines.take 4 ∧
        ∃ report, Agreement .warning "proof.txt" session lines report := by
  intro settings
  have hw : (settings.get "display.width" (.int 70)).toInt = .ok 70 := by decide +kernel
  have hs := Session.start_eq hw
  refine ⟨_, hs, ?_⟩
  intro lines
  have hlines : ∀ line ∈ lines, ('\n' ∉ line.toList ∧ '\r' ∉ line.toList) ∧
      (Blank.strip line).length ≤ WholeNumber.digitLimit := by decide +kernel
  have hworked : Session.worked ⟨settings, .fresh, false, ⟨.whole 70,
      if (settings.get "display.unicode" (.bool true)).isTruthy then .signs else .keyboard,
      none⟩⟩
        lines = lines.take 4 := by decide +kernel
  refine ⟨hworked, agreement_of_start hs hw (by decide) .warning _ ?_⟩
  intro line hm
  obtain ⟨⟨hf, hr⟩, hl⟩ := hlines line hm
  exact ⟨⟨hf, hr⟩, (HasShortNumbers.of_length hl).hasShortIndices⟩

/-- What does not agree for all settings. They may ask for a prompt that cannot be written, and then
a script runs to its end where no conversation is held. They may ask for the log, and then it is
written among the errors of a script that succeeds. -/
theorem script_without_conversation :
    (let settings : Value := .ofFields [("repl", .ofFields [("prompt", .int (16 ^ 3572))])]
    ∃ session, Session.start settings = .ok session ∧
      (Script.runText .warning "proof.txt" session (Script.ofLines ["quit"])).map
        (·.session.finished) = .ok true ∧
      ∀ chance, Manner.ofSettings settings .warning chance = .error .promptTooLong) ∧
    let settings : Value := .ofFields [("logging", .ofFields [("level", .text "DEBUG")])]
    ∃ session, Session.start settings = .ok session ∧
      Program.levelOf {} settings = .ok .debug ∧
      (Script.runText .debug "proof.txt" session (Script.ofLines ["premise p"])).map
        (fun report => (report.code, report.screen.err)) =
          .ok (0, "DEBUG fitch.proofs.proof: step 1: p (premise)\n") := by
  refine ⟨?_, ?_⟩
  · intro settings
    have hw : (settings.get "display.width" (.int 70)).toInt = .ok 70 := by decide +kernel
    have hp : (settings.get "repl.prompt" (.text "fitch> ")).isPrintable = false := by
      decide +kernel
    exact ⟨_, Session.start_eq hw, by decide +kernel, Manner.ofSettings_eq_error hp⟩
  · intro settings
    have hw : (settings.get "display.width" (.int 70)).toInt = .ok 70 := by decide +kernel
    exact ⟨_, Session.start_eq hw, by decide +kernel, by decide +kernel⟩

end BoxedDeduction
