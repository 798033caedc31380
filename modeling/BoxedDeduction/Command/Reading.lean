import BoxedDeduction.Command.Basic
import BoxedDeduction.Text.WholeNumber

/-!
# Reading command lines

Reading a line has two stages. First the line is matched against the grammar:
a keyword and then, depending on it, nothing, a formula, an index, or the name
of a rule with arguments. Arguments stand side by side, so an operand that
cannot continue a formula begins the next argument. Only a line that matches as
a whole is then turned into a command, which may still fail on an index that is
too long or on a rule that does not exist or takes other arguments.
-/

namespace BoxedDeduction

/-- An argument of a rule as it is written. -/
inductive WrittenArgument where
  /-- The digits of an index. -/
  | index (digits : List Char)
  /-- A formula. -/
  | prop (prop : Proposition)
  deriving DecidableEq

/-- A line that matches the grammar. -/
inductive WrittenCommand where
  /-- A command without further parts to check. -/
  | plain (command : Command)
  /-- The repetition of a line. -/
  | copy (digits : List Char)
  /-- The call of a rule. -/
  | rule (name : String) (arguments : List WrittenArgument)
  deriving DecidableEq

/-- How far the arguments of a rule have been read. -/
structure ArgumentState where
  /-- The finished arguments, the latest first. -/
  finished : List WrittenArgument
  /-- The formula that is being read. -/
  formula : Option FormulaState
  deriving DecidableEq

namespace ArgumentState

/-- Nothing has been read. -/
def start : ArgumentState := ⟨[], none⟩

/-- Read the first token of an argument. -/
def beginArgument (finished : List WrittenArgument) : Token → Option ArgumentState
  | .index digits => some ⟨.index digits :: finished, none⟩
  | token => (FormulaState.start.step token).map fun formula => ⟨finished, some formula⟩

/-- Read a token, if it can follow. A token that cannot continue a complete formula begins the
next argument. -/
def step (state : ArgumentState) (token : Token) : Option ArgumentState :=
  match state.formula with
  | none => beginArgument state.finished token
  | some formula =>
    match formula.step token with
    | some following => some ⟨state.finished, some following⟩
    | none => formula.result?.bind fun prop => beginArgument (.prop prop :: state.finished) token

/-- What may stand behind a complete argument besides the connectives. -/
def following : List Expected :=
  [.openParen, .negSign, .bottomSign, .endOfLine, .stepIndex, .symbol]

/-- What is expected where reading cannot go on. -/
def expected (state : ArgumentState) : List Expected :=
  match state.formula with
  | none => following
  | some formula => formula.expected following

/-- The arguments in their order, if the last one is complete. -/
def result? (state : ArgumentState) : Option (List WrittenArgument) :=
  match state.formula with
  | none => some state.finished.reverse
  | some formula =>
    formula.result?.map fun prop => (WrittenArgument.prop prop :: state.finished).reverse

end ArgumentState

/-- Read arguments to the end of the tokens. The column is that of the latest token. -/
def readArguments (ending : ScanEnd) (column : Nat) (state : ArgumentState) :
    List LocatedToken → Except SyntaxFault (List WrittenArgument)
  | [] =>
    match ending with
    | .stuck place mode => .error ⟨place, mode.expected⟩
    | .complete =>
      match state.result? with
      | some arguments => .ok arguments
      | none => .error ⟨column, state.expected⟩
  | next :: rest =>
    match state.step next.token with
    | some following => readArguments ending next.column following rest
    | none => .error ⟨next.column, state.expected⟩

/-- Require that nothing but blanks is left. -/
def readEnd (column : Nat) (cs : List Char) : Except SyntaxFault Unit :=
  match skipGap column cs with
  | (_, []) => .ok ()
  | (place, _ :: _) => .error ⟨place, []⟩

/-- Whether a letter may stand in the name of a rule. -/
def isRuleNameLetter (c : Char) : Bool := !Blank.isBlank c && c != '(' && c != ')'

/-- Whether a letter may begin the name of a rule. -/
def isRuleNameStart (c : Char) : Bool := isRuleNameLetter c && !c.isDigit

/-- A word of a command with the column at which it starts and the text behind it. -/
structure LocatedWord where
  /-- The letters of the word. -/
  letters : List Char
  /-- The column of its first letter. -/
  column : Nat
  /-- The text behind the word. -/
  rest : List Char

/-- The column behind a word. -/
def LocatedWord.next (word : LocatedWord) : Nat := word.column + word.letters.length

/-- Read a word behind blanks. The first letter and the later ones belong to given classes. At
the end of the text the fault lies at the latest token. -/
def readWord (start later : Char → Bool) (expected : Expected) (lastColumn column : Nat)
    (cs : List Char) : Except SyntaxFault LocatedWord :=
  match skipGap column cs with
  | (_, []) => .error ⟨lastColumn, [expected]⟩
  | (place, c :: rest) =>
    if start c then .ok ⟨c :: rest.takeWhile later, place, rest.dropWhile later⟩
    else .error ⟨place, [expected]⟩

/-- Read the name of a rule. -/
def readRuleName (lastColumn column : Nat) (cs : List Char) : Except SyntaxFault LocatedWord :=
  readWord isRuleNameStart isRuleNameLetter .ruleName lastColumn column cs

/-- Read the keyword of a command. -/
def readKeyword (cs : List Char) : Except SyntaxFault (Keyword × LocatedWord) :=
  let words := Keyword.all.map fun keyword => Expected.word keyword.text
  match skipGap 1 cs with
  | (_, []) => .error ⟨1, words⟩
  | (place, c :: rest) =>
    match Keyword.find? (c :: rest) with
    | none => .error ⟨place, words⟩
    | some keyword =>
      .ok (keyword, ⟨keyword.letters, place, (c :: rest).drop keyword.letters.length⟩)

/-- Match a text against the grammar of commands. -/
def readWritten (cs : List Char) : Except SyntaxFault WrittenCommand := do
  let (keyword, word) ← readKeyword cs
  let plain (command : Command) : Except SyntaxFault WrittenCommand := do
    readEnd word.next word.rest
    return .plain command
  let formula : Except SyntaxFault Proposition :=
    readFormulaText [.endOfLine] word.column word.next word.rest
  match keyword with
  | .premise => return .plain (.change (.premise (← formula)))
  | .assume => return .plain (.change (.assume (← formula)))
  | .discharge | .close => plain (.change .close)
  | .undo => plain (.change .undo)
  | .display => plain .display
  | .latex => plain .typeset
  | .unused => plain .unused
  | .quit | .exit => plain .quit
  | .copy =>
    let index ← readWord Char.isDigit Char.isDigit .stepIndex word.column word.next word.rest
    readEnd index.next index.rest
    return .copy index.letters
  | .rule =>
    let name ← readRuleName word.column word.next word.rest
    let scan := tokenize .argument name.next name.rest
    let arguments ← readArguments scan.ending name.column .start scan.tokens
    return .rule (String.ofList name.letters) arguments
  | .help =>
    match skipGap word.next word.rest with
    | (_, []) => return .plain (.help none)
    | _ =>
      let name ← readRuleName word.column word.next word.rest
      readEnd name.next name.rest
      return .plain (.help (some (String.ofList name.letters)))

/-- The index that digits denote, unless they are too many. -/
def indexOfDigits (digits : List Char) : Except CommandError Int :=
  match WholeNumber.natural? 10 digits with
  | some value => .ok value
  | none => .error .indexTooLong

/-- The argument that a written one denotes. -/
def WrittenArgument.value : WrittenArgument → Except CommandError Argument
  | .index digits => do return .index (← indexOfDigits digits)
  | .prop p => .ok (.prop p)

/-- The command that a written one denotes. Indices are read before the rule is looked up. -/
def WrittenCommand.value : WrittenCommand → Except CommandError Command
  | .plain command => .ok command
  | .copy digits => do return .change (.copy (← indexOfDigits digits))
  | .rule name written => do
    let arguments ← written.mapM WrittenArgument.value
    match Rulebook.standard.create name arguments with
    | .ok made => return .change (.infer made)
    | .error cause => .error (.ruleCall cause)

/-- Read a command line. -/
def Command.read (text : String) : Except CommandError Command :=
  match readWritten text.toList with
  | .ok written => written.value
  | .error fault => .error (.malformed (Blank.strip text) fault)

/-- Read a text that is one formula. -/
def Proposition.read (text : String) : Except SyntaxFault Proposition :=
  readFormulaText [] 1 1 text.toList

end BoxedDeduction
