import BoxedDeduction.Text.WholeNumber

/-!
# Arguments of the program

The program takes options and nothing else. A long option may be shortened as
long as it is the only one that begins so, and its value may follow after an
equals sign; the separator given as such a value names no file. The words are
first told apart one by one, so an ambiguous option is an error even behind a
request for help. Then the options take effect from left to right: help ends
the program at once, and words that are no options are reported at the end.
-/

namespace BoxedDeduction

/-- An option of the program. -/
inductive ProgramOption where
  | help
  | config
  | script
  | noGreeting
  | verbose
  deriving DecidableEq

namespace ProgramOption

/-- The spellings of the options. -/
def spellings : List (String × ProgramOption) :=
  [("-h", .help), ("--help", .help), ("--config", .config), ("--script", .script),
    ("--no-greeting", .noGreeting), ("--verbose", .verbose)]

/-- Whether an option takes a value. -/
def takesValue : ProgramOption → Bool
  | .config | .script => true
  | .help | .noGreeting | .verbose => false

end ProgramOption

/-- One word of the command line. -/
inductive ProgramWord where
  /-- A word that can be the value of an option. -/
  | operand (text : String)
  /-- The separator after which no word is an option. -/
  | separator
  /-- A word in the form of an option that is none. -/
  | unknown
  /-- An option, in its short or its long form, with the value that is attached to it. -/
  | option (meant : ProgramOption) (short : Bool) (attached : Option String)
  deriving DecidableEq

/-- Why the program ends before it has begun. -/
inductive EarlyExit where
  /-- The arguments were explained. -/
  | helpShown
  /-- The arguments are wrong. -/
  | usageError
  deriving DecidableEq

/-- The exit code for an early end. -/
def EarlyExit.code : EarlyExit → Nat
  | .helpShown => 0
  | .usageError => 2

/-- The value of an option that names a file. -/
inductive FileChoice where
  /-- The path of the file. -/
  | path (text : String)
  /-- The separator, which names no file. -/
  | separator
  deriving DecidableEq

namespace FileChoice

/-- The choice that a value makes. -/
def ofValue (value : String) : FileChoice := if value = "--" then .separator else .path value

/-- The path of the chosen file, if one is named. -/
def path? : FileChoice → Option String
  | .path text => some text
  | .separator => none

end FileChoice

/-- The choices that the arguments make. -/
structure ProgramChoices where
  /-- The file with settings. -/
  config : Option FileChoice := none
  /-- The script to run. -/
  script : Option FileChoice := none
  /-- Whether the greeting is left out. -/
  noGreeting : Bool := false
  /-- Whether every step is logged. -/
  verbose : Bool := false
  deriving DecidableEq

namespace ProgramWord

/-- A text cut at its first equals sign. -/
def cutAtEquals (cs : List Char) : List Char × Option String :=
  match cs.dropWhile (· ≠ '=') with
  | [] => (cs, none)
  | _ :: value => (cs.takeWhile (· ≠ '='), some (String.ofList value))

/-- A text without a line feed at its end. -/
def withoutFinalFeed (cs : List Char) : List Char :=
  if cs.getLast? = some '\n' then cs.dropLast else cs

/-- Whether a text is a negative number with at most one point. A line feed may follow. -/
def isNegativeNumber (cs : List Char) : Bool :=
  let isDigit (c : Char) : Bool := (WholeNumber.digit? c).isSome
  match withoutFinalFeed cs with
  | '-' :: digits =>
    match digits.dropWhile isDigit with
    | [] => !digits.isEmpty
    | '.' :: places => !places.isEmpty && places.all isDigit
    | _ => false
  | _ => false

/-- The option that a word spells in full, alone or with a value behind an equals sign. -/
def spelledOut? (cs : List Char) : Option ProgramWord :=
  let (spelled, value) := cutAtEquals cs
  (ProgramOption.spellings.lookup (String.ofList spelled)).map fun meant =>
    .option meant (spelled.length = 2) value

/-- The options that a word in the form of an option may mean. A long option may be shortened and
may carry a value behind an equals sign. A word with one dash means the option of its first
letter, and the other letters are attached to it. -/
def candidates (cs : List Char) : List ProgramWord :=
  match cs with
  | '-' :: '-' :: _ =>
    let (spelled, value) := cutAtEquals cs
    (ProgramOption.spellings.filter fun (spelling, _) => spelled.isPrefixOf spelling.toList).map
      fun (_, meant) => .option meant false value
  | _ =>
    (ProgramOption.spellings.filter fun (spelling, _) => spelling.toList = cs.take 2).map
      fun (_, meant) => .option meant true (some (String.ofList (cs.drop 2)))

/-- Tell what a word before the separator is. -/
def classify (text : String) : Except EarlyExit ProgramWord :=
  let cs := text.toList
  if cs.head? ≠ some '-' ∨ cs = ['-'] then .ok (.operand text)
  else
    match spelledOut? cs with
    | some word => .ok word
    | none =>
      match candidates cs with
      | [word] => .ok word
      | _ :: _ => .error .usageError
      | [] => .ok (if isNegativeNumber cs ∨ ' ' ∈ cs then .operand text else .unknown)

/-- Tell what each word is. -/
def classifyAll : List String → Except EarlyExit (List ProgramWord)
  | [] => .ok []
  | text :: rest =>
    if text = "--" then .ok (.separator :: rest.map .operand)
    else do return (← classify text) :: (← classifyAll rest)

end ProgramWord

namespace ProgramChoices

/-- Set an option with a value. -/
def setValue (choices : ProgramChoices) (value : String) : ProgramOption → ProgramChoices
  | .config => { choices with config := some (.ofValue value) }
  | .script => { choices with script := some (.ofValue value) }
  | .help | .noGreeting | .verbose => choices

/-- Set an option without a value. Help ends the program. -/
def setFlag (choices : ProgramChoices) : ProgramOption → Except EarlyExit ProgramChoices
  | .help => .error .helpShown
  | .noGreeting => .ok { choices with noGreeting := true }
  | .verbose => .ok { choices with verbose := true }
  | .config | .script => .error .usageError

/-- The effect of an attached value on an option that takes none. The letters attached to the short
option for help are read as further short options, of which help is the only one. -/
def refuseAttached (short : Bool) (value : String) : EarlyExit :=
  if short ∧ value ≠ "" ∧ value.toList.all (· = 'h') then .helpShown else .usageError

/-- Let the words take effect from left to right. Words that are no options are an error once all
options have been read. -/
def apply (choices : ProgramChoices) (stray : Bool) :
    List ProgramWord → Except EarlyExit ProgramChoices
  | [] => if stray then .error .usageError else .ok choices
  | .option meant short (some value) :: rest =>
    if meant.takesValue then apply (choices.setValue value meant) stray rest
    else .error (refuseAttached short value)
  | .option meant _ none :: rest =>
    if meant.takesValue then
      match rest with
      | .operand value :: behind => apply (choices.setValue value meant) stray behind
      | _ => .error .usageError
    else
      match choices.setFlag meant with
      | .ok next => apply next stray rest
      | .error exit => .error exit
  | .operand _ :: rest | .separator :: rest | .unknown :: rest => apply choices true rest

/-- Read the arguments of the program. -/
def read (arguments : List String) : Except EarlyExit ProgramChoices := do
  apply {} false (← ProgramWord.classifyAll arguments)

end ProgramChoices

end BoxedDeduction
