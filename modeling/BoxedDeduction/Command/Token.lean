import BoxedDeduction.Text.Blank

/-!
# Tokens of formulas and arguments

A text is cut into tokens from left to right, each as long as possible. Which
tokens are looked for depends on the token before: only after an operand may a
connective stand, so a minus before an angle is an implication there and a
negation elsewhere. Blanks between tokens are skipped, and a line feed among
them restarts the count of columns.
-/

namespace BoxedDeduction

/-- What may stand at a place of a command. -/
inductive Expected where
  | andSign
  | openParen
  | closeParen
  | negSign
  | implySign
  | orSign
  | bottomSign
  | endOfLine
  | ruleName
  | stepIndex
  | symbol
  /-- The word that begins a command. -/
  | word (text : String)
  deriving DecidableEq

/-- The text that stands for an expectation in messages. -/
def Expected.text : Expected → String
  | .andSign => "'&'"
  | .openParen => "'('"
  | .closeParen => "')'"
  | .negSign => "'-'"
  | .implySign => "'->'"
  | .orSign => "'|'"
  | .bottomSign => "'⊥'"
  | .endOfLine => "end of line"
  | .ruleName => "rule name"
  | .stepIndex => "step index"
  | .symbol => "symbol"
  | .word text => "'" ++ text ++ "'"

/-- A token of a formula or of the arguments of a rule. -/
inductive Token where
  /-- A name: the word for falsity or a propositional symbol. -/
  | name (text : String)
  /-- The digits of an index. -/
  | index (digits : List Char)
  /-- The sign of falsity. -/
  | bottom
  | openParen
  | closeParen
  | neg
  | and
  | or
  | imply
  deriving DecidableEq

/-- Which tokens are looked for. -/
inductive ScanMode where
  /-- An operand must begin. -/
  | operand
  /-- An operand or an index may begin. -/
  | argument
  /-- An operand has just ended. Any token may follow. -/
  | continuation
  deriving DecidableEq

namespace ScanMode

/-- What is expected where no token begins, in the order of the texts. -/
def expected : ScanMode → List Expected
  | .operand => [.openParen, .negSign, .bottomSign, .symbol]
  | .argument => [.openParen, .negSign, .bottomSign, .stepIndex, .symbol]
  | .continuation =>
    [.andSign, .openParen, .closeParen, .negSign, .implySign, .orSign, .bottomSign, .stepIndex,
      .symbol]

end ScanMode

/-- Which tokens are looked for after a token. -/
def Token.nextMode : Token → ScanMode
  | .name _ | .bottom | .closeParen => .continuation
  | .index _ => .argument
  | .openParen | .neg | .and | .or | .imply => .operand

/-- Whether a letter begins a name. -/
def isNameStart (c : Char) : Bool := c.isAlpha || c == '_'

/-- Whether a letter continues a name. -/
def isNameLetter (c : Char) : Bool := c.isAlphanum || c == '_'

/-- The signs with which an operand may begin. -/
def operandSign? : Char → Option Token
  | '⊥' => some .bottom
  | '(' => some .openParen
  | '-' | '¬' | '~' => some .neg
  | _ => none

/-- The signs that may follow an operand, apart from the arrow of two characters. -/
def followingSign? : Char → Option Token
  | ')' => some .closeParen
  | '→' | '⇒' => some .imply
  | '|' | '∨' | '+' => some .or
  | '&' | '∧' | '^' | '*' => some .and
  | _ => none

/-- The sign of one character that a mode looks for. -/
def sign? (mode : ScanMode) (c : Char) : Option Token :=
  if mode = .continuation then (followingSign? c).or (operandSign? c) else operandSign? c

/-- The token with which a text begins and the number of its characters. -/
def scan? (mode : ScanMode) : List Char → Option (Token × Nat)
  | [] => none
  | c :: rest =>
    if isNameStart c then
      let letters := c :: rest.takeWhile isNameLetter
      some (.name (String.ofList letters), letters.length)
    else if mode ≠ .operand ∧ c.isDigit then
      let digits := c :: rest.takeWhile Char.isDigit
      some (.index digits, digits.length)
    else if mode = .continuation ∧ c = '-' ∧ rest.head? = some '>' then some (.imply, 2)
    else (sign? mode c).map (·, 1)

/-- A token has at least one character. -/
theorem scan?_pos {mode : ScanMode} {cs : List Char} {token : Token} {width : Nat}
    (h : scan? mode cs = some (token, width)) : cs ≠ [] ∧ 0 < width := by
  cases cs with
  | nil => cases h
  | cons c rest =>
    refine ⟨List.cons_ne_nil c rest, ?_⟩
    rw [scan?] at h
    split at h
    · cases h
      exact Nat.succ_pos _
    · split at h
      · cases h
        exact Nat.succ_pos _
      · split at h
        · cases h
          exact Nat.succ_pos _
        · obtain ⟨_, _, hw⟩ := Option.map_eq_some_iff.mp h
          cases hw
          exact Nat.succ_pos _

/-- Skip the blanks at the beginning of a text, keeping count of the column. -/
def skipGap (column : Nat) : List Char → Nat × List Char
  | [] => (column, [])
  | c :: rest =>
    if c = '\n' then skipGap 1 rest
    else if Blank.isTokenGap c then skipGap (column + 1) rest
    else (column, c :: rest)

/-- Skipping blanks never makes a text longer. -/
theorem length_skipGap (column : Nat) (cs : List Char) :
    (skipGap column cs).2.length ≤ cs.length := by
  induction cs generalizing column with
  | nil => exact Nat.le_refl _
  | cons c rest ih =>
    simp only [skipGap]
    split
    · exact Nat.le_succ_of_le (ih 1)
    · split
      · exact Nat.le_succ_of_le (ih (column + 1))
      · exact Nat.le_refl _

/-- A token and the column at which it starts. -/
structure LocatedToken where
  /-- The token. -/
  token : Token
  /-- The column of its first character, counted from one. -/
  column : Nat
  deriving DecidableEq

/-- How a text ends once its tokens are cut off. -/
inductive ScanEnd where
  /-- Nothing but blanks is left. -/
  | complete
  /-- No token that is looked for begins at a column. -/
  | stuck (column : Nat) (mode : ScanMode)
  deriving DecidableEq

/-- The tokens of a text and how the text ends. -/
structure Scan where
  /-- The tokens from left to right. -/
  tokens : List LocatedToken
  /-- What is left of the text. -/
  ending : ScanEnd
  deriving DecidableEq

/-- Cut a text into tokens. -/
def tokenize (mode : ScanMode) (column : Nat) (cs : List Char) : Scan :=
  match _hs : scan? mode (skipGap column cs).2 with
  | some (token, width) =>
    let start := (skipGap column cs).1
    let rest := tokenize token.nextMode (start + width) ((skipGap column cs).2.drop width)
    ⟨⟨token, start⟩ :: rest.tokens, rest.ending⟩
  | none =>
    if (skipGap column cs).2 = [] then ⟨[], .complete⟩
    else ⟨[], .stuck (skipGap column cs).1 mode⟩
termination_by cs.length
decreasing_by
  have hw := scan?_pos _hs
  have hl := length_skipGap column cs
  have hp := List.length_pos_iff.mpr hw.1
  rw [List.length_drop]
  omega

end BoxedDeduction
