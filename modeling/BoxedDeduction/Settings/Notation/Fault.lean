/-!
# Texts that hold no settings

A text may fail to hold settings at each step of reading: in its characters, in
its tokens, in the way they fit together, in its references, and in the values
that its nodes stand for.
-/

namespace BoxedDeduction

/-- Why a text holds no settings. -/
inductive NotationFault where
  /-- A character stands nowhere in the text of settings. -/
  | unprintable
  /-- The characters at some place begin no token, or a token that does not end. -/
  | badToken
  /-- The tokens do not fit together. -/
  | badStructure
  /-- A reference has no target, a target is named twice, or a second document follows. -/
  | badReference
  /-- A node has an unknown tag or not the content that its tag asks for, or a list or an object
  stands for a key. -/
  | badValue
  /-- A text that is tagged as a number is none, or there is no such date. -/
  | badNumber
  /-- A text that is tagged as a number has no letters. -/
  | noLetters
  /-- A number is beyond what can be computed with. -/
  | outOfRange
  /-- A text that is tagged as a truth value is none. -/
  | badWord
  /-- A text that is tagged as a moment is none. -/
  | badMoment
  /-- What is tagged as a moment is no text. -/
  | noText
  /-- A list or an object stands inside itself. -/
  | endless
  deriving DecidableEq

/-- The message for a text that holds no settings. -/
def NotationFault.message : NotationFault → String
  | .unprintable => "The settings hold a character that cannot be printed"
  | .badToken => "The settings hold characters that begin no token"
  | .badStructure => "The settings are not well formed"
  | .badReference => "A reference in the settings has no single target"
  | .badValue => "A value in the settings cannot be built"
  | .badNumber => "A text in the settings is tagged as a number and is none"
  | .noLetters => "A text in the settings is tagged as a number and is empty"
  | .outOfRange => "A number in the settings is too large"
  | .badWord => "A text in the settings is tagged as a truth value and is none"
  | .badMoment => "A text in the settings is tagged as a moment and is none"
  | .noText => "What is tagged as a moment in the settings is no text"
  | .endless => "A list or an object in the settings stands inside itself"

end BoxedDeduction
