import BoxedDeduction.Settings.Expansion
import BoxedDeduction.Settings.Notation.Building

/-!
# Settings in text

A text of settings is cut into tokens, the tokens describe nodes, and the nodes
are turned into a value. The text is looked at in portions. A character that
stands nowhere in settings is noticed when its portion is reached, and the first
two portions are reached at once.
-/

namespace BoxedDeduction

namespace SettingText

/-- The number of characters in a portion. -/
def portion : Nat := 4096

/-- Whether a character may stand in the text of settings. -/
def isPrintable (c : Char) : Bool :=
  let code := c.toNat
  c = '\t' || c = '\n' || c = '\r' || (0x20 ≤ code && code ≤ 0x7E) || c = '\x85' ||
    (0xA0 ≤ code && code ≤ 0xFFFD) || (0x10000 ≤ code && code ≤ 0x10FFFF)

/-- A text whose lines all end with line feeds. -/
def withLineFeeds : List Char → List Char
  | '\r' :: '\n' :: rest => '\n' :: withLineFeeds rest
  | '\r' :: rest => '\n' :: withLineFeeds rest
  | c :: rest => c :: withLineFeeds rest
  | [] => []

/-- The tokens of a text. Work comes to the last character in front of a portion before the portion
is reached. -/
def tokens (cs : List Char) : Except NotationFault Tokenizing.Tokens :=
  match cs.findIdx? (!isPrintable ·) with
  | none => .ok (Tokenizing.ofText cs false)
  | some place =>
    if place < 2 * portion then .error .unprintable
    else .ok (Tokenizing.ofText (cs.take (place / portion * portion - 1)) true)

end SettingText

/-- Read settings. -/
def Value.read (text : String) : Except NotationFault Value := do
  let tokens ← SettingText.tokens (SettingText.withLineFeeds text.toList)
  (← SettingDocument.ofTokens tokens).value

/-- The names of the variables that a text refers to. -/
def referencedNames : List Char → List String
  | '$' :: '\x7b' :: inner =>
    match EnvReference.read? inner with
    | some (reference, _) => reference.name :: referencedNames inner
    | none => referencedNames inner
  | _ :: rest => referencedNames rest
  | [] => []

end BoxedDeduction
