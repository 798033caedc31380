import BoxedDeduction.Text.CharRange
import BoxedDeduction.Text.LetterCaseTable

/-!
# Small letters

Names are compared in small letters. Every capital letter has one small letter,
with two exceptions: the dotted capital I becomes an i with a dot above, and a
capital sigma becomes a final sigma at the end of a word. A sigma ends a word
when a letter with case stands before it and none after it; accents and the
like are skipped on both sides.
-/

namespace BoxedDeduction.LetterCase

/-- The small form of a letter that does not depend on its neighbours. -/
def lowerLetter (c : Char) : List Char :=
  if c = '\u0130' then ['i', '\u0307']
  else
    match capitalRuns.find? fun run =>
      run.first ≤ c.toNat && c.toNat ≤ run.last && (c.toNat - run.first) % run.stride == 0 with
    | some run => [Char.ofNat (c.toNat + run.offset).toNat]
    | none => [c]

/-- Whether the first character that case rules do not skip is a letter with case. -/
def meetsCased (cs : List Char) : Bool :=
  match cs.find? fun c => !CharRange.contains ignorableRanges c with
  | some c => CharRange.contains casedRanges c
  | none => false

/-- The small letters of a text, given the reversed text before it. -/
def lowerAfter (before : List Char) : List Char → List Char
  | [] => []
  | c :: rest =>
    (if c = 'Σ' then [if meetsCased before && !meetsCased rest then 'ς' else 'σ']
      else lowerLetter c) ++ lowerAfter (c :: before) rest

/-- A text in small letters. -/
def lower (text : String) : String := String.ofList (lowerAfter [] text.toList)

/-- A text in capital letters as far as ASCII letters are concerned: besides the small ASCII
letters, the dotless i and the long s have a capital form in ASCII. -/
def upperToAscii (text : String) : String :=
  String.ofList (text.toList.map fun c =>
    if c = 'ı' then 'I' else if c = 'ſ' then 'S' else c.toUpper)

end BoxedDeduction.LetterCase
