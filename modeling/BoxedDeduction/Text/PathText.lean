/-!
# Paths in text

A path is a list of names below the working directory or below the root. Empty
names and names of a single dot are left out. The suffix of a path is what
follows the last dot of its last name, dot included, unless the dot is the
first or the last letter of that name.
-/

namespace BoxedDeduction

/-- A path in its parts. -/
structure PathText where
  /-- The leading slashes: none, one, or exactly two. -/
  root : String
  /-- The names from the outermost to the innermost. -/
  names : List String
  deriving DecidableEq

namespace PathText

/-- The pieces of a text between slashes. -/
def pieces (text : String) : List String :=
  (text.toList.splitOn '/').map String.ofList

/-- The leading slashes that count. -/
def rootOf : List Char → String
  | '/' :: '/' :: '/' :: _ => "/"
  | '/' :: '/' :: _ => "//"
  | '/' :: _ => "/"
  | _ => ""

/-- Read a path. -/
def read (text : String) : PathText :=
  ⟨rootOf text.toList, (pieces text).filter fun name => name ≠ "" ∧ name ≠ "."⟩

/-- Names without those of two dots that take a name back. -/
def resolveNames (names : List String) : List String :=
  names.foldl (fun outer name =>
    if name = ".." ∧ outer ≠ [] ∧ outer.getLast? ≠ some ".." then outer.dropLast
    else outer ++ [name]) []

/-- The path to the same place without detours. -/
def resolved (path : PathText) : PathText := ⟨path.root, resolveNames path.names⟩

/-- The path to names below a path. -/
def below (path : PathText) (names : List String) : PathText := ⟨path.root, path.names ++ names⟩

/-- The path in text. The working directory is a single dot. -/
def print (path : PathText) : String :=
  if path.root = "" ∧ path.names = [] then "." else path.root ++ "/".intercalate path.names

/-- The suffix of a name. -/
def suffixOf (name : String) : String :=
  let after := (name.toList.reverse.takeWhile (· ≠ '.')).reverse
  let before := name.toList.length - after.length - 1
  if 0 < before ∧ after ≠ [] ∧ '.' ∈ name.toList then String.ofList ('.' :: after) else ""

/-- The suffix of the last name of a path. -/
def suffix (path : PathText) : String := suffixOf (path.names.getLast?.getD "")

end PathText

end BoxedDeduction
