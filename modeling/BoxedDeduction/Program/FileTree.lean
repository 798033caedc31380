import BoxedDeduction.Text.PathText

/-!
# Files

A file tree holds the files and directories below the working directory. Paths
are followed name by name; two dots lead to the directory above. A name or a
path that is longer than the names and paths of files can be has no answer.
Nothing is known of what lies outside, except that the directories above exist.
What lies below the root is given by a tree of its own.
-/

namespace BoxedDeduction

/-- What a path leads to. -/
inductive FileNode where
  /-- Nothing. -/
  | missing
  /-- A directory. -/
  | directory
  /-- A file. -/
  | file (content : String)
  /-- Nothing can be said, as a name or the path is too long. -/
  | tooLong

/-- Files and directories below the working directory, each under its names. -/
structure FileTree where
  /-- The files with their contents. -/
  files : List (List String × String)
  /-- The directories that need not hold a file. -/
  directories : List (List String)

namespace FileTree

/-- The greatest size of a name. -/
def nameLimit : Nat := 255

/-- The greatest size of a path. -/
def pathLimit : Nat := 4095

/-- The names of a path and of all that lies on the way. -/
def passed (names : List String) : List (List String) :=
  (List.range (names.length + 1)).map names.take

/-- The tree with given files and directories. A path with a detour leads over a directory. -/
def ofPaths (files : List (PathText × String)) (directories : List PathText) : FileTree :=
  let outer := files.map fun (path, _) => path.names.dropLast
  ⟨files.map fun (path, content) => (path.resolved.names, content),
    ((outer ++ directories.map PathText.names).flatMap passed).map PathText.resolveNames⟩

/-- Whether names lead to a directory. Every directory around a file or a directory exists. -/
def isDirectory (tree : FileTree) (names : List String) : Bool :=
  names.isEmpty || tree.directories.any (names.isPrefixOf ·) ||
    tree.files.any fun (path, _) => names.isPrefixOf path && names != path

/-- What names lead to. -/
def node (tree : FileTree) (names : List String) : FileNode :=
  if tree.isDirectory names then .directory
  else ((tree.files.lookup names).map .file).getD .missing

/-- What lies above the working directory. -/
def above (names : List String) : FileNode :=
  if names.all (· == "..") then .directory else .missing

/-- Follow names from a place in the tree. The root is the directory above itself; above the top of
any other tree lies what is not known. -/
def follow (tree : FileTree) (isRoot : Bool) (place : List String) : List String → FileNode
  | [] => tree.node place
  | name :: rest =>
    if !tree.isDirectory place then .missing
    else if nameLimit < name.utf8ByteSize then .tooLong
    else if name ≠ ".." then tree.follow isRoot (place ++ [name]) rest
    else if place.isEmpty ∧ ¬isRoot then above rest
    else tree.follow isRoot place.dropLast rest

/-- What a path leads to, in the tree itself or, if it begins at the root, in the tree below the
root. No file has a name with the character zero. -/
def find (root tree : FileTree) (path : PathText) : FileNode :=
  if path.names.any (·.contains (Char.ofNat 0)) then .missing
  else if pathLimit < path.print.utf8ByteSize then .tooLong
  else if path.root = "" then tree.follow false [] path.names
  else root.follow true [] path.names

/-- Why no file can be written at a path. -/
inductive WriteFault where
  /-- The directory of the file does not exist. -/
  | noDirectory
  /-- A name or the path is too long. -/
  | tooLong
  /-- No file has such a name. -/
  | badName
  deriving DecidableEq

/-- The message for a file that cannot be written. -/
def WriteFault.message : WriteFault → String
  | .noDirectory => "The directory of the file does not exist"
  | .tooLong => "The path of the file is too long"
  | .badName => "No file has such a name"

/-- What prevents a file from being written at a path. -/
def writeFault? (root tree : FileTree) (path : PathText) : Option WriteFault :=
  if path.names.any (·.contains (Char.ofNat 0)) then some .badName
  else
    match root.find tree path, root.find tree ⟨path.root, path.names.dropLast⟩ with
    | .tooLong, _ => some .tooLong
    | _, .directory => none
    | _, _ => some .noDirectory

end FileTree

end BoxedDeduction
