import BoxedDeduction.Rendering.Frames
import BoxedDeduction.Rendering.Typeset
import BoxedDeduction.Text.LetterCase
import BoxedDeduction.Text.PathText

/-!
# Output formats

A proof is written as framed text or typeset. The format is chosen by its name
in any case of letters, or by the suffix of the file to write. The formats are
tried in their order, each with the options that were given, so an option that
a format does not know is reported even when a later format would fit.
-/

namespace BoxedDeduction

/-- An output format. -/
inductive Format where
  /-- Framed text. -/
  | ascii
  /-- A typeset environment. -/
  | latex
  deriving DecidableEq

namespace Format

/-- All formats in the order in which they are tried. -/
def all : List Format := [.ascii, .latex]

/-- The name of a format. -/
def name : Format → String
  | .ascii => "ascii"
  | .latex => "latex"

/-- The suffixes of the files that a format writes. -/
def extensions : Format → List String
  | .ascii => [".txt"]
  | .latex => [".tex"]

end Format

/-- A format that is ready to write proofs. -/
inductive Renderer where
  /-- Framed text in a layout. -/
  | ascii (layout : FrameLayout)
  /-- A typeset environment. -/
  | latex
  deriving DecidableEq

/-- Options for a format, each given or not. -/
structure RenderOptions where
  /-- The width of framed text. -/
  width : Option FrameWidth := none
  /-- Whether framed text is written in the signs of logic. -/
  useSigns : Option Bool := none
  /-- Names of options that no format knows. -/
  unknown : List String := []
  deriving DecidableEq

/-- Why no format was chosen. -/
inductive FormatError where
  /-- No format has this name. -/
  | unknownName (name : String)
  /-- No format writes files with this suffix. -/
  | unknownSuffix (suffix : String)
  /-- Neither a name nor a file was given. -/
  | nothingGiven
  /-- A format does not know an option. -/
  | unexpectedOption
  deriving DecidableEq

/-- The message for a missing format. -/
def FormatError.message : FormatError → String
  | .unknownName name =>
    "Unknown proof format: " ++ name ++ " (available: " ++
      ", ".intercalate (Format.all.map Format.name) ++ ")"
  | .unknownSuffix suffix =>
    "No format found for file extension: " ++ suffix ++ " (available: " ++
      ", ".intercalate (Format.all.map Format.name) ++ ")"
  | .nothingGiven => "Either format_name or file_path must be provided"
  | .unexpectedOption => "The format does not take this option"

/-- Why a proof cannot be written. -/
inductive RenderError where
  /-- The proof cannot be drawn. -/
  | drawing (cause : DrawingFault)
  /-- The proof cannot be typeset. -/
  | unclosed (cause : UnclosedBoxes)
  deriving DecidableEq

/-- The message for a proof that cannot be written. -/
def RenderError.message : RenderError → String
  | .drawing cause => cause.message
  | .unclosed cause => cause.message

namespace Renderer

/-- The format of a renderer. -/
def format : Renderer → Format
  | .ascii _ => .ascii
  | .latex => .latex

/-- Prepare a format with options. Framed text takes a width and a choice of signs, the typeset
form takes none. -/
def prepare (options : RenderOptions) : Format → Except FormatError Renderer
  | .ascii =>
    if options.unknown = [] then
      let table := if options.useSigns.getD true then Connectives.signs else .keyboard
      .ok (.ascii ⟨options.width.getD (.whole 70), table, none⟩)
    else .error .unexpectedOption
  | .latex => if options = {} then .ok .latex else .error .unexpectedOption

/-- The format with a name. An option cannot bear the name of the collection of formats itself. -/
def byName (name : String) (options : RenderOptions) : Except FormatError Renderer :=
  match Format.all.find? (·.name = LetterCase.lower name) with
  | some format => prepare options format
  | none =>
    .error (if "self" ∈ options.unknown then .unexpectedOption else .unknownName name)

/-- The first of the formats that writes files with a suffix. -/
def firstFor (suffix : String) (options : RenderOptions) : List Format → Except FormatError Renderer
  | [] => .error (.unknownSuffix suffix)
  | format :: rest => do
    let renderer ← prepare options format
    if suffix ∈ format.extensions then return renderer else firstFor suffix options rest

/-- The format for the file at a path. -/
def byPath (path : String) (options : RenderOptions) : Except FormatError Renderer :=
  firstFor (PathText.read path).suffix options Format.all

/-- The names of what a choice is made by, which no option can bear. -/
def choiceNames : List String := ["format_name", "file_path"]

/-- The format that a name or else a path asks for. An empty text counts as not given. -/
def choose (name path : Option String) (options : RenderOptions) : Except FormatError Renderer :=
  if options.unknown.any (choiceNames.contains ·) then .error .unexpectedOption
  else
    match name.filter (· ≠ ""), path.filter (· ≠ "") with
    | some name, _ => byName name options
    | none, some path => byPath path options
    | none, none => .error .nothingGiven

/-- Write a proof. A typeset proof has no preamble. -/
def render (renderer : Renderer) (proof : Proof) : Except RenderError String :=
  match renderer with
  | .ascii layout => (proof.draw layout).mapError .drawing
  | .latex => (proof.typeset false).mapError .unclosed

end Renderer

end BoxedDeduction
