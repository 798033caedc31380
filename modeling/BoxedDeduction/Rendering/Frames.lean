import BoxedDeduction.Number.Fraction
import BoxedDeduction.Proof.Basic
import BoxedDeduction.Text.Layout
import BoxedDeduction.Text.Padding

/-!
# Framed text

A proof is drawn as rows of text, one for each line, in which every box is
framed. A closed box has an opening and a closing frame, an open one only its
opening frame. Each level of nesting puts one bar on either side of its rows,
and the column of propositions shrinks so that rows and frames end together.
The width of a drawing is a whole number. With a fraction only the written form
of the column's width counts, whose places cut the propositions, and frames
have no line unless it has the least width. How much room there is for a column
or a line is a parameter of the drawing; unless it is given, room is unlimited.
-/

namespace BoxedDeduction

/-- The width of a drawing. -/
inductive FrameWidth where
  /-- A whole number of columns. -/
  | whole (columns : Int)
  /-- A number of columns with places behind the point. -/
  | fraction (columns : Fraction)
  deriving DecidableEq

/-- How a proof is drawn. -/
structure FrameLayout where
  /-- The width that rows and frames are measured from. -/
  width : FrameWidth := .whole 70
  /-- How propositions and rules are written. -/
  table : Connectives := .signs
  /-- The greatest number of characters in a column or a line for which there is room, if room is
  limited. -/
  room : Option Nat := none
  deriving DecidableEq

/-- Why a proof cannot be drawn. -/
inductive DrawingFault where
  /-- The width of a column is no layout of a text. -/
  | noLayout
  /-- The width of a frame is not a whole number. -/
  | notWhole
  /-- The width of a frame is beyond all lengths. -/
  | outOfRange
  /-- There is no room for a row or a frame. -/
  | noRoom
  deriving DecidableEq

/-- The message for a proof that cannot be drawn. -/
def DrawingFault.message : DrawingFault → String
  | .noLayout => "The width of a column is no layout of a text"
  | .notWhole => "The width of a frame is not a whole number"
  | .outOfRange => "The width of a frame is out of range"
  | .noRoom => "There is no room for the drawing"

namespace FrameWidth

/-- The least width of the index column. -/
def indexWidth : Nat := 3

/-- The least width of the column of justifications. -/
def reasonWidth : Nat := 20

/-- The columns of a row or a frame that belong to neither text nor bars, and those that both
leave free at the right edge. -/
def margin : Nat := 7

/-- The least width of the column of propositions at a level of nesting, of a whole width. -/
def propWidth (columns : Int) (level : Nat) : Nat :=
  (columns - 2 * level - indexWidth - reasonWidth - margin).toNat

/-- The width of the line in a frame, which is never empty, of a whole width. -/
def lineWidth (columns : Int) (level : Nat) : Nat := (max (columns - 2 * level - margin) 1).toNat

/-- The written form of the width of the column of propositions, of a width with places. -/
def propText (columns : Fraction) (level : Nat) : String :=
  let left := (((columns.minus (2 * level)).minus indexWidth).minus reasonWidth).minus margin
  if left.isBelow 0 then "0" else left.print

/-- The layout of the column of propositions. -/
def propLayout (width : FrameWidth) (level : Nat) : Except DrawingFault Layout :=
  match width with
  | .whole columns =>
    let least := propWidth columns level
    if Layout.numberLimit < least then .error .noLayout else .ok { width := least }
  | .fraction columns =>
    match Layout.read? ('<' :: (propText columns level).toList) with
    | some layout => .ok layout
    | none => .error .noLayout

/-- The number of dashes in a frame. -/
def dashes (width : FrameWidth) (level : Nat) : Except DrawingFault Nat :=
  match width with
  | .whole columns =>
    let count := lineWidth columns level
    if Layout.numberLimit < count then .error .outOfRange else .ok count
  | .fraction columns =>
    if ((columns.minus (2 * level)).minus margin).isBelow 1 then .ok 1 else .error .notWhole

end FrameWidth

/-- What is drawn on one row of text. -/
inductive FrameItem where
  /-- The opening frame of a box whose rows have a level of nesting. -/
  | opening (level : Nat)
  /-- The closing frame of a box whose rows have a level of nesting. -/
  | closing (level : Nat)
  /-- A line at a level of nesting. -/
  | row (level : Nat) (line : Line)

namespace FrameLayout

/-- The bars of the boxes around a row. -/
def bars (count : Nat) : String := Padding.repeated '│' count

/-- Whether there is room for a column or a line with a number of characters. -/
def checkRoom (layout : FrameLayout) (count : Nat) : Except DrawingFault Unit :=
  if Layout.hasRoom layout.room count then .ok () else .error .noRoom

/-- A frame of a box whose rows have a level of nesting. -/
def frame (layout : FrameLayout) (left right : String) (level : Nat) :
    Except DrawingFault String := do
  let count ← layout.width.dashes level
  layout.checkRoom count
  return "    " ++ bars (level - 1) ++ left ++ Padding.repeated '─' count ++ right ++
    bars (level - 1)

/-- The row of a line. -/
def row (layout : FrameLayout) (level : Nat) (line : Line) : Except DrawingFault String := do
  let cell ← layout.width.propLayout level
  layout.checkRoom cell.width
  return Padding.right FrameWidth.indexWidth (toString line.index) ++ " " ++ bars level ++ " " ++
    cell.apply (line.prop.print layout.table) ++ " " ++
    Padding.right FrameWidth.reasonWidth (line.reason.print layout.table) ++ " " ++ bars level

/-- The text of what is drawn on one row. -/
def print (layout : FrameLayout) : FrameItem → Except DrawingFault String
  | .opening level => layout.frame "┌" "┐" level
  | .closing level => layout.frame "└" "┘" level
  | .row level line => layout.row level line

end FrameLayout

mutual

/-- What is drawn for the line that states a proposition. For a closed box these are its lines
between two frames. -/
def Proposition.frameItems (level : Nat) (index : Int) (reason : Justification) :
    Proposition → List FrameItem
  | .box steps =>
    if reason = .assumption then
      .opening (level + 1) :: (steps.frameItems (level + 1) ++ [.closing (level + 1)])
    else [.row level ⟨index, .box steps, reason⟩]
  | prop => [.row level ⟨index, prop, reason⟩]

/-- What is drawn for the lines of a sub-proof. -/
def SubProof.frameItems (level : Nat) : SubProof → List FrameItem
  | .last index prop reason => prop.frameItems level index reason
  | .more index prop reason rest => prop.frameItems level index reason ++ rest.frameItems level

end

/-- What is drawn for an open scope at a level of nesting. It has an opening frame unless it is the
global scope. -/
def Scope.frameItems (scope : Scope) (level : Nat) : List FrameItem :=
  (if level = 0 then [] else [.opening level]) ++
    scope.sorted.flatMap fun line => line.prop.frameItems level line.index line.reason

namespace Proof

/-- What is drawn for all open scopes. -/
def frameItems (proof : Proof) : List FrameItem :=
  proof.scopes.zipIdx.flatMap fun (scope, level) => scope.frameItems level

/-- The rows of the drawn proof. The first of them that cannot be drawn prevents the drawing. -/
def frameRows (layout : FrameLayout) (proof : Proof) : Except DrawingFault (List String) :=
  proof.frameItems.mapM layout.print

/-- The drawn proof. Every row ends with a line feed. -/
def draw (layout : FrameLayout) (proof : Proof) : Except DrawingFault String := do
  return String.join ((← proof.frameRows layout).map (· ++ "\n"))

end Proof

end BoxedDeduction
