import BoxedDeduction.Proofs.Computation
import BoxedDeduction.Rendering.Frames

/-!
# Room for drawings

The column of propositions and the line of a frame are never wider than the drawing, apart from
a line of one dash. So whatever a proof looks like, it is drawn whenever a layout can be as wide
as the drawing and there is room for that.
-/

namespace BoxedDeduction

namespace FrameLayout

/-- Whether a column or a line with a number of characters can be drawn: a layout can be so wide,
and there is room for it. -/
def Fits (room : Option Nat) (count : Nat) : Prop :=
  count ≤ Layout.numberLimit ∧ ∀ limit ∈ room, count ≤ limit

variable {layout : FrameLayout} {room : Option Nat} {count : Nat}

/-- What is narrower than something that can be drawn can be drawn as well. -/
theorem Fits.mono {wider : Nat} (h : Fits room wider) (hc : count ≤ wider) : Fits room count :=
  ⟨Nat.le_trans hc h.1, fun limit hl => Nat.le_trans hc (h.2 limit hl)⟩

/-- Without a limit only the width that a layout can have counts. -/
theorem fits_none_iff : Fits none count ↔ count ≤ Layout.numberLimit := by
  rw [Fits,and_iff_left]
  intro limit hl
  cases hl

/-- There is room for what does not exceed the limit. -/
theorem checkRoom_eq_ok_iff {checked : Unit} :
    layout.checkRoom count = .ok checked ↔ ∀ limit ∈ layout.room, count ≤ limit := by
  rw [checkRoom,Layout.hasRoom]
  cases layout.room with
  | none => simp
  | some limit => by_cases hl : count ≤ limit <;> simp [hl]

/-- Whether a drawing is a whole number of columns wide and there is room for that. -/
def HasRoom (layout : FrameLayout) : Prop :=
  ∃ columns : Int, layout.width = .whole columns ∧ Fits layout.room (max columns 1).toNat

end FrameLayout

namespace FrameWidth

variable {columns : Int} {level : Nat}

/-- The column of propositions has its least width, if a layout can be so wide. -/
theorem propLayout_eq_ok_iff {cell : Layout} : propLayout (.whole columns) level = .ok cell ↔
    cell = { width := propWidth columns level } ∧
      propWidth columns level ≤ Layout.numberLimit := by
  by_cases hw : Layout.numberLimit < propWidth columns level
  · simp only [propLayout, hw, if_true, reduceCtorEq, Nat.not_le.mpr hw, and_false]
  · simp only [propLayout, hw, if_false, Except.ok.injEq, Nat.not_lt.mp hw, and_true, eq_comm]

/-- The line of a frame has its width, if that is not beyond all lengths. -/
theorem dashes_eq_ok_iff {count : Nat} : dashes (.whole columns) level = .ok count ↔
    count = lineWidth columns level ∧ lineWidth columns level ≤ Layout.numberLimit := by
  by_cases hw : Layout.numberLimit < lineWidth columns level
  · simp only [dashes, hw, if_true, reduceCtorEq, Nat.not_le.mpr hw, and_false]
  · simp only [dashes, hw, if_false, Except.ok.injEq, Nat.not_lt.mp hw, and_true, eq_comm]

end FrameWidth

/-! ## The width of what fills a row -/

namespace FrameItem

/-- The width of what fills a row or a frame at a width of so many columns: the column of
propositions or the line of the frame. -/
def stretch (columns : Int) : FrameItem → Nat
  | .opening level | .closing level => FrameWidth.lineWidth columns level
  | .row level _ => FrameWidth.propWidth columns level

/-- No column is wider than the drawing, and no line either, apart from a line of one dash. -/
theorem stretch_le (columns : Int) (item : FrameItem) :
    item.stretch columns ≤ (max columns 1).toNat := by
  cases item with
  | opening level | closing level =>
    rw [stretch,FrameWidth.lineWidth]
    omega
  | row level line =>
    rw [stretch,FrameWidth.propWidth]
    omega

end FrameItem

/-! ## What is drawn when there is room -/

namespace FrameLayout

variable {layout : FrameLayout}

/-- What is written after a check of the room for it has its text, if it can be drawn. -/
theorem checked_eq_ok_iff {α : Type} {measured : Except DrawingFault α} {value : α}
    {count : α → Nat} {write : α → String} {text : String}
    (h : ∀ {found}, measured = .ok found ↔ found = value ∧ count value ≤ Layout.numberLimit) :
    (do let found ← measured
        layout.checkRoom (count found)
        return write found) = Except.ok text ↔
      text = write value ∧ Fits layout.room (count value) := by
  simp only [bind_eq_ok_iff, h, checkRoom_eq_ok_iff, Fits]
  constructor
  · rintro ⟨_, ⟨rfl, hl⟩, _, hr, ht⟩
    exact ⟨(Except.ok.inj ht).symm, hl, hr⟩
  · rintro ⟨rfl, hl, hr⟩
    exact ⟨value, ⟨rfl, hl⟩, (), hr, rfl⟩

/-- Every row can be drawn when there is room for the width of the drawing. -/
theorem exists_print (h : layout.HasRoom) (item : FrameItem) :
    ∃ row, layout.print item = .ok row := by
  obtain ⟨columns, hw, hc⟩ := h
  have hf := hc.mono (item.stretch_le columns)
  cases item with
  | opening level | closing level =>
    rw [print,frame,hw]
    exact ⟨_, (checked_eq_ok_iff FrameWidth.dashes_eq_ok_iff).mpr ⟨rfl, hf⟩⟩
  | row level line =>
    rw [print,FrameLayout.row,hw]
    exact ⟨_, (checked_eq_ok_iff FrameWidth.propLayout_eq_ok_iff).mpr ⟨rfl, hf⟩⟩

end FrameLayout

/-- Every proof can be drawn when there is room for the width of the drawing. -/
theorem Proof.exists_frameRows {layout : FrameLayout} (h : layout.HasRoom) (proof : Proof) :
    ∃ rows, proof.frameRows layout = .ok rows :=
  exists_mapM_eq_ok fun item _ => layout.exists_print h item

end BoxedDeduction
