import BoxedDeduction.Proofs.Rendering.Framing
import BoxedDeduction.Proofs.Rendering.Room
import BoxedDeduction.Proofs.Rendering.Typesetting

/-!
# Columns of a drawn proof

The text of a drawing is cut at its line feeds into the rows and frames of the proof. A row has its
index in front of one bar for each level of nesting, and its three columns are padded such that it
ends where the frames end, three characters before the width, as long as no column is too narrow for
its text. Whether a text is returned depends on nothing but the widths of its columns and frames: no
layout can be wider than the largest number that is read, and there has to be room for each.
-/

namespace BoxedDeduction

/-! ## The text of a row -/

namespace FrameItem

/-- The text of a frame at a width of so many columns. -/
def frameText (columns : Int) (left right : String) (level : Nat) : String :=
  "    " ++ FrameLayout.bars (level - 1) ++ left ++
    Padding.repeated '─' (FrameWidth.lineWidth columns level) ++ right ++
    FrameLayout.bars (level - 1)

/-- The text of what is drawn on one row at a width of so many columns. In the row of a line the
index, at the right edge of three columns, is followed by one bar for each level, the proposition,
the justification at the right edge of twenty columns, and the bars again. -/
def text (columns : Int) (table : Connectives) : FrameItem → String
  | .opening level => frameText columns "┌" "┐" level
  | .closing level => frameText columns "└" "┘" level
  | .row level line =>
    Padding.right FrameWidth.indexWidth (toString line.index) ++ " " ++ FrameLayout.bars level ++
      " " ++ Padding.left (FrameWidth.propWidth columns level) (line.prop.print table) ++ " " ++
      Padding.right FrameWidth.reasonWidth (line.reason.print table) ++ " " ++
      FrameLayout.bars level

end FrameItem

section Printing

variable {columns : Int} {table : Connectives} {room : Option Nat} {level : Nat}

/-- A layout that has nothing but a width pads on the right. -/
theorem Layout.apply_width (width : Nat) (text : String) :
    Layout.apply { width := width } text = Padding.left width text := by
  have hn : "".pushn ' ' 0 = "" := rfl
  simp only [apply, before, Nat.sub_zero, Padding.left, Padding.blanks, Padding.repeated, hn,
    String.empty_append]

/-- A frame has the text of its width, if its line can be drawn. -/
theorem FrameLayout.frame_eq_ok_iff {left right text : String} :
    frame ⟨.whole columns, table, room⟩ left right level = .ok text ↔
      text = FrameItem.frameText columns left right level ∧
        Fits room (FrameWidth.lineWidth columns level) := by
  rw [frame,FrameItem.frameText]
  exact checked_eq_ok_iff FrameWidth.dashes_eq_ok_iff

/-- A row has the text of its width, if its column of propositions can be drawn. -/
theorem FrameLayout.row_eq_ok_iff {line : Line} {text : String} :
    FrameLayout.row ⟨.whole columns, table, room⟩ level line = .ok text ↔
      text = (FrameItem.row level line).text columns table ∧
        Fits room (FrameWidth.propWidth columns level) := by
  rw [FrameLayout.row,FrameItem.text,← Layout.apply_width]
  exact checked_eq_ok_iff FrameWidth.propLayout_eq_ok_iff

/-- What is drawn on one row has the text of its width, if what fills it can be drawn. -/
theorem FrameLayout.print_eq_ok_iff {item : FrameItem} {text : String} :
    print ⟨.whole columns, table, room⟩ item = .ok text ↔
      text = item.text columns table ∧ Fits room (item.stretch columns) := by
  cases item with
  | opening level | closing level => exact frame_eq_ok_iff
  | row level line => exact row_eq_ok_iff

/-- A proof is drawn as the texts of its rows and frames, if all of them can be drawn. -/
theorem Proof.draw_eq_ok_iff {proof : Proof} {text : String} :
    proof.draw ⟨.whole columns, table, room⟩ = .ok text ↔
      text = String.join ((proof.frameItems.map (FrameItem.text columns table)).map (· ++ "\n")) ∧
        ∀ item ∈ proof.frameItems, FrameLayout.Fits room (item.stretch columns) := by
  rw [draw,bind_eq_ok_iff]
  constructor
  · rintro ⟨rows, hr, ht⟩
    obtain ⟨rfl, hf⟩ := (mapM_eq_ok_iff FrameLayout.print_eq_ok_iff).mp hr
    exact ⟨(Except.ok.inj ht).symm, hf⟩
  · rintro ⟨rfl, hf⟩
    exact ⟨_, (mapM_eq_ok_iff FrameLayout.print_eq_ok_iff).mpr ⟨rfl, hf⟩, rfl⟩

/-- What is drawn although room is limited is also drawn when it is not. -/
theorem Proof.draw_unlimited {proof : Proof} {text : String}
    (h : proof.draw ⟨.whole columns, table, room⟩ = .ok text) :
    proof.draw ⟨.whole columns, table, none⟩ = .ok text := by
  obtain ⟨rfl, hf⟩ := draw_eq_ok_iff.mp h
  refine draw_eq_ok_iff.mpr ⟨rfl, ?_⟩
  intro item hm
  exact FrameLayout.fits_none_iff.mpr (hf item hm).1

/-! ## Lengths -/

/-- A frame around rows that are nested ends three characters before the width, if there is room for
a line in it. -/
theorem FrameItem.length_frameText {left right : String} (hl : left.length = 1)
    (hr : right.length = 1) (hp : 0 < level) (hc : 2 * (level : Int) + 8 ≤ columns) :
    ((frameText columns left right level).length : Int) = columns - 3 := by
  simp only [frameText, FrameLayout.bars, String.length_append, Padding.length_repeated, hl, hr,
    FrameWidth.lineWidth, FrameWidth.margin]
  have hi : "    ".length = 4 := rfl
  omega

/-- A row none of whose texts is wider than its column ends three characters before the width. -/
theorem FrameItem.length_text_row {line : Line}
    (hi : (toString line.index).length ≤ 3)
    (hp : ((line.prop.print table).length : Int) ≤ columns - 2 * level - 30)
    (hr : (line.reason.print table).length ≤ 20) :
    (((FrameItem.row level line).text columns table).length : Int) = columns - 3 := by
  have hb : " ".length = 1 := rfl
  simp only [text, FrameLayout.bars, String.length_append, Padding.length_repeated,
    Padding.length_right, Padding.length_left, hb, FrameWidth.propWidth, FrameWidth.indexWidth,
    FrameWidth.reasonWidth, FrameWidth.margin]
  omega

/-! ## Rows of one line -/

/-- A repeated character is the only one in its text. -/
theorem Padding.notMem_repeated {c other : Char} (h : other ≠ c) (count : Nat) :
    other ∉ (repeated c count).toList := by
  induction count with
  | zero => exact List.not_mem_nil
  | succ count ih =>
    have hp : repeated c (count + 1) = (repeated c count).push c := rfl
    rw [hp,String.toList_push,List.mem_append,List.mem_singleton]
    exact not_or.mpr ⟨ih, h⟩

/-- Padding a text writes no line feed. -/
theorem Padding.lineFeed_notMem_pad {text : String} (h : '\n' ∉ text.toList) (width : Nat) :
    '\n' ∉ (left width text).toList ∧ '\n' ∉ (right width text).toList := by
  have hb : '\n' ∉ (blanks width text).toList := notMem_repeated (by decide) _
  simp only [left, right, String.toList_append, List.mem_append, h, hb, or_self, not_false_eq_true,
    and_self]

/-- Both tables write everything in one line. -/
theorem Connectives.isOneLine_of_plain (h : table = .signs ∨ table = .keyboard) :
    table.IsOneLine := by
  unfold IsOneLine
  rcases h with rfl | rfl
  · decide
  · decide

/-- A frame is one line. -/
theorem FrameItem.lineFeed_notMem_frameText {left right : String} (hl : '\n' ∉ left.toList)
    (hr : '\n' ∉ right.toList) : '\n' ∉ (frameText columns left right level).toList := by
  have hd := Padding.notMem_repeated (by decide : '\n' ≠ '─') (FrameWidth.lineWidth columns level)
  have hb : '\n' ∉ (FrameLayout.bars (level - 1)).toList := Padding.notMem_repeated (by decide) _
  simp only [frameText, String.toList_append, List.mem_append, hl, hr, hd, hb, or_false]
  decide

/-- A row whose names hold no line feed is one line, and so is a frame. -/
theorem FrameItem.lineFeed_notMem_text (ht : table.IsOneLine) {item : FrameItem}
    (h : ∀ shown ∈ item.row?, ∀ name ∈ shown.2.allNames, '\n' ∉ name.toList) :
    '\n' ∉ (item.text columns table).toList := by
  cases item with
  | opening level | closing level => exact lineFeed_notMem_frameText (by decide) (by decide)
  | row level line =>
    have hn := h (level, line) rfl
    have hi := (Padding.lineFeed_notMem_pad (lineFeed_notMem_toString line.index)
      FrameWidth.indexWidth).2
    have hp := (Padding.lineFeed_notMem_pad (Proposition.lineFeed_notMem_print ht fun name hm =>
      hn name (List.mem_append_left _ hm)) (FrameWidth.propWidth columns level)).1
    have hr := (Padding.lineFeed_notMem_pad (Justification.lineFeed_notMem_print ht fun name hm =>
      hn name (List.mem_append_right _ hm)) FrameWidth.reasonWidth).2
    have hb : '\n' ∉ (FrameLayout.bars level).toList := Padding.notMem_repeated (by decide) _
    simp only [text, String.toList_append, List.mem_append, hi, hp, hr, hb, or_false, false_or]
    decide

end Printing

/-- Whether the rows and frames of a drawing line up at its right edge, three characters before the
width. -/
structure LinesUp (columns : Int) (table : Connectives) (items : List FrameItem) : Prop where
  /-- A row does when its index has at most three characters, its proposition is no wider than the
  column that the nesting leaves for it, and its justification has at most twenty characters. -/
  rows : ∀ (level : Nat) (line : Line), .row level line ∈ items →
    (toString line.index).length ≤ 3 →
    ((line.prop.print table).length : Int) ≤ columns - 2 * level - 30 →
    (line.reason.print table).length ≤ 20 →
    (((FrameItem.row level line).text columns table).length : Int) = columns - 3
  /-- A frame does when the nesting leaves room for it. -/
  frames : ∀ item ∈ items, item.row? = none → 2 * (item.level : Int) + 8 ≤ columns →
    ((item.text columns table).length : Int) = columns - 3

namespace Proof

variable {history : List Proof} {proof : Proof} {columns : Int} {table : Connectives}
  {room : Option Nat}

/-- The rows and frames of a proof that grew line up. -/
theorem Grown.linesUp (h : Grown history proof) (columns : Int) (table : Connectives) :
    LinesUp columns table proof.frameItems where
  rows := fun _ _ _ => FrameItem.length_text_row
  frames := by
    rw [h.wellFormed.frameItems_eq]
    intro item hm hr hc
    have hp := h.level_pos item hm hr
    cases item with
    | opening level | closing level => exact FrameItem.length_frameText rfl rfl hp hc
    | row level line => cases hr

/-- The text that is returned for a proof that grew is cut into the texts of its rows and frames. -/
theorem Grown.splitOn_draw (h : Grown history proof)
    (hn : ∀ name ∈ proof.allNames, '\n' ∉ name.toList) (ht : table.IsOneLine) {text : String}
    (hd : proof.draw ⟨.whole columns, table, room⟩ = .ok text) : text.toList.splitOn '\n' =
      (proof.frameItems.map (FrameItem.text columns table) ++ [""]).map String.toList := by
  rw [(draw_eq_ok_iff.mp hd).1]
  refine splitOn_join ?_
  intro row hr
  obtain ⟨item, hm, rfl⟩ := List.mem_map.mp hr
  refine FrameItem.lineFeed_notMem_text ht ?_
  intro shown hs name hname
  have hrow : shown ∈ FrameItem.rows proof.frameItems := List.mem_filterMap.mpr ⟨item, hm, hs⟩
  rw [h.draws.rows] at hrow
  refine hn name (List.mem_flatMap.mpr ⟨shown.2, ?_, hname⟩)
  rw [← map_snd_levelledLines]
  exact List.mem_map_of_mem hrow

/-- After every run the drawing of the proof consists of the rows of all lines in the order of their
indices and the frames of all boxes, and it lines up at every width. It is returned as a text if
no column and no line is wider than a layout can be and there is room for each of them, so with
unlimited room at every width that a layout can have. -/
theorem draws_run {operations : List Operation}
    (hb : ∀ operation ∈ operations, operation.assumesBox = false)
    (hn : ∀ name ∈ (fresh.run operations).allNames, '\n' ∉ name.toList)
    (ht : table = .signs ∨ table = .keyboard) (columns : Int) :
    ∃ items, Draws items (fresh.run operations) ∧ LinesUp columns table items ∧
      (columns ≤ Layout.numberLimit →
        ∃ text, (fresh.run operations).draw ⟨.whole columns, table, none⟩ = .ok text) ∧
      ∀ room : Option Nat,
        ((∃ text, (fresh.run operations).draw ⟨.whole columns, table, room⟩ = .ok text) ↔
          ∀ item ∈ items, FrameLayout.Fits room (item.stretch columns)) ∧
        ∀ text, (fresh.run operations).draw ⟨.whole columns, table, room⟩ = .ok text →
          text.toList.splitOn '\n' =
            (items.map (FrameItem.text columns table) ++ [""]).map String.toList := by
  obtain ⟨_, h⟩ := Grown.fresh.exists_run hb
  have hdraw : ∀ room, (∃ text, (fresh.run operations).draw ⟨.whole columns, table, room⟩ =
      .ok text) ↔ ∀ item ∈ (fresh.run operations).frameItems,
        FrameLayout.Fits room (item.stretch columns) := by
    intro room
    constructor
    · rintro ⟨text, hd⟩
      exact (draw_eq_ok_iff.mp hd).2
    · exact fun hall => ⟨_, draw_eq_ok_iff.mpr ⟨rfl, hall⟩⟩
  refine ⟨_, h.draws, h.linesUp columns table, ?_, fun room => ⟨hdraw room, fun text hd =>
    h.splitOn_draw hn (Connectives.isOneLine_of_plain ht) hd⟩⟩
  intro hc
  have hone : 1 ≤ Layout.numberLimit := by decide
  refine (hdraw none).mpr fun item _ => FrameLayout.fits_none_iff.mpr ?_
  exact Nat.le_trans (item.stretch_le columns) (by omega)

/-- A drawing with an open box, in which another one was closed, is returned although the width
leaves no room for the propositions. -/
theorem draws_run_of_open_box :
    let p : Proposition := .symbol "p"
    let operations := [.premise p, .assume p, .assume p, .copy 2, .close, .infer (.implyI 3)]
    let proof := fresh.run operations
    (∀ operation ∈ operations, operation.assumesBox = false) ∧
      (∀ name ∈ proof.allNames, '\n' ∉ name.toList) ∧
      ∃ text items, proof.draw ⟨.whole 12, .keyboard, none⟩ = .ok text ∧
        Draws items proof ∧ LinesUp 12 .keyboard items ∧
        text.toList.splitOn '\n' =
          (items.map (FrameItem.text 12 .keyboard) ++ [""]).map String.toList := by
  intro p operations proof
  have hb : ∀ operation ∈ operations, operation.assumesBox = false := by decide
  have hn : ∀ name ∈ proof.allNames, '\n' ∉ name.toList := by decide +kernel
  obtain ⟨items, hitems, hup, hdraw, hall⟩ :=
    draws_run hb hn (Or.inr rfl : Connectives.keyboard = _ ∨ _) 12
  obtain ⟨text, hd⟩ := hdraw (by decide)
  exact ⟨hb, hn, text, items, hd, hitems, hup, (hall none).2 text hd⟩

/-- No drawing is returned at a width beyond all numbers that a layout can have, whatever room there
is. -/
theorem draw_ne_ok_of_huge_width :
    let operations := [.premise (.symbol "p")]
    (∀ operation ∈ operations, operation.assumesBox = false) ∧
      (∀ name ∈ (fresh.run operations).allNames, '\n' ∉ name.toList) ∧
      ∀ room text,
        (fresh.run operations).draw ⟨.whole 9223372036854775938, .signs, room⟩ ≠ .ok text := by
  intro operations
  have hd : (fresh.run operations).draw ⟨.whole 9223372036854775938, .signs, none⟩ =
      .error .noLayout := by
    decide +kernel
  refine ⟨by decide, by decide +kernel, fun room text ht => ?_⟩
  have hn := draw_unlimited ht
  rw [hd] at hn
  cases hn

end Proof

end BoxedDeduction
