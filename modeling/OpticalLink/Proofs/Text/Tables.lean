import Mathlib.Data.List.Forall2
import OpticalLink.Proofs.Text.Numerals
import OpticalLink.Bytes.Hex
import OpticalLink.Text.Table

/-!
# Rows of drawn tables

Names, numbers and hexadecimal texts are made of characters that are one column wide, break no
line and need no escape (`Text.Plain`). A row of such cells stands on one line of the drawn table,
as long as no cell is wider than a column can be (`Text.Table.showsRow_render`).
-/

namespace OpticalLink.Text

/-! ## Plain texts -/

/-- A printed character of the first alphabet, but no quotation mark and no backslash. -/
def PlainCharacter (character : Char) : Prop :=
  0x20 ≤ character.toNat ∧ character.toNat < 0x7F ∧ character ≠ '"' ∧ character ≠ '\\'

instance (character : Char) : Decidable (PlainCharacter character) :=
  inferInstanceAs (Decidable (_ ∧ _))

/-- A text of such characters. -/
def Plain (text : String) : Prop := ∀ character ∈ text.toList, PlainCharacter character

instance (text : String) : Decidable (Plain text) :=
  List.decidableBAll PlainCharacter text.toList

/-- Printed numbers are plain. -/
theorem plain_toString (number : Nat) : Plain (toString number) := by
  intro character member
  have digit : character.isDigit = true := by
    rw [Nat.toString_eq_repr, Nat.toList_repr] at member
    exact Nat.isDigit_of_mem_toDigits (by decide) (by decide) member
  have lower : '0'.toNat ≤ character.toNat := (isDigit_iff.mp digit).1
  have upper : character.toNat ≤ '9'.toNat := (isDigit_iff.mp digit).2
  simp only [Char.reduceToNat] at lower upper
  refine ⟨by omega, by omega, ?_, ?_⟩ <;> rintro rfl <;> revert digit <;> decide

/-- Hexadecimal texts are plain. -/
theorem plain_encode (bytes : Bytes) : Plain (Hex.encode bytes) := by
  intro character member
  rw [Hex.encode, String.toList_ofList, List.mem_flatMap] at member
  obtain ⟨byte, -, digit⟩ := member
  -- There are sixteen digits.
  have table : ∀ number < 16, PlainCharacter (Hex.digitChar (.ofNat number)) := by decide
  have plain {value : UInt8} (small : value.toNat < 16) : PlainCharacter (Hex.digitChar value) := by
    have found := table value.toNat small
    rwa [UInt8.ofNat_toNat] at found
  have bound := byte.toNat_lt
  have high : (byte / 16).toNat < 16 := by
    rw [UInt8.toNat_div]
    exact Nat.div_lt_of_lt_mul bound
  have low : (byte % 16).toNat < 16 := by
    rw [UInt8.toNat_mod]
    exact Nat.mod_lt _ (by decide)
  rcases List.mem_pair.mp digit with rfl | rfl
  · exact plain high
  · exact plain low

/-- Plain characters are as many columns wide as they are. -/
theorem measured_of_plain {characters : List Char}
    (plain : ∀ character ∈ characters, PlainCharacter character) :
    measured characters = ((characters.length : Int), TrailStyle.bare .plain) := by
  induction characters with
  | nil => rfl
  | cons character others inductionHypothesis =>
    obtain ⟨⟨printed, first, -, -⟩, rest⟩ := List.forall_mem_cons.mp plain
    have unbroken : character ≠ '\n' := by
      rintro rfl
      revert printed
      decide
    have step : widthStep character (.bare .plain) = (1, .bare .plain) := by
      have low : character.toNat ≤ 0xA0 := by omega
      simp [widthStep, TrailStyle.bare, TrailStyle.withoutEmojiStyle, low, plainStep, unbroken]
    rw [measured_cons, inductionHypothesis rest, step, List.length_cons]
    rfl

/-- A plain text is as wide as it is long. -/
theorem width_of_plain {text : String} (plain : Plain text) : width text = text.toList.length := by
  rw [width, measured_of_plain plain]
  exact Int.toNat_natCast _

namespace Table

variable {cell : String} {table : Table} {row : List String} {widths : List Nat}

/-- A plain cell is one line. -/
theorem cellLines_of_plain (plain : Plain cell) : cellLines cell = [cell] := by
  have unbroken : '\n' ∉ cell.toList := fun member => absurd (plain _ member).1 (by decide)
  rw [cellLines, List.splitOn_eq_singleton unbroken, List.map_singleton, String.ofList_toList]

/-- A plain cell that is no wider than a column can be is as wide as it is long. -/
theorem cellWidth_of_plain (plain : Plain cell) (narrow : cell.toList.length ≤ widest) :
    cellWidth cell = cell.toList.length := by
  rw [cellWidth, cellLines_of_plain plain, List.foldl_cons, List.foldl_nil, Nat.zero_max,
    width_of_plain plain, Nat.min_eq_right narrow]

/-- A row of cells on one line, each between blanks. -/
def RowLine (cells : List String) (line : String) : Prop :=
  ∃ gaps : List Nat, gaps.length = cells.length ∧
    line = "│" ++ "┆".intercalate (cells.zipWith
      (fun cell gap => " " ++ cell ++ String.ofList (List.replicate gap ' ') ++ " ") gaps) ++ "│"

/-- A row of cells stands on one of the lines of a text. -/
def ShowsRow (text : String) (cells : List String) : Prop :=
  ∃ lines : List String, text = "\n".intercalate lines ∧ ∃ line ∈ lines, RowLine cells line

/-- A cell has room in its column. -/
def Fits (cell : String) (columns : Nat) : Prop := Plain cell ∧ cell.toList.length ≤ columns

/-- A cell that has room in its column has one line. -/
theorem zipWith_cellLines_of_fits (fits : List.Forall₂ Fits row widths) :
    widths.zipWith (fun columns cell => (cellLines cell).flatMap (wrapped columns)) row =
      row.map ([·]) := by
  induction fits with
  | nil => rfl
  | cons first _ inductionHypothesis =>
    obtain ⟨plain, room⟩ := first
    rw [List.zipWith_cons_cons, inductionHypothesis, cellLines_of_plain plain, List.map_cons,
      List.flatMap_singleton, wrapped, if_pos (by rwa [width_of_plain plain])]

/-- A row of one line in each cell is one line high. -/
theorem height_map_singleton (nonempty : row ≠ []) :
    (row.map ([·])).foldl (fun highest lines => max highest lines.length) 0 = 1 := by
  have one (row : List String) :
      (row.map ([·])).foldl (fun highest lines => max highest lines.length) 1 = 1 := by
    induction row with
    | nil => rfl
    | cons _ _ inductionHypothesis => exact inductionHypothesis
  obtain ⟨cell, others, rfl⟩ := List.exists_cons_of_ne_nil nonempty
  exact one others

/-- Cells are filled up with blanks. -/
theorem zipWith_padded (widths : List Nat) (row : List String) :
    widths.zipWith padded row = row.zipWith
      (fun cell gap => " " ++ cell ++ String.ofList (List.replicate gap ' ') ++ " ")
      (widths.zipWith (fun columns cell => columns - width cell) row) := by
  induction widths generalizing row with
  | nil => simp
  | cons columns others inductionHypothesis =>
    cases row with
    | nil => rfl
    | cons cell row => simp only [List.zipWith_cons_cons, inductionHypothesis, padded]

/-- A drawn line is a line of cells. -/
theorem rowLine_drawLine (same : widths.length = row.length) :
    RowLine row (drawLine widths row) := by
  refine ⟨widths.zipWith (fun columns cell => columns - width cell) row, ?_, ?_⟩
  · rw [List.length_zipWith, same, Nat.min_self]
  · rw [drawLine, zipWith_padded]

/-- Cells that have room in their columns stand on one line. -/
theorem drawRow_of_fits (nonempty : row ≠ []) (fits : List.Forall₂ Fits row widths) :
    drawRow widths row = [drawLine widths row] := by
  have firsts : (row.map ([·])).map (fun lines => lines[0]?.getD "") = row := by
    rw [List.map_map]
    exact List.map_id row
  simp only [drawRow, zipWith_cellLines_of_fits fits, height_map_singleton nonempty]
  rw [List.range_one, List.map_singleton, firsts]

/-- Columns that get wider have room for what they had room for. -/
theorem fits_widened {other : List String} (fits : List.Forall₂ Fits row widths)
    (same : other.length = widths.length) : List.Forall₂ Fits row (widened widths other) := by
  induction fits generalizing other with
  | nil => exact .nil
  | cons first _ inductionHypothesis =>
    cases other with
    | nil => cases same
    | cons cell others =>
      obtain ⟨plain, room⟩ := first
      exact .cons ⟨plain, Nat.le_trans room (Nat.le_max_left _ _)⟩
        (inductionHypothesis (Nat.succ.inj same))

/-- Columns that get wider for a row have room for it. -/
theorem fits_widened_self (narrow : ∀ cell ∈ row, Fits cell widest)
    (same : row.length = widths.length) : List.Forall₂ Fits row (widened widths row) := by
  induction row generalizing widths with
  | nil =>
    obtain rfl := List.length_eq_zero_iff.mp same.symm
    exact .nil
  | cons cell others inductionHypothesis =>
    cases widths with
    | nil => cases same
    | cons columns widths =>
      obtain ⟨⟨first, narrow⟩, rest⟩ := List.forall_mem_cons.mp narrow
      have room : cell.toList.length ≤ max columns (cellWidth cell) := by
        rw [cellWidth_of_plain first narrow]
        exact Nat.le_max_right _ _
      exact .cons ⟨first, room⟩ (inductionHypothesis rest (Nat.succ.inj same))

/-- Columns that get wider for some rows have room for each of them, and for what they had room
for. -/
theorem fits_foldl_widened {rows : List (List String)}
    (narrow : ∀ cell ∈ row, Fits cell widest)
    (regular : ∀ other ∈ rows, other.length = widths.length)
    (some : row ∈ rows ∨ List.Forall₂ Fits row widths) :
    List.Forall₂ Fits row (rows.foldl widened widths) := by
  induction rows generalizing widths with
  | nil => exact some.resolve_left List.not_mem_nil
  | cons other rest inductionHypothesis =>
    obtain ⟨same, others⟩ := List.forall_mem_cons.mp regular
    have kept : (widened widths other).length = widths.length := by
      rw [widened, List.length_zipWith, same, Nat.min_self]
    refine inductionHypothesis (fun row member => (others row member).trans kept.symm) ?_
    rcases some with member | fits
    · rcases List.mem_cons.mp member with rfl | later
      · exact .inr (fits_widened_self narrow same)
      · exact .inl later
    · exact .inr (fits_widened fits same)

/-- What stands in a list stands there also with something put between. -/
theorem mem_intersperse {α : Type} {item separator : α} {items : List α} (member : item ∈ items) :
    item ∈ items.intersperse separator := by
  fun_induction List.intersperse separator items with
  | case1 => cases member
  | case2 => exact member
  | case3 first rest nonempty inductionHypothesis =>
    rcases List.mem_cons.mp member with rfl | later
    · exact List.mem_cons_self
    · exact List.mem_cons_of_mem _ (List.mem_cons_of_mem _ (inductionHypothesis later))

/-- A row of plain cells, none of them wider than a column can be, stands on one line of the drawn
table. -/
theorem showsRow_render (member : row ∈ table.rows) (nonempty : row ≠ [])
    (regular : ∀ row ∈ table.rows, row.length = table.header.length)
    (narrow : ∀ cell ∈ row, Fits cell widest) :
    ShowsRow table.render row := by
  have columns : (table.header.map cellWidth).length = table.header.length := List.length_map _
  have fits : List.Forall₂ Fits row table.columnWidths :=
    fits_foldl_widened narrow (fun row member => (regular row member).trans columns.symm)
      (.inl member)
  refine ⟨table.lines, rfl, drawLine table.columnWidths row, ?_,
    rowLine_drawLine fits.length_eq.symm⟩
  have drawn : [drawLine table.columnWidths row] ∈ table.rows.map (drawRow table.columnWidths) := by
    rw [← drawRow_of_fits nonempty fits]
    exact List.mem_map_of_mem member
  simp only [lines, List.mem_append]
  exact .inl (.inr (List.mem_flatten.mpr ⟨_, mem_intersperse drawn, List.mem_singleton_self _⟩))

end Table

end OpticalLink.Text
