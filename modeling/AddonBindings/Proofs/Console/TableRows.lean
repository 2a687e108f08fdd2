import AddonBindings.Proofs.Console.Wrapping
import AddonBindings.Proofs.Traversal
import Mathlib.Data.List.GetD

/-!
Contract: tables row by row.

Owns:
- tables that are made from rows of cells;
- the lines of such a table if all its cells can be shown, one block for each row;
- the fault of a table in which some cell cannot.

Does not own: which texts cells show, which is in `AddonBindings.Proofs.Console.Verbatim`,
and which of them take one line, which is in `AddonBindings.Proofs.Console.Wrapping`.
-/

namespace AddonBindings.Console

open AddonBindings.Traversal

def Table.ofRows (title : String) (headings : List String) (rows : List (List String)) : Table :=
  ⟨title, headings.mapIdx fun index heading => ⟨heading, rows.map fun row => row.getD index ""⟩⟩

def rowTexts (row : List String) : Except MarkupFault (List (List Char)) :=
  row.mapM cellText

/-- The columns as they are laid out if headings and cells show the given texts. -/
def laidColumns (headings : List (List Char)) (rows : List (List (List Char))) : List LaidColumn :=
  headings.mapIdx fun index heading =>
    let cells := rows.map fun row => row.getD index []
    ⟨(((heading :: cells).map widestLine).max?).getD 0, heading, cells⟩

/-- The lines of a table whose title, headings and rows show the given texts: below the
title and the headings one row after the other. -/
def rowWiseLines (title : List Char) (headings : List (List Char))
    (rows : List (List (List Char))) : List String :=
  let widths := (laidColumns headings rows).map LaidColumn.width
  let total := widths.foldl (fun total width => total + width + 3) 1
  [centred total title, frameLine "┏" "━" "┳" "┓" widths] ++ rowLines "┃" widths headings ++
    [frameLine "┡" "━" "╇" "┩" widths] ++ rows.flatMap (rowLines "│" widths) ++
    [frameLine "└" "─" "┴" "┘" widths]

variable {title : String} {headings : List String} {rows : List (List String)}
  {titleText : List Char} {headingTexts : List (List Char)} {texts : List (List (List Char))}

private theorem cellText_empty : cellText "" = .ok [] := by
  simp [cellText, shown, piecesFrom, shownPieces, withoutControls, Except.map]

theorem length_of_rowTexts {row : List String} {cells : List (List Char)}
    (shows : rowTexts row = .ok cells) : row.length = cells.length :=
  (mapM_eq_ok_iff_forall₂.mp shows).length_eq

private theorem cellText_getD {row : List String} {cells : List (List Char)}
    (shows : rowTexts row = .ok cells) (index : Nat) :
    cellText (row.getD index "") = .ok (cells.getD index []) := by
  have each := mapM_eq_ok_iff_forall₂.mp shows
  induction each generalizing index with
  | nil => exact cellText_empty
  | cons head tail inductionHypothesis =>
      cases index with
      | zero => exact head
      | succ index => exact inductionHypothesis (mapM_eq_ok_iff_forall₂.mpr tail) index

/-! ## Rows that can be shown -/

private theorem mapM_lay_ofRows (headed : rowTexts headings = .ok headingTexts)
    (shows : rows.mapM rowTexts = .ok texts) :
    (Table.ofRows title headings rows).columns.mapM Column.lay =
      .ok (laidColumns headingTexts texts) := by
  have sameLength := length_of_rowTexts headed
  have headingAt := (List.forall₂_iff_get.mp (mapM_eq_ok_iff_forall₂.mp headed)).2
  rw [mapM_eq_ok_iff_forall₂, List.forall₂_iff_get]
  refine ⟨by simp [Table.ofRows, laidColumns, sameLength], ?_⟩
  intro index within withinTexts
  have inHeadings : index < headings.length := by simpa [Table.ofRows] using within
  have inTexts : index < headingTexts.length := by simpa [laidColumns] using withinTexts
  have heading : cellText headings[index] = .ok headingTexts[index] :=
    headingAt index inHeadings inTexts
  have cells : (rows.map fun row => row.getD index "").mapM cellText =
      .ok (texts.map fun row => row.getD index []) := by
    rw [mapM_eq_ok_iff_forall₂, List.forall₂_map_left_iff, List.forall₂_map_right_iff]
    apply (mapM_eq_ok_iff_forall₂.mp shows).imp
    intro row cells showsRow
    exact cellText_getD showsRow index
  simp only [Table.ofRows, laidColumns, List.get_eq_getElem, List.getElem_mapIdx, Column.lay, heading,
    cells]
  rfl

private theorem map_range_getD {α : Type} (items : List α) (other : α) :
    ((List.range items.length).map fun index => items.getD index other) = items := by
  apply List.ext_getElem
  · simp
  · intro index within withinItems
    simp [List.getElem?_eq_getElem withinItems]

/-- The cells of all columns at one height are a row. -/
theorem map_getD_laidColumns {row : List (List Char)} {index : Nat} (there : texts[index]? = some row)
    (full : row.length = headingTexts.length) :
    ((laidColumns headingTexts texts).map fun column => column.cells.getD index []) = row := by
  apply List.ext_getElem
  · simp [laidColumns, full]
  · intro column within withinRow
    simp [laidColumns, there, List.getElem?_eq_getElem withinRow]

private theorem height_laidColumns (nonempty : headingTexts ≠ []) :
    (((laidColumns headingTexts texts).map fun column => column.cells.length).max?).getD 0 =
      texts.length := by
  have same : ((laidColumns headingTexts texts).map fun column => column.cells.length) =
      List.replicate headingTexts.length texts.length := by
    rw [List.eq_replicate_iff]
    simp [laidColumns]
  have positive : headingTexts.length ≠ 0 := by simpa using nonempty
  rw [same, List.max?_replicate, if_neg positive, Option.getD_some]

private theorem flatMap_range_laidColumns (full : ∀ row ∈ texts, row.length = headingTexts.length)
    (layRow : List (List Char) → List String) :
    ((List.range texts.length).flatMap fun index =>
        layRow ((laidColumns headingTexts texts).map fun column => column.cells.getD index [])) =
      texts.flatMap layRow := by
  have rowAt : ((List.range texts.length).map fun index =>
      (laidColumns headingTexts texts).map fun column => column.cells.getD index []) = texts := by
    rw [← map_range_getD texts []]
    simp only [List.length_map, List.length_range]
    apply List.map_congr_left
    intro index member
    have within := List.mem_range.mp member
    have there := List.getElem?_eq_getElem within
    rw [map_range_getD, map_getD_laidColumns there (full _ (List.getElem_mem within)), List.getD, there,
      Option.getD_some]
  conv => rhs; rw [← rowAt]
  rw [List.flatMap_map]

/-- The lines of a table all of whose texts can be shown. -/
theorem lines_ofRows (nonempty : headings ≠ []) (full : ∀ row ∈ rows, row.length = headings.length)
    (titled : cellText title = .ok titleText) (headed : rowTexts headings = .ok headingTexts)
    (shows : rows.mapM rowTexts = .ok texts) :
    (Table.ofRows title headings rows).lines =
      .ok (rowWiseLines titleText headingTexts texts) := by
  have sameLength := length_of_rowTexts headed
  have someTexts : headingTexts ≠ [] := by
    rintro rfl
    exact nonempty (List.length_eq_zero_iff.mp sameLength)
  have heads : (laidColumns headingTexts texts).map LaidColumn.heading = headingTexts := by
    apply List.ext_getElem
    · simp [laidColumns]
    · intro index within withinTexts
      simp [laidColumns]
  have fullTexts : ∀ cells ∈ texts, cells.length = headingTexts.length := by
    intro cells member
    obtain ⟨row, inRows, showsRow⟩ := exists_of_mem_of_mapM shows member
    rw [← length_of_rowTexts showsRow, full row inRows, sameLength]
  have titledTable : cellText (Table.ofRows title headings rows).title = .ok titleText := titled
  simp only [Table.lines, mapM_lay_ofRows headed shows, titledTable, bind, Except.bind, pure, Except.pure]
  rw [heads, height_laidColumns someTexts, flatMap_range_laidColumns fullTexts]
  rfl

/-! ## Blocks of lines -/

/-- What is printed of a row: some lines, and if each of its texts takes one line, the line
that shows them. -/
structure IsBlockOf (row : List (List Char)) (lines : List String) : Prop where
  nonempty : lines ≠ []
  shows : (∀ text ∈ row, IsPlainLine text) → ∃ line, lines = [line] ∧ ShowsInRow "│" row line

/-- The lines show the title, below it the headings, and below these one block for each of
the rows, in order.  How wide the columns are is left open. -/
inductive IsLaidOut (title : List Char) (headings : List (List Char))
    (rows : List (List (List Char))) : List String → Prop where
  | intro {before after : Nat} {heading : String} {blocks : List (List String)} {widths : List Nat}
      (headed : ShowsInRow "┃" headings heading) (each : List.Forall₂ IsBlockOf rows blocks) :
      IsLaidOut title headings rows
        ([String.ofList (List.replicate before ' ' ++ title ++ List.replicate after ' '),
            frameLine "┏" "━" "┳" "┓" widths, heading, frameLine "┡" "━" "╇" "┩" widths] ++
          blocks.flatten ++ [frameLine "└" "─" "┴" "┘" widths])

/-- Every column is wide enough for the plain lines in it. -/
theorem forall₂_lineWidth_le {row : List (List Char)} (full : row.length = headingTexts.length)
    (member : row = headingTexts ∨ row ∈ texts) (plain : ∀ text ∈ row, IsPlainLine text) :
    List.Forall₂ (fun text width => Text.lineWidth text ≤ width) row
      ((laidColumns headingTexts texts).map LaidColumn.width) := by
  rw [List.forall₂_iff_get]
  refine ⟨by simp [laidColumns, full], ?_⟩
  intro index within _
  have inHeadings : index < headingTexts.length := by rwa [← full]
  have isPlain := plain row[index] (List.getElem_mem within)
  have listed : row[index] ∈ headingTexts[index] :: texts.map fun row => row.getD index [] := by
    rcases member with rfl | inTexts
    · exact List.mem_cons_self
    · refine List.mem_cons_of_mem _ (List.mem_map.mpr ⟨row, inTexts, ?_⟩)
      exact List.getD_eq_getElem row [] within
  have atMost := @List.le_max?_getD_of_mem _ _ 0 (List.mem_map_of_mem (f := widestLine) listed)
  rw [isPlain.widestLine_eq] at atMost
  simpa [laidColumns] using atMost

/-- A table in which every row is as long as the headings is printed row by row. -/
theorem isLaidOut_rowWiseLines (nonempty : headingTexts ≠ [])
    (plain : ∀ text ∈ headingTexts, IsPlainLine text)
    (full : ∀ row ∈ texts, row.length = headingTexts.length) :
    IsLaidOut titleText headingTexts texts (rowWiseLines titleText headingTexts texts) := by
  have wide : (laidColumns headingTexts texts).map LaidColumn.width ≠ [] := by
    simpa [laidColumns] using nonempty
  have headingFits := @forall₂_lineWidth_le headingTexts texts headingTexts rfl (.inl rfl) plain
  have blocks : List.Forall₂ IsBlockOf texts
      (texts.map (rowLines "│" ((laidColumns headingTexts texts).map LaidColumn.width))) := by
    rw [List.forall₂_map_right_iff, List.forall₂_same]
    intro row member
    have filled : row ≠ [] := by
      rintro rfl
      exact nonempty (List.length_eq_zero_iff.mp (full [] member).symm)
    refine ⟨rowLines_ne_nil "│" filled wide, ?_⟩
    intro plainRow
    have fits := forall₂_lineWidth_le (full row member) (.inr member) plainRow
    exact ⟨_, rowLines_of_isPlainLine "│" filled plainRow fits, _, forall₂_padded fits, rfl⟩
  rw [rowWiseLines, rowLines_of_isPlainLine "┃" nonempty plain headingFits, centred]
  exact .intro ⟨_, forall₂_padded headingFits, rfl⟩ blocks

/-! ## Rows that cannot be shown -/

/-- Only a cell makes a column fail whose heading can be shown. -/
theorem exists_cell_of_lay_error {heading : String} {index : Nat} {text : List Char}
    (headed : cellText heading = .ok text) {fault : MarkupFault}
    (failed : Column.lay ⟨heading, rows.map fun row => row.getD index ""⟩ = .error fault) :
    ∃ row ∈ rows, ∃ cell ∈ row, cellText cell = .error fault := by
  rcases bind_eq_error_iff.mp failed with noHeading | ⟨_, -, onward⟩
  · rw [headed] at noHeading
    cases noHeading
  · rcases bind_eq_error_iff.mp onward with noCells | ⟨_, -, same⟩
    · obtain ⟨cell, member, noCell⟩ := exists_of_mapM_eq_error noCells
      obtain ⟨row, inRows, rfl⟩ := List.mem_map.mp member
      by_cases within : index < row.length
      · rw [List.getD_eq_getElem row "" within] at noCell
        exact ⟨row, inRows, _, List.getElem_mem within, noCell⟩
      · rw [List.getD_eq_default row "" (Nat.le_of_not_lt within), cellText_empty] at noCell
        cases noCell
    · cases same

/-- A column can be laid out only if the cells of all rows at its index can be shown. -/
theorem exists_text_of_lay {heading : String} {index : Nat} {laid : LaidColumn}
    (succeeded : Column.lay ⟨heading, rows.map fun row => row.getD index ""⟩ = .ok laid)
    {row : List String} (member : row ∈ rows) :
    ∃ text, cellText (row.getD index "") = .ok text := by
  obtain ⟨_, -, onward⟩ := bind_eq_ok_iff.mp succeeded
  obtain ⟨cells, shows, -⟩ := bind_eq_ok_iff.mp onward
  obtain ⟨text, -, gives⟩ := ok_of_mem_of_mapM shows (List.mem_map_of_mem member)
  exact ⟨text, gives⟩

/-- A table with a row that cannot be shown fails with the fault of some cell. -/
theorem exists_fault_of_mapM_error (full : ∀ row ∈ rows, row.length = headings.length)
    (headed : rowTexts headings = .ok headingTexts) {fault : MarkupFault}
    (failed : rows.mapM rowTexts = .error fault) :
    ∃ row ∈ rows, ∃ cell ∈ row, ∃ fault, cellText cell = .error fault ∧
      (Table.ofRows title headings rows).lines = .error fault := by
  cases laid : (Table.ofRows title headings rows).columns.mapM Column.lay with
  | error found =>
      obtain ⟨column, member, noColumn⟩ := exists_of_mapM_eq_error laid
      obtain ⟨index, within, rfl⟩ := List.mem_mapIdx.mp member
      obtain ⟨text, -, heading⟩ := ok_of_mem_of_mapM headed (List.getElem_mem within)
      obtain ⟨row, inRows, cell, inRow, noCell⟩ := exists_cell_of_lay_error heading noColumn
      exact ⟨row, inRows, cell, inRow, found, noCell, by rw [Table.lines, laid]; rfl⟩
  | ok columns =>
      -- every cell stands in some column, so no row could fail
      obtain ⟨row, inRows, noRow⟩ := exists_of_mapM_eq_error failed
      obtain ⟨cell, inRow, noCell⟩ := exists_of_mapM_eq_error noRow
      obtain ⟨index, within, rfl⟩ := List.getElem_of_mem inRow
      have inHeadings : index < headings.length := by rwa [← full row inRows]
      have inColumns : (⟨headings[index], rows.map fun row => row.getD index ""⟩ : Column) ∈
          (Table.ofRows title headings rows).columns :=
        List.mem_mapIdx.mpr ⟨index, inHeadings, rfl⟩
      obtain ⟨column, -, succeeded⟩ := ok_of_mem_of_mapM laid inColumns
      obtain ⟨text, shows⟩ := exists_text_of_lay succeeded inRows
      rw [List.getD_eq_getElem row "" within, noCell] at shows
      cases shows

end AddonBindings.Console
