import Mathlib.Data.List.Forall2
import Scorebook.Answer.Table
import Scorebook.Proofs.Lookup
import Scorebook.Proofs.Number.Thousandths

/-!
# What a table changes

A result is shown row by row, with the cells of a row under the names of the columns. Rows may be
shorter or longer than the list of columns, and columns may have one name: then a cell stands under
the last column of its name that the row reaches. Main statement: that, and that no cell is changed
but a floating-point number in a decimal column.
-/

namespace Scorebook

/-- A cell and what it is rounded to, which differs for floating-point numbers only. -/
inductive Json.RoundedAs : Json → Json → Prop
  /-- A number becomes the one that it is rounded to. -/
  | rounded {x y : Binary64} (hrounds : x.RoundsTo y) : RoundedAs (.float x) (.float y)
  /-- A number that is too great for that is lost. -/
  | lost {x : Binary64} (hexceeds : x.Exceeds) : RoundedAs (.float x) .null
  /-- Every other cell stays as it is. -/
  | kept {cell : Json} (hother : ∀ x, cell ≠ .float x) : RoundedAs cell cell

/-- A cell of a column and how it is shown. -/
inductive Catalogue.ShownAs (c : Catalogue) (column : String) : Json → Json → Prop
  /-- In a decimal column it is rounded. -/
  | rounded {cell value : Json} (hdecimal : column ∈ c.decimalColumns.keys)
    (hrounded : cell.RoundedAs value) : c.ShownAs column cell value
  /-- In every other column it stays as it is. -/
  | kept {cell : Json} (hplain : column ∉ c.decimalColumns.keys) : c.ShownAs column cell cell

/-- A cell is rounded by the rule. -/
theorem Json.roundedAs_rounded (cell : Json) : cell.RoundedAs cell.rounded := by
  cases cell with
  | float x =>
    cases hrounds : x.toThousandths with
    | none =>
      rw [Json.rounded, hrounds]
      exact .lost (Binary64.toThousandths_eq_none_iff.1 hrounds)
    | some y =>
      have hy := Binary64.toThousandths_eq_some_iff.1 hrounds
      rw [Json.rounded, hrounds, Option.map_some, Option.getD_some, Json.finite, if_pos hy.finite]
      exact .rounded hy
  | _ => exact .kept nofun

/-- A row is shown under the columns that it reaches, and of those with one name under the last. -/
structure Catalogue.ShowsLast (c : Catalogue) (columns : List String) (row : List Json)
    (shown : Dict Json) : Prop where
  /-- There is an entry for each column within the width of the row, and no other. -/
  keys : ∀ key, key ∈ shown.keys ↔ ∃ i, i < row.length ∧ columns[i]? = some key
  /-- The entry is the cell of the last such column, as it is shown. -/
  cells : ∀ (i : Nat) key cell, columns[i]? = some key → row[i]? = some cell →
    (∀ j, i < j → j < row.length → columns[j]? ≠ some key) →
    ∃ value, shown.get? key = some value ∧ c.ShownAs key cell value

namespace Catalogue

variable {c : Catalogue}

/-- Decimal columns are the columns of rates, in any table, and the names of their aggregates. -/
theorem mem_decimalColumns_iff {column : String} :
    column ∈ c.decimalColumns.keys ↔
      ∃ metric, c.isRate metric = true ∧
        ((∃ context table descriptor, c.table? context = some table ∧
            table.metrics.get? metric = some descriptor ∧ column ∈ descriptor.columns) ∨
          ∃ master, c.master = some master ∧ master.columns.get? metric = some column) := by
  have hmetric (metric : String) : column ∈ c.columnsOfRate metric ↔
      ((∃ context table descriptor, c.table? context = some table ∧
          table.metrics.get? metric = some descriptor ∧ column ∈ descriptor.columns) ∨
        ∃ master, c.master = some master ∧ master.columns.get? metric = some column) := by
    have htable (table : Table) :
        column ∈ ((table.metrics.get? metric).map Descriptor.columns).getD [] ↔
          ∃ descriptor, table.metrics.get? metric = some descriptor ∧
            column ∈ descriptor.columns := by
      cases table.metrics.get? metric <;> simp
    rw [columnsOfRate, List.mem_append, List.mem_flatMap, Option.mem_toList,
      Option.bind_eq_some_iff]
    simp only [htable, Dict.values, List.mem_map, table?, Dict.get?_eq_some_iff]
    constructor
    · rintro (⟨table, ⟨⟨context, _⟩, hentry, rfl⟩, descriptor, hd, hcolumn⟩ | hmaster)
      · exact Or.inl ⟨context, _, descriptor, hentry, hd, hcolumn⟩
      · exact Or.inr hmaster
    · rintro (⟨context, table, descriptor, hentry, hd, hcolumn⟩ | hmaster)
      · exact Or.inl ⟨table, ⟨(context, table), hentry, rfl⟩, descriptor, hd, hcolumn⟩
      · exact Or.inr hmaster
  rw [decimalColumns, KeySet.mem_keys_of, List.mem_flatMap]
  simp only [hmetric, ← Dict.contains_iff, isRate]

/-- A cell is shown by the rule. -/
theorem shownAs_shownCell (c : Catalogue) (column : String) (cell : Json) :
    c.ShownAs column cell (c.shownCell column cell) := by
  by_cases hdecimal : column ∈ c.decimalColumns.keys
  · rw [shownCell, if_pos (Dict.contains_iff.2 hdecimal)]
    exact .rounded hdecimal cell.roundedAs_rounded
  · rw [shownCell, if_neg (fun h => hdecimal (Dict.contains_iff.1 h))]
    exact .kept hdecimal

/-- In a decimal column a cell is rounded. -/
theorem ShownAs.roundedAs {column : String} {cell value : Json}
    (h : c.ShownAs column cell value) (hdecimal : column ∈ c.decimalColumns.keys) :
    cell.RoundedAs value := by
  cases h with
  | rounded _ hrounded => exact hrounded
  | kept hplain => exact absurd hdecimal hplain

/-- The cells of a row as they are shown, under the columns that it reaches. -/
def shownCells (c : Catalogue) (columns : List String) (row : List Json) : List (String × Json) :=
  (columns.zip row).map fun e => (e.1, c.shownCell e.1 e.2)

/-- At each place stands the cell of that place under the column of that place. -/
theorem getElem?_shownCells {columns : List String} {row : List Json} {i : Nat} {key : String}
    {value : Json} : (c.shownCells columns row)[i]? = some (key, value) ↔
      ∃ cell, columns[i]? = some key ∧ row[i]? = some cell ∧ value = c.shownCell key cell := by
  rw [shownCells, List.getElem?_map, Option.map_eq_some_iff]
  constructor
  · rintro ⟨⟨column, cell⟩, hzip, heq⟩
    obtain ⟨rfl, rfl⟩ := Prod.mk.inj heq
    obtain ⟨hcolumn, hcell⟩ := List.getElem?_zip_eq_some.1 hzip
    exact ⟨cell, hcolumn, hcell, rfl⟩
  · rintro ⟨cell, hcolumn, hcell, rfl⟩
    exact ⟨(key, cell), List.getElem?_zip_eq_some.2 ⟨hcolumn, hcell⟩, rfl⟩

/-- A row is shown under the columns that it reaches. -/
theorem showsLast_shownRow (c : Catalogue) (columns : List String) (row : List Json) :
    c.ShowsLast columns row (c.shownRow columns row) := by
  have hrow : c.shownRow columns row = Dict.ofList (c.shownCells columns row) := rfl
  constructor
  · intro key
    rw [hrow, Dict.mem_keys_ofList, List.mem_map]
    constructor
    · rintro ⟨⟨key, value⟩, hmem, rfl⟩
      obtain ⟨i, hi⟩ := List.mem_iff_getElem?.1 hmem
      obtain ⟨cell, hcolumn, hcell, -⟩ := getElem?_shownCells.1 hi
      exact ⟨i, (List.getElem?_eq_some_iff.1 hcell).1, hcolumn⟩
    · rintro ⟨i, hi, hcolumn⟩
      have hget : (c.shownCells columns row)[i]? = some (key, c.shownCell key row[i]) :=
        getElem?_shownCells.2 ⟨row[i], hcolumn, List.getElem?_eq_getElem hi, rfl⟩
      exact ⟨_, List.mem_of_getElem? hget, rfl⟩
  · intro i key cell hcolumn hcell hlast
    refine ⟨c.shownCell key cell, ?_, c.shownAs_shownCell key cell⟩
    rw [hrow]
    refine Dict.get?_ofList_of_last (getElem?_shownCells.2 ⟨cell, hcolumn, hcell, rfl⟩) ?_
    intro j value hij hj
    obtain ⟨other, hcolumn', hcell', -⟩ := getElem?_shownCells.1 hj
    exact hlast j hij (List.getElem?_eq_some_iff.1 hcell').1 hcolumn'

example : (shownRow { version := "1", tables := ∅ } ["g", "era", "g", "w"]
    [.int 30, .null, .int 31]).entries = [("era", .null), ("g", .int 31)] := rfl

/-- A result is shown with all of its rows in order, each under the columns that it reaches, with
all columns in order, with those among them that are decimal, and with its number of rows. Nothing
is changed but floating-point numbers in decimal columns. -/
theorem table_keeps_cells (c : Catalogue) (result : ResultSet) :
    List.Forall₂ (c.ShowsLast result.columns) result.rows (c.table result).rows ∧
      (c.table result).columns.map ColumnLabel.key = result.columns ∧
      (c.table result).decimalColumns =
        result.columns.filter (fun column => decide (column ∈ c.decimalColumns.keys)) ∧
      (c.table result).rowCount = result.rowCount := by
  refine ⟨?_, ?_, ?_, rfl⟩
  · apply List.forall₂_map_right_iff.2
    apply List.forall₂_same.2
    intro row _
    exact c.showsLast_shownRow result.columns row
  · rw [table, List.map_map]
    exact List.map_id result.columns
  · apply List.filter_congr
    intro column _
    rw [Bool.eq_iff_iff, decide_eq_true_eq, Dict.contains_iff]

end Catalogue

end Scorebook
