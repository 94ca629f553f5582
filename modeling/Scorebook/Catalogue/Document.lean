import Scorebook.Catalogue.Consistency
import Scorebook.Json.Basic
import Scorebook.Yaml.Decode
import Scorebook.Yaml.Layout

/-!
# Catalogues as documents

The written form of a catalogue, and its reader. The writer leaves out absent columns and empty
lists of identity columns; the reader supplies them again. A metric is written as a column, or as
the columns of a career.
-/

namespace Scorebook

/-- Why a catalogue cannot be loaded. -/
inductive LoadError where
  /-- There is no document to read. -/
  | unreadable
  /-- The document is malformed or does not have the shape of a catalogue. -/
  | malformed
  /-- The catalogue is inconsistent. -/
  | inconsistent (violation : Inconsistency)
  deriving DecidableEq, Repr

open Yaml

/-- The names of the columns of a career, in their order. -/
def CareerColumns.names : List String := ["career", "risp", "bases_loaded"]

/-- The name that a key of career columns stands for: a string its own text, a natural number the
name at its place. A number past the last name stands for no column. -/
def CareerColumns.keyName? : Node → Option String
  | .quoted text => some text
  | .plain text =>
    match meaning text with
    | .string => some text
    | .natural n => some (names[n]?.getD text)
    | _ => none
  | _ => none

/-- The columns of a career under their names. -/
def CareerColumns.ofFields? (fields : List (String × Node)) : Option CareerColumns := do
  return {
    career := ← fieldOr none Node.optionalString? fields "career"
    risp := ← fieldOr none Node.optionalString? fields "risp"
    basesLoaded := ← fieldOr none Node.optionalString? fields "bases_loaded" }

/-- The columns of a career as a mapping writes them. -/
def CareerColumns.ofEntries? (entries : List (Node × Node)) : Option CareerColumns :=
  (entries.mapM fun entry => (keyName? entry.1).map (·, entry.2)).bind ofFields?

/-- The columns of a career in their order; the last ones may be left out. -/
def CareerColumns.ofItems? (items : List Node) : Option CareerColumns :=
  if items.length ≤ names.length then ofFields? (names.zip items) else none

/-- How deep collections may be nested in a descriptor: in a document to 128 levels, of which four
lie around every descriptor. -/
def Descriptor.nestingLimit : Nat := 128 - 4

/-- The descriptor that a node writes: a string, or a mapping or a sequence of career columns. -/
def Descriptor.ofNode? (node : Node) : Option Descriptor :=
  if !node.isKept nestingLimit then none
  else match node with
  | .mapping entries => (CareerColumns.ofEntries? entries).map .career
  | .sequence items => (CareerColumns.ofItems? items).map .career
  | node => node.string?.map .direct

/-- The filter columns that a node writes. -/
def FilterColumns.ofNode? (node : Node) : Option FilterColumns := do
  let entries ← node.entries?
  return {
    inning := ← fieldOr none Node.optionalText? entries "inning"
    strikes := ← fieldOr none Node.optionalText? entries "strikes"
    balls := ← fieldOr none Node.optionalText? entries "balls"
    pitcherThrows := ← fieldOr none Node.optionalText? entries "pitcher_throws"
    pitchType := ← fieldOr none Node.optionalText? entries "pitch_type"
    gameScore := ← fieldOr none Node.optionalText? entries "game_score" }

/-- The table that a node writes. -/
def Table.ofNode? (node : Node) : Option Table := do
  let entries ← node.entries?
  return {
    source := ← required? Node.scalar? entries "table"
    nameCol := ← required? Node.scalar? entries "name_col"
    yearCol := ← fieldOr none Node.optionalText? entries "year_col"
    monthCol := ← fieldOr none Node.optionalText? entries "month_col"
    teamCol := ← fieldOr none Node.optionalText? entries "team_col"
    weightCol := ← fieldOr none Node.optionalText? entries "weight_col"
    identityCols := ← fieldOr [] Node.texts? entries "identity_cols"
    filters := ← fieldOr {} FilterColumns.ofNode? entries "filters"
    mainStats := ← fieldOr [] Node.texts? entries "main_stats"
    metrics := ← fieldOr ∅ (Node.dict? Descriptor.ofNode?) entries "metrics" }

/-- The master table that a node writes. -/
def MasterTable.ofNode? (node : Node) : Option MasterTable := do
  let entries ← node.entries?
  return {
    source := ← required? Node.scalar? entries "table"
    batterCol := ← required? Node.scalar? entries "batter_col"
    pitcherCol := ← required? Node.scalar? entries "pitcher_col"
    seasonCol := ← required? Node.scalar? entries "season_col"
    dateCol := ← required? Node.scalar? entries "date_col"
    columns := ← fieldOr ∅ (Node.dict? Node.scalar?) entries "columns" }

/-- The master table that a node writes, or nothing where a plain scalar says so. -/
def MasterTable.ofNodeOrNull? (node : Node) : Option (Option MasterTable) :=
  match node with
  | .plain text => if isNullText text then some none else none
  | _ => (MasterTable.ofNode? node).map some

namespace Catalogue

/-- The catalogue that a node writes. -/
def ofNode? (node : Node) : Option Catalogue := do
  let entries ← node.entries?
  return {
    version := ← required? Node.scalar? entries "version"
    tables := ← required? (Node.dict? Table.ofNode?) entries "tables"
    master := ← fieldOr none MasterTable.ofNodeOrNull? entries "master"
    lowerIsBetter := KeySet.of (← fieldOr [] Node.texts? entries "lower_is_better")
    decimalMetrics := KeySet.of (← fieldOr [] Node.texts? entries "decimal_metrics")
    labels := ← fieldOr ∅ (Node.dict? Node.scalar?) entries "labels" }

/-- The catalogue that a document writes, whether consistent or not. -/
def read? (text : String) : Option Catalogue :=
  (document? text).bind fun node => node.bind ofNode?

/-- A catalogue, unless something is wrong with it. -/
def checked (c : Catalogue) : Except LoadError Catalogue :=
  match c.violation? with
  | none => .ok c
  | some violation => .error (.inconsistent violation)

/-- The consistent catalogue that a document writes. -/
def load (text : String) : Except LoadError Catalogue :=
  match read? text with
  | none => .error .malformed
  | some c => c.checked

end Catalogue

/-- A field with a string, unless it is absent. -/
def presentText (key : String) (text : Option String) : List (String × Json) :=
  text.toList.map fun text => (key, .str text)

/-- The written form of a dictionary. -/
def Dict.toJson {α : Type} (value : α → Json) (d : Dict α) : Json :=
  .obj (d.entries.map fun entry => (entry.1, value entry.2))

/-- The written form of a descriptor. -/
def Descriptor.toJson : Descriptor → Json
  | .direct column => .str column
  | .career c => .obj (presentText "career" c.career ++ presentText "risp" c.risp
      ++ presentText "bases_loaded" c.basesLoaded)

/-- The written form of filter columns. -/
def FilterColumns.toJson (f : FilterColumns) : Json :=
  .obj (presentText "inning" f.inning ++ presentText "strikes" f.strikes
    ++ presentText "balls" f.balls ++ presentText "pitcher_throws" f.pitcherThrows
    ++ presentText "pitch_type" f.pitchType ++ presentText "game_score" f.gameScore)

/-- The written form of a table. -/
def Table.toJson (t : Table) : Json :=
  .obj ([("table", .str t.source), ("name_col", .str t.nameCol)]
    ++ presentText "year_col" t.yearCol ++ presentText "month_col" t.monthCol
    ++ presentText "team_col" t.teamCol ++ presentText "weight_col" t.weightCol
    ++ (if t.identityCols.isEmpty then [] else [("identity_cols", Json.strings t.identityCols)])
    ++ [("filters", t.filters.toJson), ("main_stats", Json.strings t.mainStats),
        ("metrics", t.metrics.toJson Descriptor.toJson)])

/-- The written form of a master table. -/
def MasterTable.toJson (m : MasterTable) : Json :=
  .obj [("table", .str m.source), ("batter_col", .str m.batterCol),
    ("pitcher_col", .str m.pitcherCol), ("season_col", .str m.seasonCol),
    ("date_col", .str m.dateCol), ("columns", m.columns.toJson .str)]

/-- The written form of a catalogue. -/
def Catalogue.toJson (c : Catalogue) : Json :=
  .obj ([("version", .str c.version), ("tables", c.tables.toJson Table.toJson)]
    ++ (c.master.toList.map fun m => ("master", m.toJson))
    ++ [("lower_is_better", Json.strings c.lowerIsBetter.keys),
        ("decimal_metrics", Json.strings c.decimalMetrics.keys),
        ("labels", c.labels.toJson .str)])

end Scorebook
