import Scorebook.Settings.Basic
import Scorebook.Yaml.Decode
import Scorebook.Yaml.Layout

/-!
# Settings as documents

The reader of the file of settings. A section, and a setting within it, may be left out; what the
program does not know is passed over; and a document without content leaves everything at its
default.
-/

namespace Scorebook

open Yaml

/-- The settings of the warehouse that a node writes. -/
def WarehouseSettings.ofNode? (node : Node) : Option WarehouseSettings := do
  let entries ← node.entries?
  let unset : WarehouseSettings := {}
  return {
    database := ← fieldOr unset.database Node.scalar? entries "database"
    timeoutMs := ← fieldOr unset.timeoutMs (Node.natural? (UInt64.size - 1)) entries "timeout_ms" }

/-- The settings of the engine that a node writes. -/
def EngineSettings.ofNode? (node : Node) : Option EngineSettings := do
  let entries ← node.entries?
  let unset : EngineSettings := {}
  let limit? (node : Node) : Option UInt32 := (node.natural? (UInt32.size - 1)).map UInt32.ofNat
  return {
    defaultLimit := ← fieldOr unset.defaultLimit limit? entries "default_limit"
    slowQueryMs := ←
      fieldOr unset.slowQueryMs (Node.natural? (UInt64.size - 1)) entries "slow_query_ms" }

/-- The settings of the language model that a node writes. -/
def ModelSettings.ofNode? (node : Node) : Option ModelSettings := do
  let entries ← node.entries?
  let unset : ModelSettings := {}
  return {
    model := ← fieldOr unset.model Node.scalar? entries "model"
    maxAttempts := ←
      fieldOr unset.maxAttempts (Node.natural? (UInt64.size - 1)) entries "max_attempts" }

/-- The settings of the journal that a node writes. -/
def JournalSettings.ofNode? (node : Node) : Option JournalSettings := do
  let entries ← node.entries?
  let unset : JournalSettings := {}
  return {
    level := ← fieldOr unset.level Node.scalar? entries "level"
    format := ← fieldOr unset.format Node.scalar? entries "format"
    output := ← fieldOr unset.output Node.scalar? entries "output"
    directory := ← fieldOr unset.directory Node.scalar? entries "directory" }

namespace Settings

/-- The file of the catalogue that a node writes. -/
def cataloguePathOf? (node : Node) : Option (Option String) := do
  fieldOr none Node.optionalText? (← node.entries?) "path"

/-- The settings that a node writes. -/
def ofNode? (node : Node) : Option Settings := do
  let entries ← node.entries?
  return {
    warehouse := ← fieldOr {} WarehouseSettings.ofNode? entries "warehouse"
    engine := ← fieldOr {} EngineSettings.ofNode? entries "engine"
    model := ← fieldOr {} ModelSettings.ofNode? entries "llm"
    cataloguePath := ← fieldOr none cataloguePathOf? entries "registry"
    journal := ← fieldOr {} JournalSettings.ofNode? entries "logging" }

/-- The settings that a document writes. -/
def read? (text : String) : Option Settings :=
  match document? text with
  | none => none
  | some none => some {}
  | some (some node) => ofNode? node

end Settings

end Scorebook
