import Scorebook.Dict
import Scorebook.Json.Basic
import Scorebook.Number.Range

/-!
# Queries and their parameters

A query is SQL text with named placeholders, together with the values that belong to them. A value
is a whole number, a string, or a list of either. In JSON the kind of a value is not named but seen
from its form; the empty list counts as a list of numbers.
-/

namespace Scorebook

/-- A value bound to a placeholder. -/
inductive Param where
  /-- A whole number of 64 bits. -/
  | int (value : Int64)
  /-- A string. -/
  | text (value : String)
  /-- A list of whole numbers. -/
  | ints (values : List Int64)
  /-- A list of strings. -/
  | texts (values : List String)
  deriving DecidableEq, Repr

namespace Param

/-- A whole number in JSON. -/
def intJson (n : Int64) : Json := .int n.toInt

/-- The JSON form of a value. -/
def toJson : Param → Json
  | .int n => intJson n
  | .text s => .str s
  | .ints ns => .arr (ns.map intJson)
  | .texts ss => Json.strings ss

/-- A whole number of 64 bits with a sign. -/
def intOf? : Json → Option Int64
  | .int n => if (IntRange.signed 64).holds n then some (Int64.ofInt n) else none
  | _ => none

/-- The value that a JSON value stands for. A list is read as numbers if all its items are numbers,
and else as strings. -/
def ofJson? : Json → Option Param
  | .str s => some (.text s)
  | .arr items =>
    match items.mapM intOf? with
    | some ns => some (.ints ns)
    | none => (items.mapM Json.text?).map .texts
  | value => (intOf? value).map .int

end Param

/-- SQL text with named placeholders, and the values for them. -/
structure Query where
  /-- The SQL text. -/
  sql : String
  /-- The values by the names of their placeholders. -/
  params : Dict Param
  deriving DecidableEq, Repr

namespace Query

/-- The value for a placeholder. -/
def param? (query : Query) (name : String) : Option Param := query.params.get? name

/-- Values by name in JSON. -/
def paramsToJson (params : Dict Param) : Json :=
  .obj (params.entries.map fun entry => (entry.1, entry.2.toJson))

/-- Values by name as they are read from JSON; of two with the same name the later one stays. -/
def paramsOfJson? (value : Json) : Option (Dict Param) := do
  let entries ← (← value.fields?).mapM fun field => (Param.ofJson? field.2).map (field.1, ·)
  return Dict.ofList entries

/-- The JSON form of a query. -/
def toJson (query : Query) : Json :=
  .obj [("sql", .str query.sql), ("params", paramsToJson query.params)]

/-- A query as it is read from JSON. -/
def ofJson? (value : Json) : Option Query := do
  let sql ← (← value.field? "sql").text?
  let params ← paramsOfJson? (← value.field? "params")
  return ⟨sql, params⟩

end Query

end Scorebook
