import Scorebook.Dict
import Scorebook.Number.Binary64

/-!
# JSON values

Whole numbers and floating-point numbers are kept apart, as a reader of an intent has to tell `2024`
from `2024.0`. An object is a list of fields: what is read or built by `object` has its keys in
ascending order without repetition, and a record written in a fixed order keeps that order.
-/

namespace Scorebook

/-- A JSON value. -/
inductive Json where
  /-- The value `null`. -/
  | null
  /-- A truth value. -/
  | bool (value : Bool)
  /-- A whole number. -/
  | int (value : Int)
  /-- A floating-point number. -/
  | float (value : Binary64)
  /-- A string. -/
  | str (value : String)
  /-- A list of values. -/
  | arr (items : List Json)
  /-- Named values. -/
  | obj (fields : List (String × Json))
  deriving Repr, Inhabited, BEq

namespace Json

/-- The object with the given fields, sorted by key. Of two fields with the same key the later one
stays. -/
def object (fields : List (String × Json)) : Json :=
  .obj (fields.foldl (fun sorted field => insertEntry field.1 field.2 sorted) [])

/-- The fields of an object. -/
def fields? : Json → Option (List (String × Json))
  | .obj fields => some fields
  | _ => none

/-- The items of a list. -/
def items? : Json → Option (List Json)
  | .arr items => some items
  | _ => none

/-- The text of a string. -/
def text? : Json → Option String
  | .str text => some text
  | _ => none

/-- The value of a whole number. -/
def int? : Json → Option Int
  | .int n => some n
  | _ => none

/-- Whether a value is `null`. -/
def isNull : Json → Bool
  | .null => true
  | _ => false

/-- Whether a value is an object. -/
def isObject : Json → Bool
  | .obj _ => true
  | _ => false

/-- A field of an object; nothing for other values. -/
def field? (value : Json) (key : String) : Option Json :=
  value.fields?.bind (·.lookup key)

/-- A list of strings. -/
def strings (texts : List String) : Json := .arr (texts.map .str)

/-- A finite number as a value; `null` for an infinity or a NaN, which JSON cannot write. -/
def finite (x : Binary64) : Json := if x.isFinite then .float x else .null

end Json

end Scorebook
