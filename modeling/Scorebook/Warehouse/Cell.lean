import Scorebook.Json.Basic
import Scorebook.Number.Range
import Scorebook.Text.Utf8

/-!
# Cells of a database

How the typed cells of a database become JSON values. Whole numbers stay whole as far as the type of
the cell lets them, an infinity or a NaN becomes `null`, and a decimal becomes the floating-point
number nearest to it.
-/

namespace Scorebook

/-- A type of whole numbers. -/
inductive IntType where
  /-- Types with a sign, of 8 to 128 bits. -/
  | tinyint | smallint | int | bigint | hugeint
  /-- Types without a sign, of 8 to 64 bits. -/
  | utinyint | usmallint | uint | ubigint
  deriving DecidableEq, Repr

/-- The numbers of a type. -/
def IntType.range : IntType → IntRange
  | .tinyint => .signed 8
  | .smallint => .signed 16
  | .int => .signed 32
  | .bigint => .signed 64
  | .hugeint => .signed 128
  | .utinyint => .unsigned 8
  | .usmallint => .unsigned 16
  | .uint => .unsigned 32
  | .ubigint => .unsigned 64

/-- A cell of a database. -/
inductive Cell where
  /-- No value. -/
  | null
  /-- A truth value. -/
  | boolean (value : Bool)
  /-- A whole number of some type. -/
  | integer (type : IntType) (value : Int)
  /-- A floating-point number of 32 bits. -/
  | single (bits : UInt32)
  /-- A floating-point number of 64 bits. -/
  | double (value : Binary64)
  /-- A decimal: a whole number by a power of ten. -/
  | decimal (unscaled : Int) (scale : Nat)
  /-- A text, as its octets. -/
  | text (octets : List UInt8)
  /-- Octets that are no text. -/
  | blob (octets : List UInt8)
  /-- A value of a type that has no JSON form. -/
  | unsupported
  deriving DecidableEq, Repr

/-- The JSON value of a cell. A number of the widest type is whole where 64 bits with a sign hold
it, and else the nearest floating-point number. -/
def Cell.toJson : Cell → Json
  | .null => .null
  | .boolean value => .bool value
  | .integer .hugeint n =>
    if (IntType.range .bigint).holds n then .int n
    else Json.finite (Binary64.ofInt n)
  | .integer _ n => .int n
  | .single bits => ((Binary64.ofBinary32? bits).map Json.float).getD .null
  | .double x => Json.finite x
  | .decimal n scale => Json.finite (Binary64.ofRatio (decide (n < 0)) n.natAbs (Nat.pow 10 scale))
  | .text octets => .str (Text.Utf8.decodeLossy octets)
  | .blob octets => .str ("<blob " ++ octets.length.repr ++ " bytes>")
  | .unsupported => .str "<unsupported>"

end Scorebook
