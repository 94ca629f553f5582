import Scorebook.Json.Basic
import Scorebook.Number.Shortest

/-!
# Writing JSON

The compact form has no blanks; the indented form puts every item and field on a line of its own.
Fields are written in the order of the value. Strings escape the quote, the backslash and the
control characters below the space, and leave every other character as it is. Floating-point numbers
have the fewest digits that read back.
-/

namespace Scorebook.Json

/-- A control character below the space as a four-digit escape. -/
def unitEscape (c : Char) : List Char :=
  ['\\', 'u', '0', '0', Nat.digitChar (c.toNat / 16), Nat.digitChar (c.toNat % 16)]

/-- A character inside a string. -/
def charText (c : Char) : List Char :=
  if c = '"' then ['\\', '"']
  else if c = '\\' then ['\\', '\\']
  else if c = '\n' then ['\\', 'n']
  else if c = '\r' then ['\\', 'r']
  else if c = '\t' then ['\\', 't']
  else if c = '\x08' then ['\\', 'b']
  else if c = '\x0c' then ['\\', 'f']
  else if c.toNat < 0x20 then unitEscape c
  else [c]

/-- A string in quotes. -/
def stringText (s : String) : List Char := '"' :: s.toList.flatMap charText ++ ['"']

/-- A whole number in decimal. -/
def intText (n : Int) : List Char :=
  if n < 0 then '-' :: Nat.toDigits 10 n.natAbs else Nat.toDigits 10 n.natAbs

/-- Significant digits whose first one stands for the power of ten `leading`. From the fifth
negative power to the fifteenth they are written positionally, with at least one digit behind the
point; beyond that with an exponent that carries its sign. -/
def digitsText (digits : List Char) (leading : Int) : List Char :=
  if -5 ≤ leading ∧ leading < 0 then
    '0' :: '.' :: List.replicate (-leading - 1).toNat '0' ++ digits
  else if 0 ≤ leading ∧ leading ≤ 15 then
    let width := leading.toNat + 1
    let whole := digits.take width ++ List.replicate (width - digits.length) '0'
    let fraction := digits.drop width
    whole ++ '.' :: (if fraction.isEmpty then ['0'] else fraction)
  else
    let point := if digits.length ≤ 1 then [] else ['.']
    let sign := if leading < 0 then '-' else '+'
    digits.take 1 ++ point ++ digits.drop 1 ++ 'e' :: sign :: Nat.toDigits 10 leading.natAbs

/-- A finite floating-point number. -/
def floatText (x : Binary64) : List Char :=
  let sign := if x.negative then ['-'] else []
  if x.magnitude = 0 then sign ++ ['0', '.', '0']
  else
    let (digits, leading) := (Decimal.shortest x).scientific
    sign ++ digitsText digits leading

mutual

/-- The compact form of a value. -/
def chars : Json → List Char
  | .null => ['n', 'u', 'l', 'l']
  | .bool true => ['t', 'r', 'u', 'e']
  | .bool false => ['f', 'a', 'l', 's', 'e']
  | .int n => intText n
  | .float x => floatText x
  | .str s => stringText s
  | .arr items => '[' :: itemsChars items ++ [']']
  | .obj fields => '{' :: fieldsChars fields ++ ['}']

/-- The compact form of the items of a list. -/
def itemsChars : List Json → List Char
  | [] => []
  | [only] => chars only
  | first :: second :: rest => chars first ++ ',' :: itemsChars (second :: rest)

/-- The compact form of the fields of an object. -/
def fieldsChars : List (String × Json) → List Char
  | [] => []
  | [(key, value)] => stringText key ++ ':' :: chars value
  | (key, value) :: second :: rest =>
    stringText key ++ ':' :: chars value ++ ',' :: fieldsChars (second :: rest)

end

/-- The compact form of a value. -/
def compact (value : Json) : String := String.ofList value.chars

/-- A line break with two blanks for each level of nesting. -/
def newline (level : Nat) : List Char := '\n' :: List.replicate (2 * level) ' '

mutual

/-- The indented form of a value at a level of nesting. -/
def indentedChars (level : Nat) : Json → List Char
  | .arr [] => ['[', ']']
  | .obj [] => ['{', '}']
  | .arr items => '[' :: indentedItems (level + 1) items ++ newline level ++ [']']
  | .obj fields => '{' :: indentedFields (level + 1) fields ++ newline level ++ ['}']
  | .null => ['n', 'u', 'l', 'l']
  | .bool true => ['t', 'r', 'u', 'e']
  | .bool false => ['f', 'a', 'l', 's', 'e']
  | .int n => intText n
  | .float x => floatText x
  | .str s => stringText s

/-- The indented form of items, each on its line. -/
def indentedItems (level : Nat) : List Json → List Char
  | [] => []
  | [only] => newline level ++ indentedChars level only
  | first :: second :: rest =>
    newline level ++ indentedChars level first ++ ',' :: indentedItems level (second :: rest)

/-- The indented form of fields, each on its line. -/
def indentedFields (level : Nat) : List (String × Json) → List Char
  | [] => []
  | [(key, value)] =>
    newline level ++ stringText key ++ ':' :: ' ' :: indentedChars level value
  | (key, value) :: second :: rest =>
    newline level ++ stringText key ++ ':' :: ' ' :: indentedChars level value
      ++ ',' :: indentedFields level (second :: rest)

end

/-- The indented form of a value. -/
def indented (value : Json) : String := String.ofList (value.indentedChars 0)

example : (float ⟨0x4341C37937E08000⟩).compact = "1e+16" := by decide +kernel
example : (float ⟨0x3EE4F8B588E368F1⟩).compact = "0.00001" := by decide +kernel
example : (float ⟨0x4059000000000000⟩).compact = "100.0" := by decide +kernel

end Scorebook.Json
