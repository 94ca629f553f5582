import Scorebook.Json.Literal

/-!
# Reading JSON

A strict reader: no comments, no trailing commas, no leading zeros, no control characters inside
strings, no surrogate that stands alone, and only the four blanks of the standard between tokens.
Values may be nested to a limit of 127 lists and objects; the limit is what the recursion runs on.
-/

namespace Scorebook.Json.Reader

/-- A value read from the front of a text, with the rest of the text. -/
abbrev Read (α : Type) := Option (α × List Char)

/-- A text without the blanks at its front. -/
def skip (cs : List Char) : List Char :=
  cs.dropWhile fun c => c == ' ' || c == '\n' || c == '\t' || c == '\r'

/-- The value of a hexadecimal digit. -/
def hexDigit? (c : Char) : Option Nat :=
  if '0' ≤ c ∧ c ≤ '9' then some (c.toNat - '0'.toNat)
  else if 'a' ≤ c ∧ c ≤ 'f' then some (c.toNat - 'a'.toNat + 10)
  else if 'A' ≤ c ∧ c ≤ 'F' then some (c.toNat - 'A'.toNat + 10)
  else none

/-- The value of four hexadecimal digits. -/
def hexUnit? (p q r s : Char) : Option Nat := do
  return (((← hexDigit? p) * 16 + (← hexDigit? q)) * 16 + (← hexDigit? r)) * 16 + (← hexDigit? s)

/-- The character that a one-letter escape stands for. -/
def escaped? : Char → Option Char
  | '"' => some '"'
  | '\\' => some '\\'
  | '/' => some '/'
  | 'b' => some '\x08'
  | 'f' => some '\x0c'
  | 'n' => some '\n'
  | 'r' => some '\r'
  | 't' => some '\t'
  | _ => none

/-- Whether a 16-bit unit is the first of a surrogate pair. -/
def isLeading (unit : Nat) : Bool := decide (0xD800 ≤ unit) && decide (unit < 0xDC00)

/-- Whether a 16-bit unit is the second of a surrogate pair. -/
def isTrailing (unit : Nat) : Bool := decide (0xDC00 ≤ unit) && decide (unit < 0xE000)

/-- A character put in front of the characters read. -/
def withChar (c : Char) (r : Read (List Char)) : Read (List Char) :=
  r.map fun (cs, rest) => (c :: cs, rest)

/-- The characters of a string up to its closing quote. -/
def stringChars : List Char → Read (List Char)
  | [] => none
  | '"' :: rest => some ([], rest)
  | '\\' :: 'u' :: p :: q :: r :: s :: rest =>
    match hexUnit? p q r s with
    | none => none
    | some unit =>
      if isLeading unit then
        match rest with
        | '\\' :: 'u' :: p :: q :: r :: s :: rest =>
          match hexUnit? p q r s with
          | none => none
          | some second =>
            if isTrailing second then
              withChar (Char.ofNat (0x10000 + (unit - 0xD800) * 0x400 + (second - 0xDC00)))
                (stringChars rest)
            else none
        | _ => none
      else if isTrailing unit then none
      else withChar (Char.ofNat unit) (stringChars rest)
  | '\\' :: c :: rest =>
    match escaped? c with
    | some d => withChar d (stringChars rest)
    | none => none
  | c :: rest => if c.toNat < 0x20 || c == '\\' then none else withChar c (stringChars rest)

/-- The longest run of decimal digits at the front of a text. -/
def digitRun (cs : List Char) : List Nat × List Char :=
  let (digits, rest) := cs.span fun c => decide ('0' ≤ c) && decide (c ≤ '9')
  (digits.map fun c => c.toNat - '0'.toNat, rest)

/-- The digits behind a point; there has to be one. -/
def fraction : List Char → Read (Option (List Nat))
  | '.' :: rest =>
    match digitRun rest with
    | ([], _) => none
    | (digits, rest) => some (some digits, rest)
  | rest => some (none, rest)

/-- The number behind an exponent sign; there has to be one. -/
def exponentDigits (sign : Int) (cs : List Char) : Read (Option Int) :=
  match digitRun cs with
  | ([], _) => none
  | (digits, rest) => some (some (sign * (Literal.appendDigits 0 digits : Nat)), rest)

/-- The exponent of a number, if there is one. -/
def exponent : List Char → Read (Option Int)
  | 'e' :: '-' :: rest | 'E' :: '-' :: rest => exponentDigits (-1) rest
  | 'e' :: '+' :: rest | 'E' :: '+' :: rest => exponentDigits 1 rest
  | 'e' :: rest | 'E' :: rest => exponentDigits 1 rest
  | rest => some (none, rest)

/-- A number behind its sign. -/
def number (negative : Bool) (cs : List Char) : Read Json :=
  match digitRun cs with
  | ([], _) | (0 :: _ :: _, _) => none
  | (whole, rest) =>
    match fraction rest with
    | none => none
    | some (fraction, rest) =>
      match exponent rest with
      | none => none
      | some (exponent, rest) =>
        (Literal.mk negative whole fraction exponent).value?.map (·, rest)

/-- A value that is neither a list nor an object. -/
def scalar : List Char → Read Json
  | 'n' :: 'u' :: 'l' :: 'l' :: rest => some (.null, rest)
  | 't' :: 'r' :: 'u' :: 'e' :: rest => some (.bool true, rest)
  | 'f' :: 'a' :: 'l' :: 's' :: 'e' :: rest => some (.bool false, rest)
  | '"' :: rest => (stringChars rest).map fun (cs, rest) => (.str (String.ofList cs), rest)
  | '-' :: rest => number true rest
  | rest => number false rest

/-- Items up to the closing bracket, separated by commas; at least one. -/
def items {α : Type} (close : Char) (item : List Char → Read α) (cs : List Char) : Read (List α) :=
  match item cs with
  | none => none
  | some (first, rest) =>
    match skip rest with
    | [] => none
    | c :: rest =>
      if c = close then some ([first], rest)
      else if c = ',' then
        if rest.length < cs.length then
          (items close item rest).map fun (others, rest) => (first :: others, rest)
        else none
      else none
termination_by cs.length

/-- Items up to the closing bracket, or none. -/
def enclosed {α : Type} (close : Char) (item : List Char → Read α) (cs : List Char) :
    Read (List α) :=
  match skip cs with
  | [] => none
  | c :: rest => if c = close then some ([], rest) else items close item (c :: rest)

/-- A field: a key, a colon and a value. -/
def field (value : List Char → Read Json) (cs : List Char) : Read (String × Json) :=
  match skip cs with
  | '"' :: rest =>
    match stringChars rest with
    | none => none
    | some (key, rest) =>
      match skip rest with
      | ':' :: rest => (value rest).map fun (value, rest) => ((String.ofList key, value), rest)
      | _ => none
  | _ => none

/-- A value with at most `depth` lists and objects around any part of it. -/
def value : (depth : Nat) → List Char → Read Json
  | 0, cs => scalar (skip cs)
  | depth + 1, cs =>
    match skip cs with
    | '[' :: rest => (enclosed ']' (value depth) rest).map fun (items, rest) => (.arr items, rest)
    | '{' :: rest =>
      (enclosed '}' (field (value depth)) rest).map fun (fields, rest) => (.object fields, rest)
    | other => scalar other

end Reader

/-- How deep lists and objects may be nested. -/
def nestingLimit : Nat := 127

/-- The value that a text writes, if it writes exactly one. -/
def parse? (text : String) : Option Json :=
  match Reader.value nestingLimit text.toList with
  | some (value, rest) => if (Reader.skip rest).isEmpty then some value else none
  | none => none

end Scorebook.Json
