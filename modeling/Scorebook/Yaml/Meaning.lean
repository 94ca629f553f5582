import Scorebook.Number.Binary64

/-!
# What plain scalars stand for

A plain scalar may stand for nothing, for a truth value, for a whole number of up to 128 bits, or
for another number; if it stands for none of these it is a string. A run of digits behind a leading
zero is a string, and so is a number that is too large for a floating-point number.
-/

namespace Scorebook.Yaml

/-- What a plain scalar stands for. -/
inductive Meaning where
  /-- Nothing. -/
  | nothing
  /-- A truth value. -/
  | truth
  /-- A whole number without a minus sign. -/
  | natural (n : Nat)
  /-- A whole number with a minus sign, by its magnitude. -/
  | negative (n : Nat)
  /-- Another number. -/
  | number
  /-- A string, namely its own text. -/
  | string
  deriving DecidableEq, Repr

/-- Whether a text stands for nothing. -/
def isNullText (text : String) : Bool := ["", "~", "null", "Null", "NULL"].contains text

/-- Whether a text is a truth value. -/
def isBoolText (text : String) : Bool :=
  ["true", "True", "TRUE", "false", "False", "FALSE"].contains text

/-- A text behind a plus sign, if it has one. -/
def withoutPlus : List Char → List Char
  | '+' :: rest => rest
  | cs => cs

/-- A text behind a sign, if it has one. -/
def withoutSign : List Char → List Char
  | '+' :: rest | '-' :: rest => rest
  | cs => cs

/-- The value of digits to a base; nothing if there are none or one is out of range. -/
def digitsValue? (base : Nat) (cs : List Char) : Option Nat :=
  if cs.isEmpty then none
  else cs.foldlM (fun n c =>
    let digit := if c.isDigit then c.toNat - '0'.toNat
      else if 'a' ≤ c ∧ c ≤ 'z' then c.toNat - 'a'.toNat + 10
      else if 'A' ≤ c ∧ c ≤ 'Z' then c.toNat - 'A'.toNat + 10
      else base
    if digit < base then some (n * base + digit) else none) 0

/-- The natural number that characters write: in decimal without leading zeros, or behind a base
mark. -/
def unsigned? : List Char → Option Nat
  | '0' :: 'x' :: rest => digitsValue? 16 rest
  | '0' :: 'o' :: rest => digitsValue? 8 rest
  | '0' :: 'b' :: rest => digitsValue? 2 rest
  | '0' :: _ :: _ => none
  | cs => digitsValue? 10 cs

/-- The natural number that a text writes, with a plus sign in front if need be. -/
def naturalText? (text : String) : Option Nat := unsigned? (withoutPlus text.toList)

/-- The magnitude of the whole number that a text writes with a minus sign. -/
def negativeText? (text : String) : Option Nat :=
  match text.toList with
  | '-' :: rest => unsigned? rest
  | _ => none

/-- The exponent that a text writes; zero if there is none. -/
def exponent? : List Char → Option Int
  | [] => some 0
  | c :: rest =>
    if c == 'e' || c == 'E' then
      (digitsValue? 10 (withoutSign rest)).map fun n => if rest.head? == some '-' then -n else n
    else none

/-- A natural number times a power of ten. -/
structure Scaled where
  /-- The natural number. -/
  digits : Nat
  /-- The exponent of the power of ten. -/
  exponent : Int

/-- The number without its sign that a text writes in decimal, with a point or an exponent if need
be. A run of digits behind a leading zero is no number. -/
def decimal? (body : List Char) : Option Scaled :=
  let (whole, rest) := body.span Char.isDigit
  match rest with
  | '.' :: rest =>
    let (fraction, rest) := rest.span Char.isDigit
    match digitsValue? 10 (whole ++ fraction), exponent? rest with
    | some digits, some exponent => some ⟨digits, exponent - fraction.length⟩
    | _, _ => none
  | rest =>
    if whole.head? == some '0' && rest.isEmpty && decide (1 < whole.length) then none
    else match digitsValue? 10 whole, exponent? rest with
      | some digits, some exponent => some ⟨digits, exponent⟩
      | _, _ => none

/-- The number of decimal digits of a natural number. -/
def digitCount (n : Nat) : Nat := if n = 0 then 0 else (Nat.toDigits 10 n).length

/-- Whether a number is within the range of floating-point numbers. The number of its digits before
the point decides this, unless there are exactly as many as in the largest of them. -/
def Scaled.isFinite (s : Scaled) : Bool :=
  let leading := digitCount s.digits + s.exponent
  if s.digits = 0 ∨ leading ≤ 308 then true
  else if 309 < leading then false
  else (Binary64.ofRatio false (s.digits * Nat.pow 10 s.exponent.toNat)
    (Nat.pow 10 (-s.exponent).toNat)).isFinite

/-- Whether a text is a number with a point or an exponent, a large whole number, or one of the
words for infinity and for what is no number. -/
def isNumberText (text : String) : Bool :=
  let body := withoutSign text.toList
  (decimal? body).any (·.isFinite)
    || [".inf", ".Inf", ".INF"].contains (String.ofList body)
    || [".nan", ".NaN", ".NAN"].contains text

/-- What the text of a plain scalar stands for. -/
def meaning (text : String) : Meaning :=
  if isNullText text then .nothing
  else if isBoolText text then .truth
  else match (naturalText? text).filter (decide <| · < 1 <<< 128) with
    | some n => .natural n
    | none =>
      match (negativeText? text).filter (decide <| · ≤ 1 <<< 127) with
      | some n => .negative n
      | none => if isNumberText text then .number else .string

example : ["~", "True", "+0x1F", "-0b1", "0"].map meaning
    = [.nothing, .truth, .natural 31, .negative 1, .natural 0] := by decide +kernel
example : ["1.5e3", "0.", "+.inf"].map meaning = [.number, .number, .number] := by decide +kernel
example : ["1e400", "007", "1_000"].map meaning = [.string, .string, .string] := by decide +kernel

example : meaning "1.7976931348623158e308" = .number := by decide +kernel
example : meaning "1.7976931348623159e308" = .string := by decide +kernel

end Scorebook.Yaml
