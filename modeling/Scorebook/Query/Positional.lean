import Scorebook.Query.Param
import Scorebook.Text.Search

/-!
# Positional queries

A database takes its values by position. The text of a query is cut into pieces from left to right:
a placeholder in the list form `UNNEST(@name)`, a placeholder `@name` by itself, or any other
character. Each placeholder becomes a question mark, in the list form as many as there are items,
and the values are collected in the same order.
-/

namespace Scorebook

/-- A piece of SQL text. -/
inductive Piece where
  /-- A character that belongs to no placeholder. -/
  | plain (c : Char)
  /-- A placeholder by itself. -/
  | single (name : String)
  /-- A placeholder in the list form. -/
  | spread (name : String)
  deriving DecidableEq, Repr

namespace Piece

/-- Whether a character may open the name of a placeholder: an ASCII letter or an underscore. -/
def opensName (c : Char) : Bool := c.isAlpha || c == '_'

/-- Whether a character may stand inside the name of a placeholder. -/
def insideName (c : Char) : Bool := opensName c || c.isDigit

/-- The longest name at the start of a text, and the rest. -/
def name? : List Char → Option (String × List Char)
  | [] => none
  | c :: cs =>
    if opensName c then
      some (String.ofList (c :: cs.takeWhile insideName), cs.dropWhile insideName)
    else none

/-- A placeholder in the list form at the start of a text, and the rest. -/
def spread? (cs : List Char) : Option (String × List Char) :=
  match (Text.dropOpening? "UNNEST(@".toList cs).bind name? with
  | some (name, ')' :: rest) => some (name, rest)
  | _ => none

/-- A placeholder by itself at the start of a text, and the rest. -/
def single? : List Char → Option (String × List Char)
  | '@' :: cs => name? cs
  | _ => none

/-- The first piece of a text that is not empty, and the rest. -/
def first (c : Char) (cs : List Char) : Piece × List Char :=
  match spread? (c :: cs) with
  | some (name, rest) => (.spread name, rest)
  | none =>
    match single? (c :: cs) with
    | some (name, rest) => (.single name, rest)
    | none => (.plain c, cs)

/-- A name leaves a shorter text. -/
theorem name?_shorter {cs rest : List Char} {name : String} (h : name? cs = some (name, rest)) :
    rest.length < cs.length := by
  cases cs with
  | nil => simp [name?] at h
  | cons c cs =>
    simp only [name?] at h
    split at h
    · simp only [Option.some.injEq, Prod.mk.injEq] at h
      obtain ⟨-, rfl⟩ := h
      exact Nat.lt_succ_of_le (List.dropWhile_sublist _).length_le
    · cases h

/-- The first piece takes at least one character. -/
theorem first_shorter (c : Char) (cs : List Char) : (first c cs).2.length < (c :: cs).length := by
  unfold first
  split
  · rename_i name rest h
    unfold spread? at h
    split at h
    · rename_i name' rest' h'
      simp only [Option.some.injEq, Prod.mk.injEq] at h
      obtain ⟨-, rfl⟩ := h
      obtain ⟨mid, hm, hn⟩ := Option.bind_eq_some_iff.1 h'
      have h1 := name?_shorter hn
      have h2 := congrArg List.length (Text.dropOpening?_eq_some.1 hm)
      simp only [List.length_append, List.length_cons] at h1 h2 ⊢
      omega
    · cases h
  · split
    · rename_i name rest h
      unfold single? at h
      split at h
      · rename_i heq
        cases heq
        exact Nat.lt_succ_of_lt (name?_shorter h)
      · cases h
    · exact Nat.lt_succ_self _

/-- The pieces of a text from left to right. -/
def scan : List Char → List Piece
  | [] => []
  | c :: cs => (first c cs).1 :: scan (first c cs).2
termination_by cs => cs.length
decreasing_by exact first_shorter c cs

end Piece

/-- A value in the place of a question mark. -/
inductive BoundValue where
  /-- A whole number. -/
  | bigInt (value : Int64)
  /-- A string. -/
  | text (value : String)
  /-- A list of values in a single place. -/
  | list (items : List BoundValue)
  deriving Repr

namespace Param

/-- The items of a list. -/
def boundItems? : Param → Option (List BoundValue)
  | .ints ns => some (ns.map .bigInt)
  | .texts ss => some (ss.map .text)
  | _ => none

/-- A parameter in a single place. -/
def bound : Param → BoundValue
  | .int n => .bigInt n
  | .text s => .text s
  | .ints ns => .list (ns.map .bigInt)
  | .texts ss => .list (ss.map .text)

end Param

/-- Why the values of a query cannot be bound. -/
inductive BindError where
  /-- A placeholder has no value. -/
  | missing (name : String)
  /-- A placeholder in the list form has a value that is no list. -/
  | notAList (name : String)
  deriving DecidableEq, Repr

/-- The text of an error. -/
def BindError.message : BindError → String
  | .missing name => "No value bound for placeholder @" ++ name
  | .notAList name => "Placeholder @" ++ name ++ " is not an array"

/-- SQL text with question marks, and the values for them in order. -/
structure PositionalQuery where
  /-- The SQL text. -/
  sql : String
  /-- The values. -/
  values : List BoundValue
  deriving Repr

/-- The marks for the items of a list; an empty list is a list without a match. -/
def BoundValue.marks (items : List BoundValue) : String :=
  if items.isEmpty then "(NULL)"
  else "(" ++ Text.joinWith ", " (items.map fun _ => "?") ++ ")"

/-- The text and the values that a piece is replaced with. -/
def Piece.fill (params : Dict Param) : Piece → Except BindError (List Char × List BoundValue)
  | .plain c => .ok ([c], [])
  | .single name =>
    match params.get? name with
    | none => .error (.missing name)
    | some param => .ok (['?'], [param.bound])
  | .spread name =>
    match params.get? name with
    | none => .error (.missing name)
    | some param =>
      match param.boundItems? with
      | none => .error (.notAList name)
      | some items => .ok ((BoundValue.marks items).toList, items)

/-- A query with its values in order; the first error from the left is reported. -/
def Query.positional (query : Query) : Except BindError PositionalQuery :=
  ((Piece.scan query.sql.toList).mapM (Piece.fill query.params)).map fun parts =>
    ⟨String.ofList (parts.flatMap (·.1)), parts.flatMap (·.2)⟩

end Scorebook
