import Scorebook.Dict
import Scorebook.Yaml.Meaning
import Scorebook.Yaml.Node

/-!
# Reading values from nodes

What a node says where a value of a known kind is wanted. Text takes any scalar by its characters, a
whole number only a plain one. Where a list or a record is wanted, a value left out stands for an
empty one, but the word `null` does not. A field that a record knows may be written once; fields it
does not know are passed over.
-/

namespace Scorebook.Yaml

/-- The text of a scalar that stands for a string and for nothing else. -/
def Node.string? : Node → Option String
  | .quoted text => some text
  | .plain text => if meaning text = .string then some text else none
  | _ => none

/-- The text of any scalar, or nothing where a plain one says so. -/
def Node.optionalText? : Node → Option (Option String)
  | .plain text => if isNullText text then some none else some (some text)
  | .quoted text => some (some text)
  | _ => none

/-- The string of a scalar that stands for one, or nothing where a plain scalar says so. -/
def Node.optionalString? (node : Node) : Option (Option String) :=
  match node with
  | .plain text => if isNullText text then some none else node.string?.map some
  | _ => node.string?.map some

/-- Whether a node can be kept as a whole: its collections are nested at most `depth` deep, and its
whole numbers take no more than 64 bits. -/
def Node.isKept : (depth : Nat) → Node → Bool
  | _, .quoted _ => true
  | _, .plain text =>
    match meaning text with
    | .natural n => decide (n < 1 <<< 64)
    | .negative n => decide (n ≤ 1 <<< 63)
    | _ => true
  | 0, _ => false
  | depth + 1, .sequence items => items.all (isKept depth)
  | depth + 1, .mapping entries =>
    entries.all fun entry => isKept depth entry.1 && isKept depth entry.2

/-- A whole number of at most `limit`, written plainly. -/
def Node.natural? (limit : Nat) : Node → Option Nat
  | .plain text => (naturalText? text).filter fun n => decide (n ≤ limit)
  | _ => none

/-- The items of a sequence. -/
def Node.items? : Node → Option (List Node)
  | .sequence items => some items
  | .plain "" => some []
  | _ => none

/-- The entries of a mapping whose keys are scalars, by the texts of the keys. -/
def Node.entries? : Node → Option (List (String × Node))
  | .mapping entries => entries.mapM fun entry => entry.1.scalar?.map (·, entry.2)
  | .plain "" => some []
  | _ => none

/-- A sequence of scalars by their texts. -/
def Node.texts? (node : Node) : Option (List String) :=
  node.items?.bind fun items => items.mapM Node.scalar?

/-- A mapping with values of one kind; of two entries with the same key the later one stays. -/
def Node.dict? {α : Type} (value? : Node → Option α) (node : Node) : Option (Dict α) :=
  node.entries?.bind fun entries =>
    (entries.mapM fun entry => (value? entry.2).map (entry.1, ·)).map Dict.ofList

/-- The node of a field that a record knows, if it is written; refused if it is written twice. -/
def field? (entries : List (String × Node)) (name : String) : Option (Option Node) :=
  match entries.filter (·.1 == name) with
  | [] => some none
  | [(_, node)] => some (some node)
  | _ => none

/-- A field that a record has to have. -/
def required? {α : Type} (value? : Node → Option α) (entries : List (String × Node))
    (name : String) : Option α :=
  (field? entries name).bind fun node => node.bind value?

/-- A field with a value for the case that it is not written. -/
def fieldOr {α : Type} (default : α) (value? : Node → Option α) (entries : List (String × Node))
    (name : String) : Option α :=
  (field? entries name).bind fun
    | none => some default
    | some node => value? node

end Scorebook.Yaml
