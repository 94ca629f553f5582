import Scorebook.Intent.Basic
import Scorebook.Number.Range

/-!
# Reading intents as they are written

The plain reader of the JSON form: every field has to have its own type and width, names have to
match exactly, and nothing is checked beyond that. An absent or `null` field is left out; the lists
`inning` and `pitch_type` and the output format may be absent but not `null`. Fields with other
names are passed over. A list of values stands for the fields in their fixed order, the last ones
absent if it is short.
-/

namespace Scorebook.Intent

/-- A whole number within a range. -/
def intWithin? (range : IntRange) (value : Json) : Option Int := value.int?.filter range.holds

/-- A season: a whole number of 32 bits with a sign. -/
def seasonOf? (value : Json) : Option Int32 :=
  (intWithin? (.signed 32) value).map Int32.ofInt

/-- A whole number of 8 bits. -/
def octetOf? (value : Json) : Option UInt8 :=
  (intWithin? (.unsigned 8) value).map fun n => UInt8.ofNat n.toNat

/-- A whole number of 32 bits. -/
def limitOf? (value : Json) : Option UInt32 :=
  (intWithin? (.unsigned 32) value).map fun n => UInt32.ofNat n.toNat

/-- The name of a term: a string, or the only key of an object that holds `null` under it. -/
def termName? : Json → Option String
  | .str name => some name
  | .obj [(name, .null)] => some name
  | _ => none

/-- A term by its name. -/
def termOf? {α : Type} [Vocabulary α] (value : Json) : Option α :=
  (termName? value).bind Vocabulary.ofName?

/-- A list of values of one kind. -/
def listOf? {α : Type} (item? : Json → Option α) (value : Json) : Option (List α) :=
  value.items?.bind fun items => items.mapM item?

/-- A field that may be absent or `null`; the outer `none` is a value of the wrong kind. -/
def optionalField? {α : Type} (read? : Json → Option α) (fields : List (String × Json))
    (field : IntentField) : Option (Option α) :=
  match fields.lookup field.key with
  | none | some .null => some none
  | some value => (read? value).map some

/-- A field with a value for the case that it is absent; `null` is a value like any other. -/
def fieldOr? {α : Type} (default : α) (read? : Json → Option α) (fields : List (String × Json))
    (field : IntentField) : Option α :=
  match fields.lookup field.key with
  | none => some default
  | some value => read? value

/-- The fields that a JSON value writes: those of an object by their names, and the items of a list
in the order of the fields, if there are no more of them than fields. -/
def writtenFields? : Json → Option (List (String × Json))
  | .obj fields => some fields
  | .arr items =>
    let keys := (Vocabulary.terms (α := IntentField)).map IntentField.key
    if items.length ≤ keys.length then some (keys.zip items) else none
  | _ => none

/-- The intent that a JSON value writes. -/
def ofJson? (value : Json) : Option Intent := do
  let fields ← writtenFields? value
  return {
    queryType := ← optionalField? termOf? fields .queryType
    split := ← optionalField? termOf? fields .splitType
    metrics := ← optionalField? (listOf? Json.text?) fields .metrics
    subjectName := ← optionalField? Json.text? fields .subjectName
    season := ← optionalField? seasonOf? fields .season
    innings := ← fieldOr? [] (listOf? octetOf?) fields .inning
    strikes := ← optionalField? octetOf? fields .strikes
    balls := ← optionalField? octetOf? fields .balls
    pitcherHand := ← optionalField? termOf? fields .pitcherThrows
    pitchTypes := ← fieldOr? [] (listOf? Json.text?) fields .pitchType
    score := ← optionalField? termOf? fields .gameScore
    orderBy := ← optionalField? Json.text? fields .orderBy
    limit := ← optionalField? limitOf? fields .limit
    format := ←
      fieldOr? .narrative (fun v => (termName? v).bind OutputFormat.ofText?) fields .outputFormat }

example : ofJson? (.arr []) = some {} := by decide
example : ofJson? (.arr [.str "season_batting", .null, .arr [.str "war"]])
    = some { queryType := some .seasonBatting, metrics := some ["war"] } := by decide
example : ofJson? (.arr (List.replicate 15 .null)) = none := by decide

end Scorebook.Intent
