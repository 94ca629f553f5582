/-!
# The closed vocabularies of an intent

Families of statistics, splits, pitcher hands, score buckets and forms of an answer. Each vocabulary
lists its terms with pairwise distinct names, so a name stands for at most one term. Main statement:
a term is found under exactly its own name.
-/

namespace Scorebook

/-- A closed vocabulary: finitely many terms with names of their own. -/
class Vocabulary (α : Type) where
  /-- Every term, in the order of the listing. -/
  terms : List α
  /-- The name of a term. -/
  name : α → String
  /-- No term is left out. -/
  complete : ∀ a, a ∈ terms
  /-- No two terms share a name. -/
  distinct : (terms.map name).Nodup

namespace Vocabulary

variable {α : Type} [Vocabulary α]

/-- The term with a given name. -/
def ofName? (text : String) : Option α := (terms (α := α)).find? fun a => name a == text

/-- The names of all terms, in the order of the listing. -/
def names (α : Type) [Vocabulary α] : List String := (terms (α := α)).map name

/-- Terms with the same name are equal. -/
theorem eq_of_mem_of_name_eq {l : List α} (h : (l.map name).Nodup) {a b : α} (ha : a ∈ l)
    (hb : b ∈ l) (hab : name a = name b) : a = b := by
  induction l with
  | nil => cases ha
  | cons c l ih =>
    rw [List.map_cons, List.nodup_cons] at h
    rcases List.mem_cons.1 ha with hac | hal <;> rcases List.mem_cons.1 hb with hbc | hbl
    · exact hac.trans hbc.symm
    · exact absurd (List.mem_map.2 ⟨b, hbl, hab.symm.trans (congrArg name hac)⟩) h.1
    · exact absurd (List.mem_map.2 ⟨a, hal, hab.trans (congrArg name hbc)⟩) h.1
    · exact ih h.2 hal hbl

/-- A term is found under exactly its own name. -/
theorem ofName?_eq_some {text : String} {a : α} : ofName? text = some a ↔ name a = text := by
  constructor
  · intro h
    simpa using List.find?_some h
  · rintro rfl
    unfold ofName?
    cases h : (terms (α := α)).find? fun b => name b == name a with
    | none => simpa using List.find?_eq_none.1 h a (complete a)
    | some b =>
      have hb : name b = name a := by simpa using List.find?_some h
      exact congrArg some (eq_of_mem_of_name_eq distinct (complete b) (complete a) hb)

end Vocabulary

/-- The family of statistics that a question is about. -/
inductive QueryType where
  /-- A batter's seasons. -/
  | seasonBatting
  /-- A pitcher's seasons. -/
  | seasonPitching
  /-- A batter's career. -/
  | careerBatting
  /-- A batter's seasons within one split. -/
  | battingSplits
  /-- A pitcher's seasons within one split. -/
  | pitchingSplits
  deriving DecidableEq, Repr

namespace QueryType

/-- Whether statistics of this family exist only within a split. -/
def isSplit : QueryType → Bool
  | .battingSplits | .pitchingSplits => true
  | _ => false

/-- Whether the subject of the question is the pitcher. -/
def isPitching : QueryType → Bool
  | .seasonPitching | .pitchingSplits => true
  | _ => false

end QueryType

instance : Vocabulary QueryType where
  terms := [.seasonBatting, .seasonPitching, .careerBatting, .battingSplits, .pitchingSplits]
  name
    | .seasonBatting => "season_batting"
    | .seasonPitching => "season_pitching"
    | .careerBatting => "career_batting"
    | .battingSplits => "batting_splits"
    | .pitchingSplits => "pitching_splits"
  complete a := by cases a <;> decide
  distinct := by decide

/-- A dimension that narrows a statistic of a season. -/
inductive Split where
  /-- Runners in scoring position. -/
  | risp
  /-- A runner on every base. -/
  | basesLoaded
  /-- A runner on first base only. -/
  | runnerOnFirst
  /-- By inning. -/
  | inning
  /-- By the pitcher's hand. -/
  | pitcherThrows
  /-- By type of pitch. -/
  | pitchType
  /-- By the score. -/
  | gameScoreSituation
  /-- By month. -/
  | monthly
  /-- By the count of balls and strikes. -/
  | countSituation
  /-- By the runners on base. -/
  | runnerSituation
  deriving DecidableEq, Repr

/-- Whether a split is a situation of the runners on base by itself. -/
def Split.isSituational : Split → Bool
  | .risp | .basesLoaded | .runnerOnFirst => true
  | _ => false

instance : Vocabulary Split where
  terms := [.risp, .basesLoaded, .runnerOnFirst, .inning, .pitcherThrows, .pitchType,
    .gameScoreSituation, .monthly, .countSituation, .runnerSituation]
  name
    | .risp => "risp"
    | .basesLoaded => "bases_loaded"
    | .runnerOnFirst => "runner_on_1b"
    | .inning => "inning"
    | .pitcherThrows => "pitcher_throws"
    | .pitchType => "pitch_type"
    | .gameScoreSituation => "game_score_situation"
    | .monthly => "monthly"
    | .countSituation => "count_situation"
    | .runnerSituation => "runner_situation"
  complete a := by cases a <;> decide
  distinct := by decide

/-- The hand a pitcher throws with. -/
inductive Hand where
  /-- A right-handed pitcher. -/
  | right
  /-- A left-handed pitcher. -/
  | left
  deriving DecidableEq, Repr

/-- The single letter that pitch-level data carries for a hand. -/
def Hand.code : Hand → String
  | .right => "R"
  | .left => "L"

instance : Vocabulary Hand where
  terms := [.right, .left]
  name
    | .right => "RHP"
    | .left => "LHP"
  complete a := by cases a <;> decide
  distinct := by decide

/-- A bucket of the score, as the batting team sees it. -/
inductive ScoreBucket where
  /-- The score is level. -/
  | tied
  /-- Ahead by any margin. -/
  | leading
  /-- Behind by any margin. -/
  | trailing
  /-- Ahead by one run. -/
  | leadingBy1
  /-- Ahead by two runs. -/
  | leadingBy2
  /-- Ahead by three runs or more. -/
  | leadingBy3Plus
  /-- Behind by one run. -/
  | trailingBy1
  /-- Behind by two runs. -/
  | trailingBy2
  /-- Behind by three runs or more. -/
  | trailingBy3Plus
  /-- At most one run apart. -/
  | within1
  /-- At most two runs apart. -/
  | within2
  /-- From the seventh inning on, at most one run apart. -/
  | lateAndClose
  /-- Five runs apart or more. -/
  | blowout
  deriving DecidableEq, Repr

instance : Vocabulary ScoreBucket where
  terms := [.tied, .leading, .trailing, .leadingBy1, .leadingBy2, .leadingBy3Plus, .trailingBy1,
    .trailingBy2, .trailingBy3Plus, .within1, .within2, .lateAndClose, .blowout]
  name
    | .tied => "tied"
    | .leading => "leading"
    | .trailing => "trailing"
    | .leadingBy1 => "leading_by_1"
    | .leadingBy2 => "leading_by_2"
    | .leadingBy3Plus => "leading_by_3_plus"
    | .trailingBy1 => "trailing_by_1"
    | .trailingBy2 => "trailing_by_2"
    | .trailingBy3Plus => "trailing_by_3_plus"
    | .within1 => "within_1"
    | .within2 => "within_2"
    | .lateAndClose => "late_and_close"
    | .blowout => "blowout"
  complete a := by cases a <;> decide
  distinct := by decide

/-- The form of an answer. -/
inductive OutputFormat where
  /-- A sentence or a few. -/
  | narrative
  /-- A table of rows. -/
  | table
  deriving DecidableEq, Repr

instance : Vocabulary OutputFormat where
  terms := [.narrative, .table]
  name
    | .narrative => "narrative"
    | .table => "table"
  complete a := by cases a <;> decide
  distinct := by decide

/-- The form that a text asks for; `sentence` is another word for a narrative. -/
def OutputFormat.ofText? (text : String) : Option OutputFormat :=
  if text = "sentence" then some .narrative else Vocabulary.ofName? text

/-- How an intent is answered from the data. -/
inductive Strategy where
  /-- From a table of statistics computed beforehand. -/
  | aggregated
  /-- By adding up single pitches. -/
  | eventLevel
  deriving DecidableEq, Repr

instance : Vocabulary Strategy where
  terms := [.aggregated, .eventLevel]
  name
    | .aggregated => "aggregated"
    | .eventLevel => "event_level"
  complete a := by cases a <;> decide
  distinct := by decide

end Scorebook
