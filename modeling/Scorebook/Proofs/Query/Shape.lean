import Scorebook.Catalogue.BuiltIn
import Scorebook.Proofs.Query.Compile
import Scorebook.Query.Positional

/-!
# The text of a query does not depend on values

Two intents have the same shape if they ask for the same statistics and give values in the same
places, whatever the values are. Intents of the same shape get the same SQL text or no text for the
same reason, and, if their lists are equally long, the same text with question marks.
-/

namespace Scorebook

/-- Two intents ask for the same statistics and give values in the same places. -/
structure Intent.SameShape (a b : Intent) : Prop where
  /-- They are about the same family of statistics. -/
  queryType : a.queryType = b.queryType
  /-- They have the same split. -/
  split : a.split = b.split
  /-- They ask for the same metrics. -/
  metrics : a.metrics = b.metrics
  /-- They ask for the same order. -/
  orderBy : a.orderBy = b.orderBy
  /-- Both name a player or neither does. -/
  subjectName : a.subjectName.isSome = b.subjectName.isSome
  /-- Both give a season or neither does. -/
  season : a.season.isSome = b.season.isSome
  /-- Both give a number of strikes or neither does. -/
  strikes : a.strikes.isSome = b.strikes.isSome
  /-- Both give a number of balls or neither does. -/
  balls : a.balls.isSome = b.balls.isSome
  /-- Both give the hand of the pitcher or neither does. -/
  pitcherHand : a.pitcherHand.isSome = b.pitcherHand.isSome
  /-- Both give a bucket of the score or neither does. -/
  score : a.score.isSome = b.score.isSome
  /-- Both list innings or neither does. -/
  innings : a.innings = [] ↔ b.innings = []
  /-- Both list types of pitches or neither does. -/
  pitchTypes : a.pitchTypes = [] ↔ b.pitchTypes = []
  /-- Both list several types of pitches or neither does. -/
  severalPitchTypes : 1 < a.pitchTypes.length ↔ 1 < b.pitchTypes.length

/-- A statement without its values. -/
def Statement.bare (s : Statement) : Statement := { s with values := [] }

namespace Intent.SameShape

variable {a b : Intent}

theorem contextKey (h : a.SameShape b) : a.contextKey = b.contextKey := by
  simp only [Intent.contextKey, h.queryType, h.split]

theorem isMonthly (h : a.SameShape b) : a.isMonthly = b.isMonthly := by
  simp only [Intent.isMonthly, h.split]

theorem collapses (h : a.SameShape b) (table : Table) : table.collapses a = table.collapses b := by
  simp only [Table.collapses, h.severalPitchTypes]

/-- Intents of the same shape have values for the same placeholders. -/
theorem value?_isSome (h : a.SameShape b) (binding binding' : Binding) (slot : Slot) :
    (a.value? binding slot).isSome = (b.value? binding' slot).isSome := by
  have hi : a.innings.isEmpty = b.innings.isEmpty := by
    rw [Bool.eq_iff_iff, List.isEmpty_iff, List.isEmpty_iff, h.innings]
  have hp : a.pitchTypes.isEmpty = b.pitchTypes.isEmpty := by
    rw [Bool.eq_iff_iff, List.isEmpty_iff, List.isEmpty_iff, h.pitchTypes]
  rw [a.isSome_value?, b.isSome_value?]
  cases slot <;> simp only [Intent.gives, h.subjectName, h.season, h.strikes, h.balls,
    h.pitcherHand, h.score, hi, hp]

/-- Intents of the same shape fill the same placeholders. -/
theorem valuesFor_slots (h : a.SameShape b) (binding binding' : Binding) (slots : List Slot) :
    (a.valuesFor binding slots).map Prod.fst = (b.valuesFor binding' slots).map Prod.fst := by
  induction slots with
  | nil => rfl
  | cons slot slots ih =>
    have hs := h.value?_isSome binding binding' slot
    simp only [Intent.valuesFor, List.filterMap_cons] at ih ⊢
    cases ha : a.value? binding slot <;> cases hb : b.value? binding' slot <;>
      simp_all

end Intent.SameShape

/-- The conditions over a table are made from the placeholders. -/
theorem Catalogue.tableConditions_eq_mapM (table : Table) (context : String)
    (values : List (Slot × Param)) : tableConditions table context values =
      (values.map Prod.fst).mapM fun slot => match table.column? slot with
        | some column => .ok (.meets slot column)
        | none => .error (.noColumn context slot.field) := by
  rw [List.mapM_map]
  rfl

/-- The conditions over a table depend on the placeholders alone. -/
theorem Catalogue.tableConditions_eq_of_slots (table : Table) (context : String)
    {values values' : List (Slot × Param)} (h : values.map Prod.fst = values'.map Prod.fst) :
    tableConditions table context values = tableConditions table context values' := by
  rw [tableConditions_eq_mapM, tableConditions_eq_mapM, h]

/-- The columns of the master table are looked up under the placeholders. -/
theorem MasterTable.filterMap_column (master : MasterTable) (queryType : QueryType)
    (values : List (Slot × Param)) :
    values.filterMap (fun (slot, _) => (master.column queryType slot).map (Condition.meets slot)) =
      (values.map Prod.fst).filterMap fun slot =>
        (master.column queryType slot).map (Condition.meets slot) := by
  rw [List.filterMap_map]
  rfl

/-- The conditions over single pitches depend on the placeholders, the split and the score alone. -/
theorem MasterTable.conditions_eq_of_slots (master : MasterTable) (queryType : QueryType)
    {a b : Intent} (hsplit : a.split = b.split) (hscore : a.score = b.score)
    {values values' : List (Slot × Param)} (h : values.map Prod.fst = values'.map Prod.fst) :
    master.conditions queryType a values = master.conditions queryType b values' := by
  simp only [conditions, filterMap_column, h, hsplit, hscore]

namespace Intent.SameShape

variable {a b : Intent} {c : Catalogue}

/-- Over tables, intents of the same shape get the same statement up to its values. -/
theorem aggregated_bare (h : a.SameShape b) (c : Catalogue) (d₁ d₂ : UInt32) :
    (c.aggregated d₁ a).map Statement.bare = (c.aggregated d₂ b).map Statement.bare := by
  have hv := h.valuesFor_slots (Catalogue.tableBinding d₁) (Catalogue.tableBinding d₂)
    Table.conditionSlots
  unfold Catalogue.aggregated
  rw [h.metrics, h.contextKey, h.isMonthly, h.orderBy]
  split
  · rename_i metrics context _ _
    cases c.table? context with
    | none => rfl
    | some table =>
      simp only [h.collapses table, Catalogue.tableConditions_eq_of_slots table context hv]
      split
      · rfl
      · cases Catalogue.tableConditions table context _ <;> rfl
  · rfl

/-- Over single pitches, they do so if they also have the same bucket of the score. -/
theorem eventLevel_bare (h : a.SameShape b) (hscore : a.score = b.score) (c : Catalogue)
    (d₁ d₂ : UInt32) :
    (c.eventLevel d₁ a).map Statement.bare = (c.eventLevel d₂ b).map Statement.bare := by
  have hv := h.valuesFor_slots (Catalogue.pitchBinding d₁) (Catalogue.pitchBinding d₂)
    MasterTable.conditionSlots
  have hi (master : MasterTable) (queryType : QueryType) :
      master.identity queryType a = master.identity queryType b := by
    simp only [MasterTable.identity, h.season, h.isMonthly]
  unfold Catalogue.eventLevel
  rw [h.queryType, h.isMonthly, h.orderBy]
  split
  · rfl
  · rfl
  · rename_i queryType master _ _
    simp only [Except.map, Statement.bare, hi,
      master.conditions_eq_of_slots queryType h.split hscore hv]

/-- By either strategy, intents of the same shape get the same statement up to its values. -/
theorem statement_bare (h : a.SameShape b) {strategy : Strategy}
    (hscore : strategy = .eventLevel → a.score = b.score) (c : Catalogue) (d₁ d₂ : UInt32) :
    (c.statement strategy d₁ a).map Statement.bare =
      (c.statement strategy d₂ b).map Statement.bare := by
  cases strategy with
  | aggregated => exact h.aggregated_bare c d₁ d₂
  | eventLevel => exact h.eventLevel_bare (hscore rfl) c d₁ d₂

/-- So they get the same text, or none for the same reason. -/
theorem compile_sql (h : a.SameShape b) {strategy : Strategy}
    (hscore : strategy = .eventLevel → a.score = b.score) (c : Catalogue) (d₁ d₂ : UInt32) :
    (c.compile strategy d₁ a).map Query.sql = (c.compile strategy d₂ b).map Query.sql := by
  have hsql (x : Except Obstacle Statement) :
      (x.map Statement.query).map Query.sql = (x.map Statement.bare).map Statement.sql := by
    cases x <;> rfl
  rw [Catalogue.compile, Catalogue.compile, hsql, hsql, h.statement_bare hscore c d₁ d₂]

end Intent.SameShape

/-- How many values a parameter spreads into, if it is a list. -/
def Param.width? : Param → Option Nat
  | .ints ns => some ns.length
  | .texts ss => some ss.length
  | _ => none

/-- It spreads into its items. -/
theorem Param.width?_eq (value : Param) : value.width? = value.boundItems?.map List.length := by
  cases value <;> simp [width?, boundItems?]

/-- The marks for a list of a given length. -/
def BoundValue.marksFor (n : Nat) : String :=
  if n = 0 then "(NULL)" else "(" ++ Text.joinWith ", " (List.replicate n "?") ++ ")"

/-- The marks for a list depend on its length alone. -/
theorem BoundValue.marks_eq (items : List BoundValue) : marks items = marksFor items.length := by
  simp only [marks, marksFor, List.isEmpty_iff_length_eq_zero, List.map_const']

/-- The text that a piece is replaced with, if only the widths of the values are known. -/
def Piece.textFor (width? : String → Option (Option Nat)) : Piece → Except BindError (List Char)
  | .plain c => .ok [c]
  | .single name =>
    match width? name with
    | none => .error (.missing name)
    | some _ => .ok ['?']
  | .spread name =>
    match width? name with
    | none => .error (.missing name)
    | some none => .error (.notAList name)
    | some (some n) => .ok (BoundValue.marksFor n).toList

/-- The text of a filled piece depends only on whether there is a value, and how wide it is. -/
theorem Piece.fill_text (params : Dict Param) (piece : Piece) :
    (piece.fill params).map Prod.fst =
      piece.textFor fun name => (params.get? name).map Param.width? := by
  cases piece with
  | plain c => rfl
  | single name =>
    simp only [fill, textFor]
    cases params.get? name <;> rfl
  | spread name =>
    simp only [fill, textFor]
    cases params.get? name with
    | none => rfl
    | some value =>
      simp only [Option.map_some, Param.width?_eq]
      cases value.boundItems? with
      | none => rfl
      | some items => simp only [Except.map, Option.map_some, BoundValue.marks_eq]

/-- What each item gives can be cut down before or after the items are taken together. -/
theorem map_mapM_except {ε α β γ : Type} (f : α → Except ε β) (g : β → γ) (xs : List α) :
    (xs.mapM f).map (List.map g) = xs.mapM fun x => (f x).map g := by
  induction xs with
  | nil => rfl
  | cons x xs ih =>
    rw [List.mapM_cons, List.mapM_cons, ← ih]
    cases f x with
    | error e => rfl
    | ok y => cases xs.mapM f <;> rfl

/-- The text with question marks depends only on the text, on which values there are, and on how
wide they are. -/
theorem Query.positional_sql {q r : Query} (hsql : q.sql = r.sql)
    (h : ∀ name, (q.param? name).map Param.width? = (r.param? name).map Param.width?) :
    q.positional.map PositionalQuery.sql = r.positional.map PositionalQuery.sql := by
  have hparts (q : Query) : q.positional.map PositionalQuery.sql =
      (((Piece.scan q.sql.toList).mapM (Piece.fill q.params)).map (List.map Prod.fst)).map
        fun texts => String.ofList texts.flatten := by
    rw [Query.positional]
    cases (Piece.scan q.sql.toList).mapM (Piece.fill q.params) with
    | error e => rfl
    | ok parts => simp only [Except.map, List.flatMap_def]
  have hw : (fun name => (q.params.get? name).map Param.width?) =
      fun name => (r.params.get? name).map Param.width? := funext h
  simp only [hparts, map_mapM_except, Piece.fill_text, hsql, hw]

namespace Intent.SameShape

variable {a b : Intent}

/-- If the lists are equally long as well, every value is equally wide. -/
theorem value?_width (h : a.SameShape b) (hi : a.innings.length = b.innings.length)
    (hp : a.pitchTypes.length = b.pitchTypes.length) (binding binding' : Binding) (slot : Slot) :
    (a.value? binding slot).map Param.width? = (b.value? binding' slot).map Param.width? := by
  by_cases hl : slot.isList = true
  · cases slot with
    | innings =>
      simp only [Intent.value?, List.isEmpty_iff_length_eq_zero, hi]
      split <;> simp [Param.width?, hi]
    | pitchTypes =>
      simp only [Intent.value?, List.isEmpty_iff_length_eq_zero, hp]
      split <;> simp [Param.width?, hp]
    | _ => cases hl
  · have hnone {intent : Intent} {binding : Binding} {value : Param}
        (hv : intent.value? binding slot = some value) : value.width? = none := by
      have hb := Intent.boundItems?_of_value? hv
      rw [Bool.not_eq_true] at hl
      rw [hl, Option.isSome_eq_false_iff, Option.isNone_iff_eq_none] at hb
      rw [Param.width?_eq, hb, Option.map_none]
    have hs := h.value?_isSome binding binding' slot
    cases ha : a.value? binding slot with
    | none =>
      rw [ha, Option.isSome_none, eq_comm, Option.isSome_eq_false_iff,
        Option.isNone_iff_eq_none] at hs
      rw [hs]
    | some value =>
      rw [ha, Option.isSome_some, eq_comm, Option.isSome_iff_exists] at hs
      obtain ⟨value', hb⟩ := hs
      simp only [hb, Option.map_some, hnone ha, hnone hb]

/-- Under every name, the queries of such intents hold values that are equally wide. -/
theorem param?_width (h : a.SameShape b) (hi : a.innings.length = b.innings.length)
    (hp : a.pitchTypes.length = b.pitchTypes.length) {binding binding' : Binding}
    {slots : List Slot} {s t : Statement} (hs : s.values = a.valuesFor binding slots)
    (ht : t.values = b.valuesFor binding' slots) (name : String) :
    (s.query.param? name).map Param.width? = (t.query.param? name).map Param.width? := by
  ext width
  simp only [Option.map_eq_some_iff, Statement.query_param?_iff hs, Statement.query_param?_iff ht]
  have hw (slot : Slot) := h.value?_width hi hp binding binding' slot
  constructor
  · rintro ⟨value, ⟨slot, hslot, hname, hv⟩, rfl⟩
    obtain ⟨value', hv', he⟩ := Option.map_eq_some_iff.1 ((hw slot).symm.trans (congrArg _ hv))
    exact ⟨value', ⟨slot, hslot, hname, hv'⟩, he⟩
  · rintro ⟨value, ⟨slot, hslot, hname, hv⟩, rfl⟩
    obtain ⟨value', hv', he⟩ := Option.map_eq_some_iff.1 ((hw slot).trans (congrArg _ hv))
    exact ⟨value', ⟨slot, hslot, hname, hv'⟩, he⟩

end Intent.SameShape

/-- No value of an intent reaches the text of its query. Intents of the same shape get, over tables
as over single pitches, the same text or no text for the same reason; if their lists are equally
long, the same text with question marks or the same error. -/
theorem Catalogue.compile_reveals_shape_only (c : Catalogue) (strategy : Strategy)
    (d₁ d₂ : UInt32) {a b : Intent} (h : a.SameShape b)
    (hscore : strategy = .eventLevel → a.score = b.score) :
    (c.compile strategy d₁ a).map Query.sql = (c.compile strategy d₂ b).map Query.sql ∧
      (a.innings.length = b.innings.length → a.pitchTypes.length = b.pitchTypes.length →
        ∀ q r, c.compile strategy d₁ a = .ok q → c.compile strategy d₂ b = .ok r →
          q.positional.map PositionalQuery.sql = r.positional.map PositionalQuery.sql) := by
  have htext := h.compile_sql hscore c d₁ d₂
  refine ⟨htext, fun hi hp q r hq hr => ?_⟩
  rw [hq, hr] at htext
  obtain ⟨s, hs, rfl⟩ := compile_eq_ok_iff.1 hq
  obtain ⟨t, ht, rfl⟩ := compile_eq_ok_iff.1 hr
  exact Query.positional_sql (Except.ok.inj htext)
    (h.param?_width hi hp (statement_values hs) (statement_values ht))

/-- A batter's home runs in one inning of one season, off one type of pitch. -/
def Intent.offOnePitch (player : String) (season : Int32) (inning : UInt8) (pitchType : String) :
    Intent where
  queryType := some .seasonBatting
  metrics := some ["homerun"]
  subjectName := some player
  season := some season
  innings := [inning]
  pitchTypes := [pitchType]

/-- Two batters, seasons, innings and types of pitches, one of them no pitch at all, get one
text. -/
theorem Catalogue.compile_offOnePitch :
    ∃ q r, builtIn.compile .eventLevel 10 (.offOnePitch "Judge" 2024 9 "Slider") = .ok q ∧
      builtIn.compile .eventLevel 25 (.offOnePitch "Soto" 2023 1 "'; DROP TABLE") = .ok r ∧
      q.sql = r.sql ∧
      q.positional.map PositionalQuery.sql = r.positional.map PositionalQuery.sql := by
  have hshape : (Intent.offOnePitch "Judge" 2024 9 "Slider").SameShape
      (.offOnePitch "Soto" 2023 1 "'; DROP TABLE") := by
    constructor <;> simp [Intent.offOnePitch]
  obtain ⟨htext, hpositional⟩ :=
    compile_reveals_shape_only builtIn .eventLevel 10 25 hshape fun _ => rfl
  exact ⟨_, _, rfl, rfl, Except.ok.inj htext, hpositional rfl rfl _ _ rfl rfl⟩

end Scorebook
