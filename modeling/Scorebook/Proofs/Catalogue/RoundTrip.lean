import Scorebook.Catalogue.Document
import Scorebook.Proofs.Yaml.Written

/-!
# Catalogues read back

The reader of a catalogue takes back from a document what the writer has put into it. Absent columns
and empty lists are left out by the writer and supplied by the reader; everything else is written
and read under the same names, and a descriptor is told by its form, a string or a record.
-/

namespace Scorebook

open Yaml

/-- A field with a string is left out exactly if it is absent. -/
theorem presentText_eq (key : String) (text? : Option String) :
    presentText key text? = (text?.map Json.str).toList.map (key, ·) := by
  cases text? <;> rfl

namespace CareerColumns

/-- The fields of the columns of a career. -/
def rows (c : CareerColumns) : List (String × Option Json) :=
  [("career", c.career.map .str), ("risp", c.risp.map .str),
    ("bases_loaded", c.basesLoaded.map .str)]

/-- What is written for the columns are strings. -/
theorem text_of_mem (c : CareerColumns) {name : String} {json : Json}
    (h : (name, some json) ∈ c.rows) : ∃ text, json = .str text := by
  simp only [rows, List.mem_cons, Prod.mk.injEq, List.not_mem_nil, or_false] at h
  rcases h with ⟨-, h⟩ | ⟨-, h⟩ | ⟨-, h⟩
  all_goals
    obtain ⟨text, -, rfl⟩ := Option.map_eq_some_iff.1 h.symm
    exact ⟨text, rfl⟩

/-- The names of the columns are read as they are written. -/
theorem keyName?_eq {node : Node} {name : String} (h : node.Writes (.str name)) :
    keyName? node = some name := by
  cases h with
  | quoted => rfl
  | plain hmeaning => rw [keyName?, hmeaning]

/-- The columns are read from the fields that are written for them. -/
theorem ofFields?_eq (c : CareerColumns) {named : List (String × Node)}
    (h : ∀ row ∈ c.rows, Holds named row.1 row.2) : ofFields? named = some c := by
  simp only [rows, List.forall_mem_cons] at h
  obtain ⟨hcareer, hrisp, hloaded, -⟩ := h
  rw [ofFields?, hcareer.fieldOr_none_eq .optionalString, hrisp.fieldOr_none_eq .optionalString,
    hloaded.fieldOr_none_eq .optionalString]
  rfl

end CareerColumns

theorem Descriptor.toJson_career (c : CareerColumns) :
    (career c).toJson = .obj (present c.rows) := by
  simp [toJson, CareerColumns.rows, present, presentText_eq]

/-- A descriptor is read back: a column as a string, the columns of a career as a record, even if
there are none. -/
theorem Descriptor.readsBack (d : Descriptor) : ReadsBack ofNode? d.toJson d := by
  cases d with
  | direct column =>
    refine ⟨⟨_, .quoted column⟩, fun node h => ?_⟩
    have hkept := h.isKept_eq nestingLimit
    have hstring := h.string?_eq
    cases h <;> simp [ofNode?, hkept, hstring]
  | career c =>
    rw [toJson_career]
    refine ⟨exists_writes_present (by simp [CareerColumns.rows]), fun node h => ?_⟩
    cases h with
    | @mapping entries _ hfields =>
      have hkept : (Node.mapping entries).isKept nestingLimit = true := by
        refine isKept_mapping hfields fun field hfield node hnode => ?_
        obtain ⟨text, htext⟩ := c.text_of_mem (mem_present.1 hfield)
        exact (htext ▸ hnode).isKept_eq _
      obtain ⟨named, hnamed, hcarries⟩ := exists_named CareerColumns.keyName?_eq hfields
      have hread := c.ofFields?_eq (holds_of_carries (by simp [CareerColumns.rows]) hcarries)
      simp [ofNode?, hkept, CareerColumns.ofEntries?, hnamed, hread]

/-- The fields of filter columns. -/
def FilterColumns.rows (f : FilterColumns) : List (String × Option Json) :=
  [("inning", f.inning.map .str), ("strikes", f.strikes.map .str), ("balls", f.balls.map .str),
    ("pitcher_throws", f.pitcherThrows.map .str), ("pitch_type", f.pitchType.map .str),
    ("game_score", f.gameScore.map .str)]

theorem FilterColumns.toJson_eq (f : FilterColumns) : f.toJson = .obj (present f.rows) := by
  simp [toJson, rows, present, presentText_eq]

/-- Filter columns are read back. -/
theorem FilterColumns.readsBack (f : FilterColumns) : ReadsBack ofNode? f.toJson f := by
  rw [f.toJson_eq]
  refine .record (by simp [rows]) (by simp [rows]) fun named h => ?_
  simp only [rows, List.forall_mem_cons] at h
  obtain ⟨hinning, hstrikes, hballs, hthrows, htype, hscore, -⟩ := h
  rw [hinning.fieldOr_none_eq .optionalText, hstrikes.fieldOr_none_eq .optionalText,
    hballs.fieldOr_none_eq .optionalText, hthrows.fieldOr_none_eq .optionalText,
    htype.fieldOr_none_eq .optionalText, hscore.fieldOr_none_eq .optionalText]
  rfl

/-- A dictionary is read back if its values are. -/
theorem Dict.readsBack {α : Type} {value? : Node → Option α} {write : α → Json}
    (h : ∀ a, ReadsBack value? (write a) a) (d : Dict α) :
    ReadsBack (Node.dict? value?) (d.toJson write) d := by
  constructor
  · refine exists_writes_obj fun field hfield => ?_
    obtain ⟨entry, -, rfl⟩ := List.mem_map.1 hfield
    exact (h entry.2).written
  · intro node hnode
    obtain ⟨named, hnamed, hcarries⟩ := hnode.entries?_eq
    rw [List.forall₂_map_right_iff] at hcarries
    have hvalues : named.mapM (fun entry => (value? entry.2).map (entry.1, ·)) =
        some d.entries := by
      refine mapM_eq_some_iff.2 (hcarries.imp fun entry field hcarries => ?_)
      obtain ⟨hname, hvalue⟩ := hcarries
      rw [(h field.2).read _ hvalue, hname]
      rfl
    rw [Node.dict?, hnamed, Option.bind_some, hvalues, Option.map_some, Dict.ofList_entries]

/-- The fields of a table. -/
def Table.rows (t : Table) : List (String × Option Json) :=
  [("table", some (.str t.source)), ("name_col", some (.str t.nameCol)),
    ("year_col", t.yearCol.map .str), ("month_col", t.monthCol.map .str),
    ("team_col", t.teamCol.map .str), ("weight_col", t.weightCol.map .str),
    ("identity_cols", if t.identityCols.isEmpty then none else some (Json.strings t.identityCols)),
    ("filters", some t.filters.toJson), ("main_stats", some (Json.strings t.mainStats)),
    ("metrics", some (t.metrics.toJson Descriptor.toJson))]

theorem Table.toJson_eq (t : Table) : t.toJson = .obj (present t.rows) := by
  cases hidentity : t.identityCols <;> simp [toJson, rows, present, presentText_eq, hidentity]

/-- A table is read back. -/
theorem Table.readsBack (t : Table) : ReadsBack ofNode? t.toJson t := by
  have hfilters := t.filters.readsBack
  have hmetrics := t.metrics.readsBack Descriptor.readsBack
  rw [t.toJson_eq]
  refine .record (by simp [rows]) ?_ fun named h => ?_
  · simp [rows, hfilters.writable, hmetrics.writable, writable_ite]
  · simp only [rows, List.forall_mem_cons] at h
    obtain ⟨hsource, hname, hyear, hmonth, hteam, hweight, hidentity, hf, hmain, hm, -⟩ := h
    rw [hsource.required?_eq (.scalar _), hname.required?_eq (.scalar _),
      hyear.fieldOr_none_eq .optionalText, hmonth.fieldOr_none_eq .optionalText,
      hteam.fieldOr_none_eq .optionalText, hweight.fieldOr_none_eq .optionalText,
      hidentity.fieldOr_nil_eq, hf.fieldOr_some_eq hfilters, hmain.fieldOr_some_eq (.texts _),
      hm.fieldOr_some_eq hmetrics]
    rfl

/-- The fields of a master table. -/
def MasterTable.rows (m : MasterTable) : List (String × Option Json) :=
  [("table", some (.str m.source)), ("batter_col", some (.str m.batterCol)),
    ("pitcher_col", some (.str m.pitcherCol)), ("season_col", some (.str m.seasonCol)),
    ("date_col", some (.str m.dateCol)), ("columns", some (m.columns.toJson .str))]

theorem MasterTable.toJson_eq (m : MasterTable) : m.toJson = .obj (present m.rows) := rfl

/-- A master table is read back. -/
theorem MasterTable.readsBack (m : MasterTable) : ReadsBack ofNode? m.toJson m := by
  have hcolumns := m.columns.readsBack .scalar
  rw [m.toJson_eq]
  refine .record (by simp [rows]) (by simp [rows, hcolumns.writable]) fun named h => ?_
  simp only [rows, List.forall_mem_cons] at h
  obtain ⟨hsource, hbatter, hpitcher, hseason, hdate, hc, -⟩ := h
  rw [hsource.required?_eq (.scalar _), hbatter.required?_eq (.scalar _),
    hpitcher.required?_eq (.scalar _), hseason.required?_eq (.scalar _),
    hdate.required?_eq (.scalar _), hc.fieldOr_some_eq hcolumns]
  rfl

/-- A master table is read back where none is needed. -/
theorem MasterTable.readsBack_orNull (m : MasterTable) :
    ReadsBack ofNodeOrNull? m.toJson (some m) := by
  refine ⟨m.readsBack.written, fun node h => ?_⟩
  have hread := m.readsBack.read node h
  cases h
  simp only [ofNodeOrNull?, hread, Option.map_some]

namespace Catalogue

/-- The fields of a catalogue. -/
def rows (c : Catalogue) : List (String × Option Json) :=
  [("version", some (.str c.version)), ("tables", some (c.tables.toJson Table.toJson)),
    ("master", c.master.map MasterTable.toJson),
    ("lower_is_better", some (Json.strings c.lowerIsBetter.keys)),
    ("decimal_metrics", some (Json.strings c.decimalMetrics.keys)),
    ("labels", some (c.labels.toJson .str))]

theorem toJson_eq (c : Catalogue) : c.toJson = .obj (present c.rows) := by
  cases hmaster : c.master <;> simp [toJson, rows, present, hmaster]

/-- A catalogue can be written, and is read back as it was from whatever writes it. So all look-ups
in it give the same answers as before, and the same is found to be inconsistent in it. -/
theorem toJson_readsBack (c : Catalogue) : ReadsBack ofNode? c.toJson c := by
  have htables := c.tables.readsBack Table.readsBack
  have hlabels := c.labels.readsBack .scalar
  have hmaster := writable_map (fun m : MasterTable => m.readsBack.writable) c.master
  rw [c.toJson_eq]
  refine .record (by simp [rows]) ?_ fun named h => ?_
  · simp [rows, htables.writable, hmaster, hlabels.writable]
  · simp only [rows, List.forall_mem_cons] at h
    obtain ⟨hversion, ht, hm, hlower, hdecimal, hl, -⟩ := h
    rw [hversion.required?_eq (.scalar _), ht.required?_eq htables,
      hm.fieldOr_none_eq MasterTable.readsBack_orNull, hlower.fieldOr_some_eq (.texts _),
      hdecimal.fieldOr_some_eq (.texts _), hl.fieldOr_some_eq hlabels]
    simp only [Option.bind_eq_bind, Option.bind_some, Option.pure_def, KeySet.of_keys]

end Catalogue

end Scorebook
