import Scorebook.Json.Basic
import Scorebook.Proofs.Lookup
import Scorebook.Proofs.Outcome
import Scorebook.Yaml.Decode

/-!
# Values written as nodes

A node writes a value faithfully if strings stay strings, and lists and records keep their parts in
order. What a reader takes back from every such node does not depend on how the node puts its
strings, with quotes or without. Main statement: a record is read back if each of its fields is read
back, where a field that is left out may stand for a default.
-/

namespace Scorebook.Yaml

mutual

/-- A node writes a value faithfully: a string as a quoted scalar or as a plain one that stands for
nothing else, a list and a record part by part and in the same order. -/
inductive Node.Writes : Node → Json → Prop
  /-- A string in quotes. -/
  | quoted (text : String) : Writes (.quoted text) (.str text)
  /-- A string without quotes. -/
  | plain {text : String} : meaning text = .string → Writes (.plain text) (.str text)
  /-- A list. -/
  | sequence {nodes : List Node} {items : List Json} : List.Forall₂ Writes nodes items →
    Writes (.sequence nodes) (.arr items)
  /-- A record. -/
  | mapping {entries : List (Node × Node)} {fields : List (String × Json)} :
    List.Forall₂ Node.WritesField entries fields → Writes (.mapping entries) (.obj fields)

/-- A node with its key writes a field: the key as a string, and the node the value. -/
inductive Node.WritesField : Node × Node → String × Json → Prop
  /-- A key and a value. -/
  | mk {key node : Node} {name : String} {value : Json} : Node.Writes key (.str name) →
    Node.Writes node value → WritesField (key, node) (name, value)

end

/-- What stands for a string does not stand for nothing. -/
theorem isNullText_of_meaning {text : String} (h : meaning text = .string) :
    isNullText text = false := by
  rw [Bool.eq_false_iff]
  intro hnull
  rw [meaning, if_pos hnull] at h
  cases h

namespace Node.Writes

variable {node : Node} {text : String}

theorem scalar?_eq (h : node.Writes (.str text)) : node.scalar? = some text := by
  cases h <;> rfl

theorem string?_eq (h : node.Writes (.str text)) : node.string? = some text := by
  cases h with
  | quoted => rfl
  | plain hmeaning => exact if_pos hmeaning

theorem optionalText?_eq (h : node.Writes (.str text)) : node.optionalText? = some (some text) := by
  cases h with
  | quoted => rfl
  | plain hmeaning => simp [Node.optionalText?, isNullText_of_meaning hmeaning]

theorem optionalString?_eq (h : node.Writes (.str text)) :
    node.optionalString? = some (some text) := by
  cases h with
  | quoted => rfl
  | plain hmeaning =>
    simp [Node.optionalString?, isNullText_of_meaning hmeaning, Node.string?, hmeaning]

/-- A string is no collection and no number, so that it can always be kept. -/
theorem isKept_eq (h : node.Writes (.str text)) (depth : Nat) : node.isKept depth = true := by
  cases h with
  | quoted => simp [Node.isKept]
  | plain hmeaning => simp [Node.isKept, hmeaning]

end Node.Writes

/-- There is a node that writes a value, and from every such node a reader takes back what the value
was written for. -/
structure ReadsBack {α : Type} (value? : Node → Option α) (json : Json) (a : α) : Prop where
  /-- The value can be written. -/
  written : ∃ node : Node, node.Writes json
  /-- It is read from whatever writes it. -/
  read : ∀ node : Node, node.Writes json → value? node = some a

/-- A node under a name carries a field. -/
def Carries (entry : String × Node) (field : String × Json) : Prop :=
  entry.1 = field.1 ∧ entry.2.Writes field.2

section

variable {α : Type} {entries : List (Node × Node)} {fields : List (String × Json)}

theorem ReadsBack.scalar (text : String) : ReadsBack Node.scalar? (.str text) text :=
  ⟨⟨_, .quoted text⟩, fun _ => Node.Writes.scalar?_eq⟩

theorem ReadsBack.optionalText (text : String) :
    ReadsBack Node.optionalText? (.str text) (some text) :=
  ⟨⟨_, .quoted text⟩, fun _ => Node.Writes.optionalText?_eq⟩

theorem ReadsBack.optionalString (text : String) :
    ReadsBack Node.optionalString? (.str text) (some text) :=
  ⟨⟨_, .quoted text⟩, fun _ => Node.Writes.optionalString?_eq⟩

/-- The keys of a record are read as its names. -/
theorem exists_named {key? : Node → Option String}
    (hkey : ∀ {node : Node} {name : String}, node.Writes (.str name) → key? node = some name)
    (h : List.Forall₂ Node.WritesField entries fields) :
    ∃ named, (entries.mapM fun entry => (key? entry.1).map (·, entry.2)) = some named ∧
      List.Forall₂ Carries named fields := by
  induction h with
  | nil => exact ⟨[], rfl, .nil⟩
  | cons hfield _ ih =>
    obtain ⟨named, hnamed, hcarries⟩ := ih
    cases hfield with
    | @mk _ node name _ hname hvalue =>
      refine ⟨(name, node) :: named, ?_, .cons ⟨rfl, hvalue⟩ hcarries⟩
      rw [List.mapM_cons, hkey hname, hnamed]
      rfl

/-- A record can be kept if its values can. -/
theorem isKept_mapping {depth : Nat} (h : List.Forall₂ Node.WritesField entries fields)
    (hkept : ∀ field ∈ fields, ∀ node : Node, node.Writes field.2 → node.isKept depth = true) :
    (Node.mapping entries).isKept (depth + 1) = true := by
  rw [Node.isKept]
  induction h with
  | nil => rfl
  | @cons _ field _ _ hfield _ ih =>
    obtain ⟨hvalue, hrest⟩ := List.forall_mem_cons.1 hkept
    cases hfield with
    | mk hname hnode =>
      rw [List.all_cons, hname.isKept_eq, hvalue _ hnode, ih hrest]
      rfl

/-- A record can be written if its values can. -/
theorem exists_writes_obj (h : ∀ field ∈ fields, ∃ node : Node, node.Writes field.2) :
    ∃ node : Node, node.Writes (.obj fields) := by
  suffices hentries : ∃ entries, List.Forall₂ Node.WritesField entries fields from
    hentries.imp' .mapping fun _ => .mapping
  induction fields with
  | nil => exact ⟨[], .nil⟩
  | cons field fields ih =>
    obtain ⟨⟨node, hnode⟩, hrest⟩ := List.forall_mem_cons.1 h
    obtain ⟨entries, hentries⟩ := ih hrest
    exact ⟨(.quoted field.1, node) :: entries, .cons ⟨.quoted field.1, hnode⟩ hentries⟩

/-- A record is read as its names with nodes for its values. -/
theorem Node.Writes.entries?_eq {node : Node} (h : node.Writes (.obj fields)) :
    ∃ named, node.entries? = some named ∧ List.Forall₂ Carries named fields := by
  cases h with
  | mapping hfields => exact exists_named Node.Writes.scalar?_eq hfields

/-- A list of strings is read back. -/
theorem ReadsBack.texts (texts : List String) :
    ReadsBack Node.texts? (Json.strings texts) texts := by
  constructor
  · refine ⟨.sequence (texts.map .quoted), .sequence ?_⟩
    rw [List.forall₂_map_left_iff, List.forall₂_map_right_iff, List.forall₂_same]
    exact fun text _ => .quoted text
  · intro node h
    cases h with
    | @sequence nodes _ hitems =>
      rw [List.forall₂_map_right_iff] at hitems
      exact mapM_eq_some_iff.2 (hitems.imp fun _ _ => Node.Writes.scalar?_eq)

end

/-- The fields of a record, without those that are left out. -/
def present (rows : List (String × Option Json)) : List (String × Json) :=
  rows.flatMap fun row => row.2.toList.map (row.1, ·)

/-- The value of a field can be written, if there is one. -/
def Writable (json? : Option Json) : Prop := ∀ json ∈ json?, ∃ node : Node, node.Writes json

/-- What is read under a name: nothing, or a node that writes the value of the field. -/
inductive Holds (named : List (String × Node)) (name : String) : Option Json → Prop
  /-- The field is left out. -/
  | absent : field? named name = some none → Holds named name none
  /-- The field is there. -/
  | present {node : Node} {json : Json} : field? named name = some (some node) →
    node.Writes json → Holds named name (some json)

section

variable {α : Type} {rows : List (String × Option Json)} {named : List (String × Node)}
  {name : String}

theorem ReadsBack.writable {value? : Node → Option α} {json : Json} {a : α}
    (h : ReadsBack value? json a) : Writable (some json) :=
  fun _ hjson => Option.some.inj hjson ▸ h.written

/-- An optional field can be written if its values can. -/
theorem writable_map {write : α → Json} (h : ∀ a, Writable (some (write a))) (a? : Option α) :
    Writable (a?.map write) := by
  intro json hjson
  obtain ⟨a, -, rfl⟩ := Option.map_eq_some_iff.1 hjson
  exact h a _ rfl

@[simp] theorem writable_str (text : String) : Writable (some (.str text)) :=
  (ReadsBack.scalar text).writable

@[simp] theorem writable_text (text? : Option String) : Writable (text?.map .str) :=
  writable_map writable_str text?

@[simp] theorem writable_texts (texts : List String) : Writable (some (Json.strings texts)) :=
  (ReadsBack.texts texts).writable

/-- A field that may be left out can be written if its value can. -/
theorem writable_ite {p : Prop} [Decidable p] {json? : Option Json} (h : Writable json?) :
    Writable (if p then none else json?) := by
  split
  · exact nofun
  · exact h

/-- The fields of a record are those that have a value. -/
theorem mem_present {field : String × Json} :
    field ∈ present rows ↔ (field.1, some field.2) ∈ rows := by
  simp only [present, List.mem_flatMap, List.mem_map, Option.mem_toList]
  constructor
  · rintro ⟨row, hrow, json, hjson, rfl⟩
    rwa [← hjson]
  · exact fun hrow => ⟨_, hrow, field.2, rfl, rfl⟩

/-- A record can be written if the values of its fields can. -/
theorem exists_writes_present (h : ∀ row ∈ rows, Writable row.2) :
    ∃ node : Node, node.Writes (.obj (present rows)) :=
  exists_writes_obj fun field hfield => h _ (mem_present.1 hfield) field.2 rfl

/-- Under the name of a field stands this field alone. -/
theorem filter_eq_singleton {row : String × Option Json} (h : (rows.map Prod.fst).Nodup)
    (hrow : row ∈ rows) : rows.filter (·.1 == row.1) = [row] := by
  induction rows with
  | nil => cases hrow
  | cons other rows ih =>
    obtain ⟨hother, hrows⟩ := List.nodup_cons.1 h
    rcases List.mem_cons.1 hrow with rfl | hm
    · have hnone : rows.filter (·.1 == row.1) = [] := List.filter_eq_nil_iff.2
        fun other hm he => hother (List.mem_map.2 ⟨other, hm, eq_of_beq he⟩)
      rw [List.filter_cons, if_pos (beq_self_eq_true _), hnone]
    · have hne : ¬ (other.1 == row.1) = true := fun he =>
        hother (List.mem_map.2 ⟨row, hm, (eq_of_beq he).symm⟩)
      rw [List.filter_cons, if_neg hne, ih hrows hm]

/-- What is written under a name belongs to the fields of this name. -/
theorem filter_present (name : String) (rows : List (String × Option Json)) :
    (present rows).filter (·.1 == name) = present (rows.filter (·.1 == name)) := by
  induction rows with
  | nil => rfl
  | cons row rows ih =>
    obtain ⟨key, json?⟩ := row
    have hcons (rows : List (String × Option Json)) :
        present ((key, json?) :: rows) = json?.toList.map (key, ·) ++ present rows := rfl
    rw [hcons, List.filter_append, ih, List.filter_cons]
    cases json? <;> by_cases hkey : (key == name) = true <;> simp [hkey, hcons]

/-- Each field of a record is read as it is written. -/
theorem holds_of_carries (hnodup : (rows.map Prod.fst).Nodup)
    (h : List.Forall₂ Carries named (present rows)) :
    ∀ row ∈ rows, Holds named row.1 row.2 := by
  rintro ⟨name, json?⟩ hrow
  have hfilter : List.Forall₂ Carries (named.filter (·.1 == name))
      ((present rows).filter (·.1 == name)) := by
    refine List.rel_filter (fun entry field hcarries => ?_) h
    have hname : entry.1 = field.1 := hcarries.1
    change (entry.1 == name) = true ↔ (field.1 == name) = true
    rw [hname]
  rw [filter_present, filter_eq_singleton hnodup hrow] at hfilter
  cases json? with
  | none =>
    have hnil : named.filter (·.1 == name) = [] := List.forall₂_nil_right_iff.1 hfilter
    exact .absent (by rw [field?, hnil])
  | some json =>
    obtain ⟨entry, others, hcarries, hothers, hentry⟩ := List.forall₂_cons_right_iff.1 hfilter
    obtain rfl := List.forall₂_nil_right_iff.1 hothers
    exact .present (by rw [field?, hentry]) hcarries.2

namespace Holds

variable {value? : Node → Option α} {json : Json} {json? : Option Json} {default a : α}

/-- A field that has to be there is read back. -/
theorem required?_eq (h : Holds named name (some json)) (hread : ReadsBack value? json a) :
    required? value? named name = some a := by
  cases h with
  | present hfield hnode =>
    rw [required?, hfield, Option.bind_some, Option.bind_some, hread.read _ hnode]

/-- A field that may be left out is read back, if the reader supplies what is left out. -/
theorem fieldOr_eq (h : Holds named name json?) (hnone : json? = none → default = a)
    (hread : ∀ json ∈ json?, ReadsBack value? json a) :
    fieldOr default value? named name = some a := by
  cases h with
  | absent hfield => rw [fieldOr, hfield, ← hnone rfl]; rfl
  | present hfield hnode =>
    rw [fieldOr, hfield, Option.bind_some]
    exact (hread _ rfl).read _ hnode

/-- A field that is always written is read back. -/
theorem fieldOr_some_eq (h : Holds named name (some json)) (hread : ReadsBack value? json a) :
    fieldOr default value? named name = some a :=
  h.fieldOr_eq nofun fun _ hjson => Option.some.inj hjson ▸ hread

/-- An optional field is read back. -/
theorem fieldOr_none_eq {value? : Node → Option (Option α)} {write : α → Json} {a? : Option α}
    (h : Holds named name (a?.map write)) (hread : ∀ a, ReadsBack value? (write a) (some a)) :
    fieldOr none value? named name = some a? := by
  refine h.fieldOr_eq (fun hnone => ?_) fun json hjson => ?_
  · exact (Option.map_eq_none_iff.1 hnone).symm
  · obtain ⟨a, rfl, rfl⟩ := Option.map_eq_some_iff.1 hjson
    exact hread a

/-- A list of strings that is left out when it is empty is read back. -/
theorem fieldOr_nil_eq {texts : List String}
    (h : Holds named name (if texts.isEmpty then none else some (Json.strings texts))) :
    fieldOr [] Node.texts? named name = some texts := by
  cases texts with
  | nil =>
    have hnone : Holds named name none := h
    exact hnone.fieldOr_eq (fun _ => rfl) nofun
  | cons text texts =>
    have hsome : Holds named name (some (Json.strings (text :: texts))) := h
    exact hsome.fieldOr_eq nofun fun json hjson => Option.some.inj hjson ▸ .texts (text :: texts)

end Holds

/-- A record is read back if its fields are. -/
theorem ReadsBack.record {read? : List (String × Node) → Option α} {a : α}
    (hnodup : (rows.map Prod.fst).Nodup)
    (hwritable : ∀ row ∈ rows, Writable row.2)
    (hread : ∀ named, (∀ row ∈ rows, Holds named row.1 row.2) → read? named = some a) :
    ReadsBack (fun node => node.entries?.bind read?) (.obj (present rows)) a := by
  constructor
  · exact exists_writes_present hwritable
  · intro node hnode
    obtain ⟨named, hnamed, hcarries⟩ := hnode.entries?_eq
    rw [hnamed, Option.bind_some]
    exact hread named (holds_of_carries hnodup hcarries)

end

end Scorebook.Yaml
