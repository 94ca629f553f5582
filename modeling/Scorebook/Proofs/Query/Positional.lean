import Mathlib.Data.List.Chain
import Scorebook.Proofs.Outcome
import Scorebook.Proofs.Query.Occurrences

/-!
# Values by position

Every text can be rewritten for positional values, piece by piece: placeholders are replaced in the
order in which they stand, everything else stays, and the first placeholder without a fitting value
is the one that is reported. The replacements hold no marks, and nothing that stood apart from its
mark comes to stand behind it, so a rewritten text has no placeholders any more.
-/

namespace Scorebook

namespace Param

/-- The value that a parameter has in a single place. -/
inductive BindsAs : Param → BoundValue → Prop
  /-- A whole number stays what it is. -/
  | int (n : Int64) : BindsAs (.int n) (.bigInt n)
  /-- So does a string. -/
  | text (s : String) : BindsAs (.text s) (.text s)
  /-- Whole numbers take one place together. -/
  | ints (ns : List Int64) : BindsAs (.ints ns) (.list (ns.map .bigInt))
  /-- So do strings. -/
  | texts (ss : List String) : BindsAs (.texts ss) (.list (ss.map .text))

/-- The values that a parameter has in places of their own, if it is a list. -/
inductive HasItems : Param → List BoundValue → Prop
  /-- Each whole number takes a place. -/
  | ints (ns : List Int64) : HasItems (.ints ns) (ns.map .bigInt)
  /-- So does each string. -/
  | texts (ss : List String) : HasItems (.texts ss) (ss.map .text)

variable {value : Param}

/-- A parameter is bound to its value in a single place. -/
theorem bound_eq_iff {place : BoundValue} : value.bound = place ↔ value.BindsAs place := by
  constructor
  · rintro rfl
    cases value with
    | int n => exact .int n
    | text s => exact .text s
    | ints ns => exact .ints ns
    | texts ss => exact .texts ss
  · rintro (_ | _ | _ | _) <;> rfl

/-- The items of a parameter are its values in places of their own. -/
theorem boundItems?_eq_some_iff {items : List BoundValue} :
    value.boundItems? = some items ↔ value.HasItems items := by
  constructor
  · intro h
    cases value with
    | int n => cases h
    | text s => cases h
    | ints ns => exact Option.some.inj h ▸ .ints ns
    | texts ss => exact Option.some.inj h ▸ .texts ss
  · rintro (_ | _) <;> rfl

/-- A parameter without items is no list. -/
theorem boundItems?_eq_none_iff : value.boundItems? = none ↔ ∀ items, ¬ value.HasItems items := by
  simp only [Option.eq_none_iff_forall_ne_some, ne_eq, boundItems?_eq_some_iff]

/-- A parameter with items is a list. -/
theorem isSome_boundItems?_iff : value.boundItems?.isSome ↔ ∃ items, value.HasItems items := by
  simp only [Option.isSome_iff_exists, boundItems?_eq_some_iff]

end Param

namespace Piece

variable {params : Dict Param} {cs : List Char} {pieces : List Piece}

/-- A placeholder that cannot be replaced, and why. -/
inductive Offends (params : Dict Param) : Piece → BindError → Prop
  /-- There is no value for it. -/
  | single {name : String} : params.get? name = none →
    Offends params (.single name) (.missing name)
  /-- There is no list for it, as there is no value at all. -/
  | spread {name : String} : params.get? name = none →
    Offends params (.spread name) (.missing name)
  /-- There is a value for it, which is no list. -/
  | notAList {name : String} {value : Param} : params.get? name = some value →
    (∀ items, ¬ value.HasItems items) → Offends params (.spread name) (.notAList name)

/-- What a piece becomes, and the values for the question marks in it. -/
inductive Becomes (params : Dict Param) : Piece → List Char × List BoundValue → Prop
  /-- What belongs to no placeholder stays. -/
  | plain {c : Char} : Becomes params (.plain c) ([c], [])
  /-- A placeholder by itself becomes a question mark; its value may be a list as a whole. -/
  | single {name : String} {value : Param} {place : BoundValue} :
    params.get? name = some value → value.BindsAs place →
    Becomes params (.single name) (['?'], [place])
  /-- The empty list takes no value. -/
  | nothing {name : String} {value : Param} : params.get? name = some value →
    value.HasItems [] → Becomes params (.spread name) ("(NULL)".toList, [])
  /-- Any other list becomes as many question marks as it has items. -/
  | items {name : String} {value : Param} {item : BoundValue} {others : List BoundValue} :
    params.get? name = some value → value.HasItems (item :: others) →
    Becomes params (.spread name)
      ("(?".toList ++ others.flatMap (fun _ => ", ?".toList) ++ [')'], item :: others)

/-- The marks for a list that is not empty. -/
theorem marks_cons (item : BoundValue) (others : List BoundValue) :
    (BoundValue.marks (item :: others)).toList =
      "(?".toList ++ others.flatMap (fun _ => ", ?".toList) ++ [')'] := by
  have hjoin : (Text.joinWith ", " ((item :: others).map fun _ => "?")).toList =
      '?' :: others.flatMap fun _ => ", ?".toList := by
    induction others with
    | nil => simp [Text.joinWith]
    | cons next rest ih =>
      have hstep : Text.joinWith ", " ((item :: next :: rest).map fun _ => "?") =
          "?" ++ ", " ++ Text.joinWith ", " ((item :: rest).map fun _ => "?") := rfl
      rw [hstep, String.toList_append, ih]
      rfl
  rw [BoundValue.marks, if_neg (by simp), String.toList_append, String.toList_append, hjoin]
  rfl

theorem Becomes.fill {piece : Piece} {part : List Char × List BoundValue}
    (h : Becomes params piece part) : piece.fill params = .ok part := by
  cases h with
  | plain => rfl
  | single hvalue hplace => simp only [Piece.fill, hvalue, Param.bound_eq_iff.2 hplace]
  | nothing hvalue hitems =>
    simp only [Piece.fill, hvalue, Param.boundItems?_eq_some_iff.2 hitems]
    rfl
  | items hvalue hitems =>
    simp only [Piece.fill, hvalue, Param.boundItems?_eq_some_iff.2 hitems, marks_cons]

theorem Offends.fill {piece : Piece} {e : BindError} (h : Offends params piece e) :
    piece.fill params = .error e := by
  cases h with
  | single hnone => simp only [Piece.fill, hnone]
  | spread hnone => simp only [Piece.fill, hnone]
  | notAList hvalue hitems =>
    simp only [Piece.fill, hvalue, Param.boundItems?_eq_none_iff.2 hitems]

/-- A piece that does not offend becomes something. -/
theorem becomes_or_offends (params : Dict Param) (piece : Piece) :
    (∃ part, Becomes params piece part) ∨ ∃ e, Offends params piece e := by
  cases piece with
  | plain c => exact .inl ⟨_, .plain⟩
  | single name =>
    cases hvalue : params.get? name with
    | none => exact .inr ⟨_, .single hvalue⟩
    | some value => exact .inl ⟨_, .single hvalue (Param.bound_eq_iff.1 rfl)⟩
  | spread name =>
    cases hvalue : params.get? name with
    | none => exact .inr ⟨_, .spread hvalue⟩
    | some value =>
      match hitems : value.boundItems? with
      | none => exact .inr ⟨_, .notAList hvalue (Param.boundItems?_eq_none_iff.1 hitems)⟩
      | some [] => exact .inl ⟨_, .nothing hvalue (Param.boundItems?_eq_some_iff.1 hitems)⟩
      | some (item :: others) =>
        exact .inl ⟨_, .items hvalue (Param.boundItems?_eq_some_iff.1 hitems)⟩

/-- A piece is filled with what it becomes. -/
theorem fill_eq_ok_iff {piece : Piece} {part : List Char × List BoundValue} :
    piece.fill params = .ok part ↔ Becomes params piece part := by
  refine ⟨fun h => ?_, Becomes.fill⟩
  rcases becomes_or_offends params piece with ⟨other, hbecomes⟩ | ⟨e, hoffends⟩
  · exact Except.ok.inj (hbecomes.fill.symm.trans h) ▸ hbecomes
  · cases hoffends.fill.symm.trans h

/-- A piece cannot be filled exactly if it offends. -/
theorem fill_eq_error_iff {piece : Piece} {e : BindError} :
    piece.fill params = .error e ↔ Offends params piece e := by
  refine ⟨fun h => ?_, Offends.fill⟩
  rcases becomes_or_offends params piece with ⟨part, hbecomes⟩ | ⟨other, hoffends⟩
  · cases hbecomes.fill.symm.trans h
  · exact Except.error.inj (hoffends.fill.symm.trans h) ▸ hoffends

/-- A piece becomes something exactly if there is a value where it needs one, and a list where it
needs that. -/
theorem exists_becomes_iff {piece : Piece} : (∃ part, Becomes params piece part) ↔
    (∀ name, piece = .single name → (params.get? name).isSome) ∧
      ∀ name, piece = .spread name →
        ∃ value items, params.get? name = some value ∧ value.HasItems items := by
  constructor
  · rintro ⟨part, h⟩
    cases h with
    | plain => exact ⟨nofun, nofun⟩
    | single hvalue =>
      refine ⟨?_, nofun⟩
      rintro _ ⟨⟩
      exact Option.isSome_of_eq_some hvalue
    | nothing hvalue hitems | items hvalue hitems =>
      refine ⟨nofun, ?_⟩
      rintro _ ⟨⟩
      exact ⟨_, _, hvalue, hitems⟩
  · rintro ⟨hsingle, hspread⟩
    refine (becomes_or_offends params piece).resolve_right ?_
    rintro ⟨e, hoffends⟩
    cases hoffends with
    | single hnone => simpa [hnone] using hsingle _ rfl
    | spread hnone => simpa [hnone] using hspread _ rfl
    | notAList hvalue hno => simpa [hvalue, hno] using hspread _ rfl

/-- There is a value for each question mark that a placeholder becomes. -/
theorem Becomes.count {piece : Piece} {part : List Char × List BoundValue}
    (h : Becomes params piece part) (hne : piece ≠ .plain '?') :
    part.1.count '?' = part.2.length := by
  cases h with
  | @plain c =>
    have hc : c ≠ '?' := fun he => hne (he ▸ rfl)
    simp [hc]
  | single => rfl
  | nothing => rfl
  | @items _ _ item others =>
    have hothers : (others.flatMap fun _ => ", ?".toList).count '?' = others.length := by
      rw [List.count_flatMap]
      change (others.map fun _ => 1).sum = others.length
      simp
    simp only [List.count_append, hothers, List.length_cons]
    exact Nat.add_comm 1 others.length

/-- A placeholder is replaced with a text that holds no mark, and that no name goes on with. -/
theorem Becomes.quiet {piece : Piece} {part : List Char × List BoundValue}
    (h : Becomes params piece part) (hmark : piece.isMark = true) :
    '@' ∉ part.1 ∧ ∃ c rest, part.1 = c :: rest ∧ opensName c = false := by
  cases h with
  | plain => cases hmark
  | single => exact ⟨by simp, _, _, rfl, by decide⟩
  | nothing => exact ⟨by decide, _, _, rfl, by decide⟩
  | items =>
    refine ⟨?_, '(', _, rfl, by decide⟩
    simp

theorem Occurs.isMark {piece : Piece} {rest : List Char} (h : Occurs cs piece rest) :
    piece.isMark = true := by
  cases h <;> rfl

/-- A placeholder ends where the rest of the text starts. -/
theorem Occurs.suffix {piece : Piece} {rest : List Char} (h : Occurs cs piece rest) :
    rest <:+ cs := by
  cases h with
  | @spread name _ _ =>
    have hname : rest <:+ name.toList ++ ')' :: rest :=
      (List.suffix_cons ')' rest).trans (List.suffix_append _ _)
    exact hname.trans (List.suffix_append _ _)
  | single => exact (List.suffix_append _ rest).trans (List.suffix_cons '@' _)

/-- A character that is cut off by itself stands in the text. -/
theorem Cuts.mem_of_plain (h : Cuts cs pieces) {d : Char} (hd : .plain d ∈ pieces) : d ∈ cs := by
  induction h with
  | nil => cases hd
  | occurs ho _ ih =>
    rcases List.mem_cons.1 hd with rfl | hd
    · cases ho
    · exact ho.suffix.subset (ih hd)
  | plain _ _ ih =>
    rcases List.mem_cons.1 hd with hd | hd
    · exact Piece.plain.inj hd ▸ List.mem_cons_self
    · exact List.mem_cons_of_mem _ (ih hd)

/-- No mark in a text has a name behind it. -/
def Bare (cs : List Char) : Prop := cs.IsChain fun c d => c = '@' → opensName d = false

/-- A text without marks may stand in front. -/
theorem Bare.prepend {front : List Char} (h : Bare cs) (hq : '@' ∉ front) : Bare (front ++ cs) := by
  induction front with
  | nil => exact h
  | cons c front ih =>
    obtain ⟨hc, hfront⟩ := not_or.1 (List.mem_cons.not.1 hq)
    exact List.isChain_cons.2 ⟨fun _ _ he => absurd he.symm hc, ih hfront⟩

/-- A text with a placeholder at its start is not bare. -/
theorem Occurs.not_bare {piece : Piece} {rest : List Char} (h : Occurs cs piece rest) :
    ¬ Bare cs := by
  obtain ⟨front, c, tail, rfl, hc⟩ : ∃ front c tail, cs = front ++ '@' :: c :: tail ∧
      opensName c = true := by
    cases h with
    | spread hname =>
      obtain ⟨c, hhead, hletter⟩ := hname.opens
      have hc := opensName_iff.2 hletter
      obtain ⟨tail, htail⟩ := List.head?_eq_some_iff.1 hhead
      exact ⟨"UNNEST(".toList, c, _, by rw [htail]; rfl, hc⟩
    | single hname =>
      obtain ⟨c, hhead, hletter⟩ := hname.opens
      have hc := opensName_iff.2 hletter
      obtain ⟨tail, htail⟩ := List.head?_eq_some_iff.1 hhead
      exact ⟨[], c, _, by rw [htail]; rfl, hc⟩
  intro hbare
  obtain ⟨-, hmark, -⟩ := List.isChain_append_cons_cons.1 hbare
  rw [hmark rfl] at hc
  cases hc

/-- A bare text is cut into its characters. -/
theorem cuts_of_bare (h : Bare cs) : Cuts cs (cs.map .plain) := by
  induction cs with
  | nil => exact .nil
  | cons c cs ih => exact .plain (fun _ _ ho => ho.not_bare h) (ih (List.isChain_cons.1 h).2)

/-- What a text becomes is bare, and starts with a name only if the text does. -/
theorem Cuts.bare {parts : List (List Char × List BoundValue)} (h : Cuts cs pieces)
    (hparts : List.Forall₂ (Becomes params) pieces parts) :
    Bare (parts.flatMap (·.1)) ∧
      ∀ d ∈ (parts.flatMap (·.1)).head?, opensName d = true → d ∈ cs.head? := by
  induction h generalizing parts with
  | nil =>
    cases hparts
    exact ⟨.nil, nofun⟩
  | occurs ho _ ih =>
    obtain ⟨part, others, hpart, hothers, rfl⟩ := List.forall₂_cons_left_iff.1 hparts
    obtain ⟨hquiet, c, rest, hhead, hc⟩ := hpart.quiet ho.isMark
    refine ⟨(ih hothers).1.prepend hquiet, fun d hd hopens => ?_⟩
    rw [List.flatMap_cons, hhead] at hd
    cases hd
    rw [hc] at hopens
    cases hopens
  | @plain c cs pieces hno _ ih =>
    obtain ⟨part, others, hpart, hothers, rfl⟩ := List.forall₂_cons_left_iff.1 hparts
    cases hpart
    obtain ⟨hbare, hhead⟩ := ih hothers
    refine ⟨List.isChain_cons.2 ⟨fun d hd he => ?_, hbare⟩, fun d hd _ => hd⟩
    -- A name behind this mark would stand behind it in the text already.
    rw [Bool.eq_false_iff]
    intro hopens
    obtain ⟨tail, rfl⟩ := List.head?_eq_some_iff.1 (hhead d hd hopens)
    subst he
    exact hno _ _ (single?_eq_some_iff.1 (if_pos hopens))

/-- There is a value for each question mark, if there were no question marks before. -/
theorem count_parts {parts : List (List Char × List BoundValue)}
    (hparts : List.Forall₂ (Becomes params) pieces parts) (hno : .plain '?' ∉ pieces) :
    (parts.flatMap (·.1)).count '?' = (parts.flatMap (·.2)).length := by
  induction hparts with
  | nil => rfl
  | @cons piece part _ _ hpart _ ih =>
    obtain ⟨hne, hrest⟩ := not_or.1 (List.mem_cons.not.1 hno)
    rw [List.flatMap_cons, List.flatMap_cons, List.count_append, List.length_append,
      hpart.count (Ne.symm hne), ih hrest]

end Piece

namespace Query

variable {q : Query} {pieces : List Piece}

/-- What the rewriting of a query for positional values comes to, with its text cut into pieces. -/
structure Rewrites (q : Query) (pieces : List Piece) : Prop where
  /-- It succeeds exactly if each placeholder has a value, which in the list form is a list. -/
  succeeds_iff : (∃ bound, q.positional = .ok bound) ↔
    (∀ name, .single name ∈ pieces → (q.param? name).isSome) ∧
      ∀ name, .spread name ∈ pieces →
        ∃ value items, q.param? name = some value ∧ value.HasItems items
  /-- Otherwise the first placeholder that cannot be replaced is reported. -/
  fails_iff (e : BindError) : q.positional = .error e ↔
    ∃ before piece after, pieces = before ++ piece :: after ∧
      (∀ other ∈ before, ∀ e, ¬ other.Offends q.params e) ∧ piece.Offends q.params e
  /-- If it succeeds, the pieces become the text and the values, one behind the other. -/
  gives_iff (bound : PositionalQuery) : q.positional = .ok bound ↔
    ∃ parts, List.Forall₂ (Piece.Becomes q.params) pieces parts ∧
      bound.sql.toList = parts.flatMap (·.1) ∧ bound.values = parts.flatMap (·.2)
  /-- There are as many question marks as values, if there were none before. -/
  count {bound : PositionalQuery} : q.positional = .ok bound → '?' ∉ q.sql.toList →
    bound.sql.toList.count '?' = bound.values.length
  /-- No placeholder is left, so that a second rewriting changes nothing, whatever the values. -/
  again {bound : PositionalQuery} : q.positional = .ok bound →
    ∀ params, (Query.mk bound.sql params).positional = .ok ⟨bound.sql, []⟩

/-- The pieces become the text and the values, one behind the other. -/
theorem positional_eq_ok_iff (hcuts : Piece.Cuts q.sql.toList pieces) {bound : PositionalQuery} :
    q.positional = .ok bound ↔ ∃ parts, List.Forall₂ (Piece.Becomes q.params) pieces parts ∧
      bound.sql.toList = parts.flatMap (·.1) ∧ bound.values = parts.flatMap (·.2) := by
  simp only [positional, ← Piece.cuts_iff.1 hcuts, map_eq_ok_iff, mapM_eq_ok_iff,
    Piece.fill_eq_ok_iff]
  refine exists_congr fun parts => and_congr_right fun _ => ?_
  constructor
  · rintro rfl
    exact ⟨String.toList_ofList, rfl⟩
  · rintro ⟨hsql, hvalues⟩
    rw [← hsql, ← hvalues, String.ofList_toList]

/-- The first placeholder that cannot be replaced is reported. -/
theorem positional_eq_error_iff (hcuts : Piece.Cuts q.sql.toList pieces) {e : BindError} :
    q.positional = .error e ↔ ∃ before piece after, pieces = before ++ piece :: after ∧
      (∀ other ∈ before, ∀ e, ¬ other.Offends q.params e) ∧ piece.Offends q.params e := by
  have hok (other : Piece) :
      (∃ part, other.fill q.params = .ok part) ↔ ∀ e, ¬ other.Offends q.params e := by
    simp only [← Piece.fill_eq_error_iff]
    cases other.fill q.params <;> simp
  simp only [positional, ← Piece.cuts_iff.1 hcuts, map_eq_error_iff, mapM_eq_error_iff, hok,
    Piece.fill_eq_error_iff]

/-- Each placeholder needs a value, which in the list form is a list. -/
theorem exists_positional_iff (hcuts : Piece.Cuts q.sql.toList pieces) :
    (∃ bound, q.positional = .ok bound) ↔
      (∀ name, .single name ∈ pieces → (q.param? name).isSome) ∧
        ∀ name, .spread name ∈ pieces →
          ∃ value items, q.param? name = some value ∧ value.HasItems items := by
  have hmap : (∃ bound, q.positional = .ok bound) ↔
      ∃ parts, pieces.mapM (Piece.fill q.params) = .ok parts := by
    simp only [positional, ← Piece.cuts_iff.1 hcuts, map_eq_ok_iff]
    exact ⟨fun ⟨_, parts, h, _⟩ => ⟨parts, h⟩, fun ⟨parts, h⟩ => ⟨_, parts, h, rfl⟩⟩
  simp only [hmap, exists_mapM_eq_ok_iff, Piece.fill_eq_ok_iff, Piece.exists_becomes_iff]
  constructor
  · intro h
    exact ⟨fun name hm => (h _ hm).1 name rfl, fun name hm => (h _ hm).2 name rfl⟩
  · rintro ⟨hsingle, hspread⟩ piece hm
    exact ⟨fun name he => hsingle name (he ▸ hm), fun name he => hspread name (he ▸ hm)⟩

/-- A bare text needs no values. -/
theorem positional_of_bare (hbare : Piece.Bare q.sql.toList) : q.positional = .ok ⟨q.sql, []⟩ := by
  refine (positional_eq_ok_iff (Piece.cuts_of_bare hbare)).2
    ⟨q.sql.toList.map fun c => ([c], []), ?_, ?_, ?_⟩
  · rw [List.forall₂_map_left_iff, List.forall₂_map_right_iff, List.forall₂_same]
    exact fun _ _ => .plain
  · rw [List.flatMap_map, List.flatMap_singleton']
  · rw [List.flatMap_map]
    exact (List.flatMap_eq_nil_iff.2 fun _ _ => rfl).symm

/-- The text of every query can be cut in one way, and is rewritten along it. -/
theorem positional_rewrites (q : Query) :
    ∃ pieces, (∀ others, Piece.Cuts q.sql.toList others ↔ others = pieces) ∧
      q.Rewrites pieces := by
  have hcuts := Piece.cuts_iff.2 (Eq.refl (Piece.scan q.sql.toList))
  refine ⟨Piece.scan q.sql.toList, fun others => Piece.cuts_iff, ?_⟩
  refine ⟨exists_positional_iff hcuts, fun e => positional_eq_error_iff hcuts,
    fun bound => positional_eq_ok_iff hcuts, ?_, ?_⟩
  · intro bound h hno
    obtain ⟨parts, hparts, hsql, hvalues⟩ := (positional_eq_ok_iff hcuts).1 h
    rw [hsql, hvalues]
    exact Piece.count_parts hparts fun hm => hno (hcuts.mem_of_plain hm)
  · intro bound h params
    obtain ⟨parts, hparts, hsql, -⟩ := (positional_eq_ok_iff hcuts).1 h
    apply positional_of_bare
    rw [hsql]
    exact (hcuts.bare hparts).1

end Query

end Scorebook
