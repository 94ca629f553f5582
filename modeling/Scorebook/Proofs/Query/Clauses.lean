import Scorebook.Query.Statement

/-!
# The clauses of a query

The text of a query is written out here from its clauses, each a list of texts: what is shown, from
where, under which conditions, grouped and sorted how, and the limit. What is known of the parts of
a statement is known of its text with it.
-/

namespace Scorebook

/-- The texts that the clauses of a query are made of. -/
structure Clauses where
  /-- What is shown, one line for each. -/
  shown : List String
  /-- The table that the rows come from. -/
  source : String
  /-- The conditions, all of which hold. -/
  conditions : List String
  /-- What the rows are grouped by. -/
  groups : List String
  /-- What the rows are sorted by. -/
  order : List String

namespace Clauses

/-- A clause is left out if there is nothing in it. -/
def unlessEmpty (opening between : String) : List String → String
  | [] => ""
  | items => opening ++ between.intercalate items

/-- The clauses one behind the other, with the limit at the end. -/
def text (clauses : Clauses) : String :=
  "SELECT\n" ++ ",\n".intercalate (clauses.shown.map ("  " ++ ·))
    ++ "\nFROM " ++ clauses.source
    ++ unlessEmpty "\nWHERE " "\n  AND " clauses.conditions
    ++ unlessEmpty "\nGROUP BY " ", " clauses.groups
    ++ unlessEmpty "\nORDER BY " ", " clauses.order
    ++ "\nLIMIT @limit"

end Clauses

/-- Texts are joined as the library joins them. -/
theorem Text.joinWith_eq (between : String) (items : List String) :
    joinWith between items = between.intercalate items := by
  fun_induction joinWith between items with
  | case1 => exact String.intercalate_nil.symm
  | case2 only => exact String.intercalate_singleton.symm
  | case3 first second rest ih => rw [ih, String.intercalate_cons_cons]

namespace Statement

variable (s : Statement)

/-- The clauses of a statement: an output stands under its name unless that is its text, and a sort
key goes one way or the other. -/
def clauses : Clauses where
  shown := s.outputs.map fun output =>
    if output.name = output.expr.sql then output.expr.sql
    else output.expr.sql ++ " AS " ++ output.name
  source := s.source
  conditions := s.conditions.map Condition.sql
  groups := s.grouping.map Expr.sql
  order := s.order.toList.map fun key =>
    if key.descending then key.expr.sql ++ " DESC" else key.expr.sql ++ " ASC"

theorem clause_eq (opening between : String) (items : List String) :
    clause opening between items = Clauses.unlessEmpty opening between items := by
  cases items with
  | nil => rfl
  | cons item items => exact congrArg (opening ++ ·) (Text.joinWith_eq between (item :: items))

/-- A query is written clause by clause. -/
theorem query_sql : s.query.sql = s.clauses.text := by
  have hshown : s.outputs.map Output.sql = s.clauses.shown.map ("  " ++ ·) := by
    rw [clauses, List.map_map]
    refine List.map_congr_left fun output _ => ?_
    rw [Output.sql, Function.comp_apply]
    split
    · rfl
    · simp only [String.append_assoc]
  have horder : clause "\nORDER BY " "" (s.order.toList.map SortKey.sql) =
      Clauses.unlessEmpty "\nORDER BY " ", " s.clauses.order := by
    rw [clause_eq, clauses]
    cases s.order with
    | none => rfl
    | some key =>
      obtain ⟨expr, descending⟩ := key
      cases descending <;> rfl
  change s.sql = _
  rw [sql, hshown, Text.joinWith_eq, clause_eq, clause_eq, horder, String.append_assoc]
  rfl

end Statement

end Scorebook
