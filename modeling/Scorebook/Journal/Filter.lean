import Scorebook.Journal.Event
import Scorebook.Text.Alphanumeric
import Scorebook.Text.Search

/-!
# Filters of events

A filter is a list of directives, separated by commas: a level for all events, or a level for those
from the parts of the program whose path starts with a given text, and that carry a given field. The
longest such text decides. A text that is no filter is replaced by the level `info`.

A directive may also name a stretch of work or the value of a field of one, in brackets. None of the
events here is noted inside a stretch of work, so that such a directive concerns none of them.
-/

namespace Scorebook

/-- A rule of a filter: up to which rank some events are noted. -/
structure Directive where
  /-- What the path of the noting part has to start with. -/
  path : List Char := []
  /-- The name of a field that the event has to carry. -/
  field : Option String := none
  /-- Whether only events inside a stretch of work are meant. -/
  isInside : Bool := false
  /-- The greatest rank that is noted; none is below 1. -/
  rank : Nat := 5
  deriving DecidableEq, Repr

namespace Directive

/-- The rank that decimal digits stand for, behind a plus sign if need be. -/
def rankNumber? (word : List Char) : Option Nat :=
  let digits := match word with
    | '+' :: rest => rest
    | cs => cs
  if digits.isEmpty || !digits.all Char.isDigit then none
  else
    let n := digits.foldl (fun n c => n * 10 + (c.toNat - '0'.toNat)) 0
    if n ≤ 5 then some n else none

/-- The rank that a word or a number stands for. -/
def rankOf? (word : List Char) : Option Nat :=
  match String.ofList (word.map Char.toLower) with
  | "off" => some 0
  | "error" => some 1
  | "warn" => some 2
  | "info" => some 3
  | "debug" => some 4
  | "trace" => some 5
  | _ => rankNumber? word

/-- Whether a character may open the path of a directive. -/
def opensPath (c : Char) : Bool := Text.isAlphanumeric c || c == '_' || c == '-' || c == ':'

/-- The rank that is written behind an equals sign; nothing stands for every level. -/
def writtenRank? (level : List Char) : Option Nat :=
  if level.isEmpty then some 5 else rankOf? level

/-- The rank of a directive by what stands behind its brackets. -/
def rankBehind? : List Char → Option Nat
  | [] => some 5
  | '=' :: level => writtenRank? level
  | _ => none

/-- A directive with brackets by its path and what stands behind the opening one: the name of a
stretch of work, a field in braces with its value if need be, or both. -/
def bracketed? (path rest : List Char) : Option Directive := do
  let (name, rest) := rest.span fun c => c != ']' && c != '{'
  match rest with
  | ']' :: rest => return { path, isInside := true, rank := ← rankBehind? rest }
  | '{' :: rest =>
    let (field, rest) := rest.span (· != '}')
    match rest with
    | '}' :: ']' :: rest =>
      if field.isEmpty then none
      else return {
        path
        field := some (String.ofList (field.takeWhile (· != '=')))
        isInside := !name.isEmpty || field.contains '='
        rank := ← rankBehind? rest }
    | _ => none
  | _ => none

/-- A directive that a text writes: a level, a path, or both with an equals sign between them, and
brackets behind the path or in place of it. A path without a level stands for every level. Blanks
are characters like any others, and none may open a directive. -/
def ofText? (text : List Char) : Option Directive :=
  if !text.head?.any (fun c => opensPath c || c == '[') then none
  else
    let (path, rest) := text.span fun c => c != '=' && c != '['
    match rest with
    | [] =>
      match rankOf? path with
      | some rank => some { rank }
      | none => some { path }
    | '=' :: level => (writtenRank? level).map fun rank => { path, rank }
    | _ :: rest => bracketed? path rest

/-- Whether a directive concerns an event. -/
def concerns (d : Directive) (event : Event) : Bool :=
  !d.isInside && d.path.isPrefixOf event.target.path.toList && d.field.all event.hasField

/-- Whether a directive decides where another one would too: it has a longer path, or else a field
of a later name. -/
def isClearer (d other : Directive) : Bool :=
  if d.path.length = other.path.length then
    match other.field, d.field with
    | none, _ => true
    | some _, none => false
    | some name, some later => decide (name ≤ later)
  else decide (other.path.length < d.path.length)

example : ofText? "a::b=+04".toList = some { path := "a::b".toList, rank := 4 } := by decide +kernel
example : ofText? "[\x7brule\x7d]=warn".toList = some { field := some "rule", rank := 2 } := by
  decide +kernel
example : ofText? "info ".toList = some { path := "info ".toList } := by decide +kernel
example : [" info", "*", "[x", "[x]y"].map (ofText? ·.toList) = [none, none, none, none] := by
  decide +kernel

end Directive

/-- A filter of events. -/
abbrev Filter := List Directive

namespace Filter

/-- The filter that a text writes; nothing may stand between two commas. Without a directive only
errors are noted. -/
def ofText (text : String) : Filter :=
  match (Text.splitAt ',' text.toList).filter (!·.isEmpty) with
  | [] => [{ rank := 1 }]
  | directives => (directives.mapM Directive.ofText?).getD [{ rank := 3 }]

/-- The rank up to which events like one are noted: that of the clearest directive that concerns it,
the later one of two. -/
def rankFor (filter : Filter) (event : Event) : Nat :=
  let deciding := (filter.filter (·.concerns event)).foldl (fun best d =>
    match best with
    | some b => if d.isClearer b then some d else some b
    | none => some d) (none : Option Directive)
  (deciding.map Directive.rank).getD 0

/-- Whether an event is noted. -/
def admits (filter : Filter) (event : Event) : Bool :=
  decide (event.level.rank ≤ filter.rankFor event)

end Filter

end Scorebook
