import Scorebook.Settings.Environment
import Scorebook.Text.Alphanumeric
import Scorebook.Text.Blank
import Scorebook.Text.Search

/-!
# Files of variables

A file with a line `NAME=value` for each variable. A value may be quoted: single quotes keep every
character, double quotes and bare text know escapes and references to other variables. A quoted
value may run over several lines, and a comment starts with `#` at the start of a line or behind a
blank. The lines in front of the first malformed one count. A variable that is set already keeps its
value.
-/

namespace Scorebook.EnvFile

/-- Where a scan for the end of a line stands. -/
inductive Standing where
  /-- Outside of quotes. -/
  | free
  /-- Behind a single blank outside of quotes. -/
  | gap
  /-- Behind a backslash outside of quotes. -/
  | escaped
  /-- Inside quotes. -/
  | quoted (mark : Char)
  /-- Behind a backslash inside quotes. -/
  | quotedEscaped (mark : Char)
  deriving DecidableEq, Repr

/-- A character outside of quotes that starts no comment. -/
def Standing.open (blanks : Bool) (c : Char) : Standing :=
  if c = '\\' then .escaped
  else if c = '"' ∨ c = '\'' then .quoted c
  else if blanks && Text.isBlank c && c != '\n' && c != '\r' then .gap
  else .free

/-- The standing behind a character; nothing if the character starts a comment. -/
def Standing.step (c : Char) : Standing → Option Standing
  | .gap => if c = '#' then none else some (Standing.open false c)
  | .free => some (Standing.open true c)
  | .escaped => some .free
  | .quoted mark =>
    some (if c = '\\' then .quotedEscaped mark else if c = mark then .free else .quoted mark)
  | .quotedEscaped mark => some (.quoted mark)

/-- The part of a line in front of a comment, and the standing at its end, or nothing behind a
comment. -/
def scanLine : Standing → List Char → List Char × Option Standing
  | standing, [] => ([], some standing)
  | standing, c :: cs =>
    match standing.step c with
    | none => ([], none)
    | some next => (c :: (scanLine next cs).1, (scanLine next cs).2)

/-- Whether a text is a comment. -/
def isComment (cs : List Char) : Bool := (Text.trimStart cs).head? == some '#'

/-- The lines of a file, joined where a quote or an escape is open at the end of one; `none` stands
for what is still open at the end of the file. -/
def logicalLines (begun : List Char) (standing : Standing) :
    List (List Char) → List (Option (List Char))
  | [] => if standing = .free then [] else [none]
  | line :: rest =>
    if isComment (begun ++ line) then some [] :: logicalLines [] .free rest
    else match scanLine standing line with
      | (kept, none) => some (begun ++ kept) :: logicalLines [] .free rest
      | (_, some .free) => some (begun ++ line) :: logicalLines [] .free rest
      | (_, some next) => logicalLines (begun ++ line) next rest

/-- A text cut behind each line break. -/
def physicalLines (cs : List Char) : List (List Char) :=
  match (Text.splitAt '\n' cs).reverse with
  | [] => []
  | last :: others =>
    others.reverse.map (· ++ ['\n']) ++ (if last.isEmpty then [] else [last])

/-- A part of a value. -/
inductive ValuePart where
  /-- A character. -/
  | char (c : Char)
  /-- The value of another variable, nothing if it is not set. -/
  | reference (name : String)
  deriving DecidableEq, Repr

/-- A variable with its value. -/
structure Assignment where
  /-- The name of the variable. -/
  name : String
  /-- The parts of the value. -/
  parts : List ValuePart
  deriving DecidableEq, Repr

/-- The character that an escape stands for. -/
def escapedChar? (c : Char) : Option Char :=
  if c = '\\' ∨ c = '\'' ∨ c = '"' ∨ c = '$' ∨ c = ' ' then some c
  else if c = 'n' then some '\n'
  else none

/-- Whether only blanks and a comment follow. -/
def endsValue : List Char → Bool
  | [] => true
  | c :: cs => if c = ' ' ∨ c = '\t' then endsValue cs else c == '#'

/-- How a value is read at a point. -/
inductive Reading where
  /-- Outside of quotes. -/
  | bare
  /-- Inside double quotes. -/
  | double
  /-- Inside single quotes. -/
  | single
  /-- Inside a reference without braces; the part of its name that was read. -/
  | reference (inside : Bool) (name : List Char)
  /-- Inside a reference in braces; the part of its name that was read. -/
  | braced (inside : Bool) (name : List Char)

/-- The reading behind a reference that started inside double quotes or outside of them. -/
def Reading.behind (inside : Bool) : Reading := if inside then .double else .bare

/-- The parts of a value. Behind a reference without braces one character is taken as it is,
whatever it would mean otherwise. -/
def valueParts? : Reading → List Char → Option (List ValuePart)
  | .bare, [] => some []
  | .reference false name, [] => some [.reference (String.ofList name)]
  | _, [] => none
  | .single, c :: cs =>
    if c = '\'' then valueParts? .bare cs else (valueParts? .single cs).map (.char c :: ·)
  | .reference inside name, c :: cs =>
    if Text.isAlphanumeric c then valueParts? (.reference inside (name ++ [c])) cs
    else if c = '\x7b' ∧ name = [] then valueParts? (.braced inside []) cs
    else if c = '$' then
      (valueParts? (.reference inside []) cs).map (.reference (String.ofList name) :: ·)
    else
      (valueParts? (.behind inside) cs).map fun parts =>
        .reference (String.ofList name) :: .char c :: parts
  | .braced inside name, c :: cs =>
    if c = '\x7d' then
      (valueParts? (.behind inside) cs).map (.reference (String.ofList name) :: ·)
    else valueParts? (.braced inside (name ++ [c])) cs
  | .double, ['\\'] => none
  | .bare, ['\\'] => some []
  | .double, '\\' :: c :: cs => do
    return .char (← escapedChar? c) :: (← valueParts? .double cs)
  | .bare, '\\' :: c :: cs => do
    return .char (← escapedChar? c) :: (← valueParts? .bare cs)
  | .double, c :: cs =>
    if c = '$' then valueParts? (.reference true []) cs
    else if c = '"' then valueParts? .bare cs
    else (valueParts? .double cs).map (.char c :: ·)
  | .bare, c :: cs =>
    if c = '$' then valueParts? (.reference false []) cs
    else if c = '\'' then valueParts? .single cs
    else if c = '"' then valueParts? .double cs
    else if c = ' ' ∨ c = '\t' then if endsValue cs then some [] else none
    else (valueParts? .bare cs).map (.char c :: ·)

/-- The name at the front of a text, and the rest. -/
def name? : List Char → Option (String × List Char)
  | [] => none
  | c :: cs =>
    if c.isAlpha || c == '_' then
      let (more, rest) := cs.span fun c => c.isAlphanum || c == '_' || c == '.'
      some (String.ofList (c :: more), Text.trimStart rest)
    else none

/-- The name of the variable and what stands behind the equals sign; the word `export` may stand in
front of the name. -/
def assigned? (cs : List Char) : Option (String × List Char) := do
  match ← name? cs with
  | (name, '=' :: rest) => return (name, rest)
  | ("export", rest) =>
    match ← name? rest with
    | (name, '=' :: rest) => return (name, rest)
    | _ => none
  | _ => none

/-- The assignment on a line: the outer `none` for a malformed line, the inner one for a line
without an assignment. -/
def assignment? (line : List Char) : Option (Option Assignment) :=
  let cs := Text.trimStart (Text.trimEnd line)
  if cs.isEmpty || isComment cs then some none
  else do
    let (name, rest) ← assigned? cs
    let value := Text.trimStart rest
    if value.isEmpty || isComment value then return some ⟨name, []⟩
    else return some ⟨name, ← valueParts? .bare value⟩

/-- The assignments on the lines in front of the first malformed one. -/
def assignmentsOf : List (Option (List Char)) → List Assignment
  | [] => []
  | line :: rest =>
    match line.bind assignment? with
    | none => []
    | some found => found.toList ++ assignmentsOf rest

/-- The assignments of a file; a byte order mark at its start is dropped. -/
def assignments (text : String) : List Assignment :=
  let cs := match text.toList with
    | '\uFEFF' :: rest => rest
    | cs => cs
  assignmentsOf (logicalLines [] .free (physicalLines cs))

namespace Assignment

/-- The value in an environment. -/
def value (a : Assignment) (env : Environment) : String :=
  String.ofList (a.parts.flatMap fun
    | .char c => [c]
    | .reference name => ((env.get? name).getD "").toList)

/-- The names that an assignment asks for: its own and those it refers to. -/
def names (a : Assignment) : List String :=
  a.name :: a.parts.filterMap fun
    | .char _ => none
    | .reference name => some name

end Assignment

/-- An environment with the variables that are assigned and not set yet. -/
def extend (env : Environment) (found : List Assignment) : Environment :=
  found.foldl
    (fun env a => if env.contains a.name then env else env.insert a.name (a.value env)) env

end Scorebook.EnvFile
