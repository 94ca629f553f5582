import Scorebook.Yaml.Scalar

/-!
# Tokens of a document

The document as a list of tokens: scalars, the marks of flow collections, the marks of keys, values
and entries, and the borders of the collections that indentation makes. A collection starts with the
first key or entry that stands further to the right than the collection around it, and ends where
something stands further to the left.

A key is recognised by the colon behind it: where one may start, the place is kept until the colon
comes or until it is too late. A key stands on one line and within a limited number of bytes.
Anchors, tags, directives and scalars in blocks are not part of the notation.
-/

namespace Scorebook.Yaml

/-- A token of a document. -/
inductive Token where
  /-- The marks of the start and of the end of a document. -/
  | documentStart | documentEnd
  /-- The start of a sequence or of a mapping by indentation, and the end of either. -/
  | sequenceStart | mappingStart | blockEnd
  /-- The marks of a flow sequence. -/
  | openBracket | closeBracket
  /-- The marks of a flow mapping. -/
  | openBrace | closeBrace
  /-- The comma between the members of a flow collection. -/
  | comma
  /-- The dash in front of an entry. -/
  | entry
  /-- What stands in front of a key. -/
  | key
  /-- What stands in front of a value. -/
  | value
  /-- A plain scalar. -/
  | plain (text : String)
  /-- A quoted scalar. -/
  | quoted (text : String)
  deriving DecidableEq, Repr

/-- A place where a key may have started. -/
structure KeyStart where
  /-- The number of tokens in front of it. -/
  index : Nat
  /-- Its line. -/
  line : Nat
  /-- Its column. -/
  column : Nat
  /-- The bytes in front of it. -/
  offset : Nat
  /-- Whether nothing but a key can stand there. -/
  required : Bool

/-- The greatest number of bytes from the start of a key to its colon. -/
def keyLimit : Nat := 1024

/-- Whether a place is too far behind the start of a key for the key's colon. -/
def KeyStart.isStale (k : KeyStart) (p : Place) : Bool :=
  decide (k.line < p.line) || decide (k.offset + keyLimit < p.offset)

/-- A document while it is split into tokens. -/
structure Lexer where
  /-- The place up to which it is split. -/
  place : Place
  /-- The tokens so far, the latest one first. -/
  tokens : List Token := []
  /-- The number of tokens so far. -/
  count : Nat := 0
  /-- The columns of the open collections that indentation makes, the innermost first. -/
  indents : List Nat := []
  /-- Where a key may have started. -/
  keyStart : Option KeyStart := none
  /-- The same for the surroundings of each open flow collection, the innermost first. -/
  outerStarts : List (Option KeyStart) := []
  /-- Whether a key may start here. -/
  keyAllowed : Bool := true

namespace Lexer

/-! ## The state -/

/-- Whether a flow collection is open. -/
def inFlow (l : Lexer) : Bool := !l.outerStarts.isEmpty

/-- A token added. -/
def push (l : Lexer) (token : Token) : Lexer :=
  { l with tokens := token :: l.tokens, count := l.count + 1 }

/-- A token put in behind the first `index` tokens. -/
def insert (l : Lexer) (index : Nat) (token : Token) : Lexer :=
  let later := l.count - index
  { l with tokens := l.tokens.take later ++ token :: l.tokens.drop later, count := l.count + 1 }

/-- The place moved on by some characters. -/
def skip (l : Lexer) (count : Nat) : Lexer := { l with place := l.place.advance count }

/-- Whether a key may start behind the present token. -/
def allowKey (l : Lexer) (allowed : Bool) : Lexer := { l with keyAllowed := allowed }

/-- The start of a key dropped, which is a mistake where nothing but a key can stand. -/
def dropKey (l : Lexer) : Option Lexer :=
  if l.keyStart.any (·.required) then none else some { l with keyStart := none }

/-- The present place kept as the start of a key, if one may start there. Nothing but a key can
stand in the column of the innermost collection. -/
def keepKey (l : Lexer) : Option Lexer :=
  if l.keyAllowed then
    let required := !l.inFlow && l.indents.head? == some l.place.column
    l.dropKey.map fun m => { m with
      keyStart := some ⟨l.count, l.place.line, l.place.column, l.place.offset, required⟩ }
  else some l

/-- The starts of keys dropped that are too far back. -/
def dropStale (l : Lexer) : Option Lexer :=
  let isStale (k : KeyStart) : Bool := k.isStale l.place
  if (l.keyStart :: l.outerStarts).any fun start => start.any fun k => isStale k && k.required then
    none
  else some { l with
    keyStart := l.keyStart.filter (!isStale ·)
    outerStarts := l.outerStarts.map fun start => start.filter (!isStale ·) }

/-- The collections closed that indentation made and whose columns fulfil a condition, up to the
first one that does not. -/
def closeBlocks (closes : Nat → Bool) (l : Lexer) : Lexer :=
  if l.inFlow then l
  else
    let closed := l.indents.takeWhile closes
    { l with
      indents := l.indents.drop closed.length
      tokens := List.replicate closed.length .blockEnd ++ l.tokens
      count := l.count + closed.length }

/-- A collection opened behind the first `index` tokens, if its column is further to the right than
that of the innermost one. -/
def openBlock (l : Lexer) (index column : Nat) (start : Token) : Lexer :=
  if !l.inFlow && l.indents.head?.all (decide <| · < column) then
    { l.insert index start with indents := column :: l.indents }
  else l

/-! ## One token -/

/-- The mark of the start or of the end of a document. -/
def marker (l : Lexer) (token : Token) : Option Lexer :=
  (l.closeBlocks fun _ => true).dropKey.map fun m => ((m.push token).skip 3).allowKey false

/-- The opening mark of a flow collection. -/
def openFlow (l : Lexer) (token : Token) : Option Lexer :=
  l.keepKey.map fun m =>
    let inside := { m with keyStart := none, outerStarts := m.keyStart :: m.outerStarts }
    ((inside.push token).skip 1).allowKey true

/-- The closing mark of a flow collection. -/
def closeFlow (l : Lexer) (token : Token) : Option Lexer :=
  match l.outerStarts with
  | [] => none
  | start :: outer =>
    let outside := { l with keyStart := start, outerStarts := outer }
    some (((outside.push token).skip 1).allowKey false)

/-- A comma. -/
def comma (l : Lexer) : Option Lexer :=
  l.dropKey.map fun m => ((m.push .comma).skip 1).allowKey true

/-- The dash of an entry, which stands where a key might. -/
def dash (l : Lexer) : Option Lexer :=
  if l.inFlow || !l.keyAllowed then none
  else (l.openBlock l.count l.place.column .sequenceStart).dropKey.map fun m =>
    ((m.push .entry).skip 1).allowKey true

/-- The question mark in front of a key of any kind. -/
def questionMark (l : Lexer) : Option Lexer :=
  if !l.inFlow && !l.keyAllowed then none
  else (l.openBlock l.count l.place.column .mappingStart).dropKey.map fun m =>
    ((m.push .key).skip 1).allowKey (!m.inFlow)

/-- A colon. It makes a key of what stands between the start of a key and itself. -/
def colon (l : Lexer) : Option Lexer :=
  match l.keyStart with
  | some k =>
    let marked := { (l.insert k.index .key).openBlock k.index k.column .mappingStart with
      keyStart := none }
    some (((marked.push .value).skip 1).allowKey false)
  | none =>
    if !l.inFlow && !l.keyAllowed then none
    else
      let m := l.openBlock l.count l.place.column .mappingStart
      some (((m.push .value).skip 1).allowKey (!m.inFlow))

/-- A scalar in quotes. -/
def quoted (l : Lexer) : Option Lexer := do
  let m ← l.keepKey
  let (text, rest) ← quotedScalar m.place.rest
  return ({ m with place := m.place.upTo rest }.push (.quoted text)).allowKey false

/-- A plain scalar. A line break behind it lets a key start. -/
def plain (l : Lexer) : Option Lexer := do
  let m ← l.keepKey
  let indent := (m.indents.head?.map (· + 1)).getD 0
  let found ← plainText m.inFlow indent [] m.place
  return ({ m with place := found.place }.push (.plain (String.ofList found.text))).allowKey
    found.endsLine

/-- The token at the present place. -/
def token (l : Lexer) : Option Lexer :=
  match l.place.rest with
  | [] => none
  | c :: rest =>
    if l.place.atMarker then l.marker (if c == '-' then .documentStart else .documentEnd)
    else if c == '[' then l.openFlow .openBracket
    else if c == '{' then l.openFlow .openBrace
    else if c == ']' then l.closeFlow .closeBracket
    else if c == '}' then l.closeFlow .closeBrace
    else if c == ',' then l.comma
    else if c == '-' && startsBlank rest then l.dash
    else if c == '?' && (l.inFlow || startsBlank rest) then l.questionMark
    else if c == ':' && (l.inFlow || startsBlank rest) then l.colon
    else if c == '"' || c == '\'' then l.quoted
    else if startsPlain l.inFlow (c :: rest) then l.plain
    else none

/-! ## All tokens -/

/-- The state at the next content, with what ends in front of it. -/
def toContent (l : Lexer) : Option Lexer :=
  let (place, keyAllowed) := l.place.toContent l.inFlow false l.keyAllowed
  ({ l with place, keyAllowed }.dropStale).map (closeBlocks (decide <| place.column < ·))

/-- The tokens of a document that is split to its end. -/
def finish (l : Lexer) : Option (List Token) :=
  (l.closeBlocks fun _ => true).dropKey.map fun m => m.tokens.reverse

/-- The tokens of a document. -/
def run (l : Lexer) : Option (List Token) :=
  match l.toContent with
  | none => none
  | some m =>
    match m.place.rest with
    | [] => m.finish
    | _ :: _ =>
      match m.token with
      | none => none
      | some next =>
        if next.place.rest.length < l.place.rest.length then run next else none
termination_by l.place.rest.length

end Lexer

/-- The tokens of a document; nothing if it has a character that may not stand in one. -/
def tokens? (text : String) : Option (List Token) :=
  let cs := text.toList
  if cs.all isAllowed then Lexer.run { place := { rest := plainBreaks cs } } else none

example : tokens? "a: [b, 'c']\n" = some [.mappingStart, .key, .plain "a", .value, .openBracket,
    .plain "b", .comma, .quoted "c", .closeBracket, .blockEnd] := by decide +kernel

/-- A key does not run over a line break, and a plain value is no key. -/
example : tokens? "\"a\nb\": c" = none ∧ tokens? "a: b: c" = none := by
  constructor <;> cbv

end Scorebook.Yaml
