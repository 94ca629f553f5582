/-!
# Places in a document

A document is read from the front, character by character. A place knows the text from there on and
what lies in front of it: lines, the characters on its own line, and bytes. Main statement: the text
behind a character is shorter than the text in front of it, so reading comes to an end.
-/

namespace Scorebook.Yaml

/-- A blank inside a line. -/
def isGap (c : Char) : Bool := c == ' ' || c == '\t'

/-- A line break: the usual one, or a separator of lines or of paragraphs. -/
def isBreak (c : Char) : Bool := c == '\n' || c == '\u2028' || c == '\u2029'

/-- A blank or a line break. -/
def isSpace (c : Char) : Bool := isGap c || isBreak c

/-- A character that marks the borders of flow collections and of their members. -/
def isFlowMark (c : Char) : Bool := c == ',' || c == '[' || c == ']' || c == '{' || c == '}'

/-- Whether a character may stand in a document. -/
def isAllowed (c : Char) : Bool :=
  let code := c.toNat
  c == '\t' || c == '\n' || c == '\r' || decide (0x20 ≤ code) && decide (code ≤ 0x7E)
    || code == 0x85
    || decide (0xA0 ≤ code) && decide (code ≤ 0xFFFD) || decide (0x10000 ≤ code)

/-- Whether a text is at its end, at the end of a line or at a blank. -/
def startsBlank : List Char → Bool
  | [] => true
  | c :: _ => isSpace c

/-- Whether a text starts with the mark of the start or of the end of a document: three dashes or
three points in front of a blank or an end. -/
def startsMarker : List Char → Bool
  | a :: b :: c :: rest => (a == '-' || a == '.') && b == a && c == a && startsBlank rest
  | _ => false

/-- A text with every line break written as a line feed: a carriage return, alone or before a line
feed, and a next line. The separators of lines and of paragraphs stay. -/
def plainBreaks : List Char → List Char
  | [] => []
  | '\r' :: '\n' :: rest => '\n' :: plainBreaks rest
  | c :: rest => (if c == '\r' || c == '\u0085' then '\n' else c) :: plainBreaks rest

/-- A place in a document. -/
structure Place where
  /-- The text from here on. -/
  rest : List Char
  /-- The lines in front of the one that the place is on. -/
  line : Nat := 0
  /-- The characters in front of it on its line. -/
  column : Nat := 0
  /-- The bytes in front of it. -/
  offset : Nat := 0

namespace Place

/-- The place behind one more character. -/
def next (p : Place) : Place :=
  match p.rest with
  | [] => p
  | c :: rest =>
    if isBreak c then ⟨rest, p.line + 1, 0, p.offset + c.utf8Size⟩
    else ⟨rest, p.line, p.column + 1, p.offset + c.utf8Size⟩

/-- The text behind a character is what follows it. -/
theorem next_rest {p : Place} {c : Char} {rest : List Char} (h : p.rest = c :: rest) :
    p.next.rest = rest := by
  unfold next
  rw [h]
  by_cases hc : isBreak c <;> simp [hc]

/-- The place some characters further on. -/
def advance : (count : Nat) → Place → Place
  | 0, p => p
  | count + 1, p => advance count p.next

/-- The place of a rest of the text. -/
def upTo (p : Place) (rest : List Char) : Place := p.advance (p.rest.length - rest.length)

/-- Whether a document starts or ends here by a mark at the start of a line. -/
def atMarker (p : Place) : Bool := p.column == 0 && startsMarker p.rest

/-- The place behind blanks, comments and line breaks, and whether a key may start there. Outside
of flow collections a key may start on a new line, and where one may start a tab is no blank. A byte
order mark at the start of a line counts as a blank. -/
def toContent (inFlow inComment keyAllowed : Bool) (p : Place) : Place × Bool :=
  match h : p.rest with
  | [] => (p, keyAllowed)
  | c :: _ =>
    have : p.next.rest.length < p.rest.length := by simp [next_rest h, h]
    if isBreak c then toContent inFlow false (keyAllowed || !inFlow) p.next
    else if inComment || c == '#' then toContent inFlow true keyAllowed p.next
    else if c == ' ' || (c == '\t' && (inFlow || !keyAllowed))
        || (c == '\uFEFF' && p.column == 0) then
      toContent inFlow false keyAllowed p.next
    else (p, keyAllowed)
termination_by p.rest.length

end Place

end Scorebook.Yaml
