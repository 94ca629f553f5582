import Scorebook.Yaml.Place

/-!
# Scalars

How scalars are written: in double quotes with escapes, in single quotes, or plainly. A scalar may
run over several lines, which are folded into one; a line that starts with the mark of a document
ends it. Quoted scalars ignore indentation, a plain one outside of flow collections goes on only
where it is indented.
-/

namespace Scorebook.Yaml

/-- A part read from the front of a text, with the rest of the text. -/
abbrev Read (α : Type) := Option (α × List Char)

/-- Blanks and line breaks inside a scalar. Without a break they stay; a line feed folds to a single
blank, or to the breaks behind it if there are more; and a separator keeps all breaks. -/
def folded (gap : List Char) : List Char :=
  match gap.filter isBreak with
  | [] => gap
  | ['\n'] => [' ']
  | '\n' :: breaks => breaks
  | breaks => breaks

/-- The value of a hexadecimal digit. -/
def hexDigit? (c : Char) : Option Nat :=
  if '0' ≤ c ∧ c ≤ '9' then some (c.toNat - '0'.toNat)
  else if 'a' ≤ c ∧ c ≤ 'f' then some (c.toNat - 'a'.toNat + 10)
  else if 'A' ≤ c ∧ c ≤ 'F' then some (c.toNat - 'A'.toNat + 10)
  else none

/-- The character whose code the digits write; not a surrogate and not past the last plane. -/
def codeChar? (digits : List Char) : Option Char := do
  let code ← digits.foldlM (fun n c => (hexDigit? c).map (n * 16 + ·)) 0
  if code.isValidChar then some (Char.ofNat code) else none

/-- The character that a one-letter escape in double quotes stands for. -/
def escaped? (c : Char) : Option Char :=
  [('0', '\x00'), ('a', '\x07'), ('b', '\x08'), ('t', '\t'), ('\t', '\t'), ('n', '\n'),
   ('v', '\x0b'), ('f', '\x0c'), ('r', '\r'), ('e', '\x1b'), (' ', ' '), ('"', '"'), ('/', '/'),
   ('\\', '\\'), ('N', '\u0085'), ('_', '\u00A0'), ('L', '\u2028'), ('P', '\u2029')].lookup c

/-- The number of hexadecimal digits behind an escape letter. -/
def codeLength? : Char → Option Nat
  | 'x' => some 2
  | 'u' => some 4
  | 'U' => some 8
  | _ => none

/-- A piece made of blanks and line breaks, of which `gap` is already read; a line may not start
with the mark of a document. -/
def gapPiece (fold : List Char → List Char) (gap cs : List Char) : Read (Option (List Char)) :=
  let gap := gap ++ cs.takeWhile isSpace
  let rest := cs.dropWhile isSpace
  if gap.getLast?.any isBreak && startsMarker rest then none else some (some (fold gap), rest)

/-- The next piece of a double-quoted scalar: some characters, or the closing quote. Behind a
backslash at the end of a line only further breaks count. -/
def doubleQuotedPiece : List Char → Read (Option (List Char))
  | [] => none
  | '"' :: rest => some (none, rest)
  | '\\' :: c :: rest =>
    if isBreak c then gapPiece (fun gap => (gap.drop 1).filter isBreak) [c] rest
    else match codeLength? c with
    | some n =>
      if rest.length < n then none
      else (codeChar? (rest.take n)).map fun d => (some [d], rest.drop n)
    | none => (escaped? c).map fun d => (some [d], rest)
  | c :: rest =>
    if isSpace c then gapPiece folded [c] rest
    else if c == '\\' then none
    else some (some [c], rest)

/-- The next piece of a single-quoted scalar: some characters, or the closing quote. A quote inside
is written twice. -/
def singleQuotedPiece : List Char → Read (Option (List Char))
  | [] => none
  | '\'' :: '\'' :: rest => some (some ['\''], rest)
  | '\'' :: rest => some (none, rest)
  | c :: rest => if isSpace c then gapPiece folded [c] rest else some (some [c], rest)

/-- Pieces up to the closing quote. -/
def pieces (piece : List Char → Read (Option (List Char))) (cs : List Char) : Read (List Char) :=
  match piece cs with
  | none => none
  | some (none, rest) => some ([], rest)
  | some (some front, rest) =>
    if rest.length < cs.length then
      (pieces piece rest).map fun (others, rest) => (front ++ others, rest)
    else none
termination_by cs.length

/-- A scalar in quotes. -/
def quotedScalar : List Char → Read String
  | '"' :: rest =>
    (pieces doubleQuotedPiece rest).map fun (cs, rest) => (String.ofList cs, rest)
  | '\'' :: rest =>
    (pieces singleQuotedPiece rest).map fun (cs, rest) => (String.ofList cs, rest)
  | _ => none

/-- Whether a plain scalar may start here: not with an indicator, and with a dash only if something
follows it. The same holds for a question mark and a colon, but only outside flow collections. -/
def startsPlain (inFlow : Bool) : List Char → Bool
  | [] => false
  | c :: rest =>
    if c == '-' then !startsBlank rest
    else if c == '?' || c == ':' then !inFlow && !startsBlank rest
    else !(isFlowMark c || isSpace c
      || ['#', '&', '*', '!', '|', '>', '\'', '"', '%', '@', '\x60'].contains c)

/-- The characters of a plain scalar up to a blank, a line break, or a colon in front of one of
these. In a flow collection its marks end the scalar too, and a colon right before one of them or
before a question mark is refused. -/
def plainWord (inFlow : Bool) : List Char → Read (List Char)
  | [] => some ([], [])
  | c :: rest =>
    if isSpace c || (c == ':' && startsBlank rest) || (inFlow && isFlowMark c) then
      some ([], c :: rest)
    else if inFlow && c == ':' && rest.head?.any (fun d => isFlowMark d || d == '?') then none
    else (plainWord inFlow rest).map fun (cs, rest) => (c :: cs, rest)

/-- Whether a tab stands among blanks in front of a column on a line of its own. -/
def tabIndents (indent : Nat) : (fresh : Bool) → (column : Nat) → List Char → Bool
  | _, _, [] => false
  | fresh, column, c :: cs =>
    if isBreak c then tabIndents indent true 0 cs
    else (fresh && c == '\t' && decide (column < indent)) || tabIndents indent fresh (column + 1) cs

/-- A plain scalar, or the part of one behind blanks and line breaks. -/
structure PlainText where
  /-- The characters. -/
  text : List Char
  /-- The place behind it and behind the blanks and line breaks that follow. -/
  place : Place
  /-- Whether a line break follows. -/
  endsLine : Bool

/-- The plain scalar at a place, as far as it is indented to a column; `gap` stands in front of it
and belongs to it if more than a gap is left. -/
def plainText (inFlow : Bool) (indent : Nat) (gap : List Char) (p : Place) : Option PlainText :=
  let noMore : PlainText := ⟨[], p, gap.any isBreak⟩
  if p.atMarker || p.rest.head? == some '#' then some noMore
  else match plainWord inFlow p.rest with
    | none => none
    | some ([], _) => some noMore
    | some (word, rest) =>
      let text := folded gap ++ word
      let behind := p.upTo rest
      match rest.takeWhile isSpace with
      | [] => some ⟨text, behind, false⟩
      | more =>
        let q := behind.upTo (rest.dropWhile isSpace)
        if tabIndents indent false behind.column more then none
        else if !inFlow && decide (q.column < indent) then some ⟨text, q, more.any isBreak⟩
        else if q.rest.length < p.rest.length then
          (plainText inFlow indent more q).map fun t => { t with text := text ++ t.text }
        else none
termination_by p.rest.length

end Scorebook.Yaml
