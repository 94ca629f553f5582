/-!
# Lossy reading of UTF-8

A machine over octets: it stands between characters or inside one that is still owed octets. Where
an octet cannot continue the character begun, one replacement character stands for the octets read
of it, and the octet is read again from between characters. So each maximal part that starts a
character and never finishes it becomes one replacement character, and so does each octet that
starts none.
-/

namespace Scorebook.Text.Utf8

/-- What stands for octets that form no character. -/
def replacement : Char := '\uFFFD'

/-- A character begun: the octets still owed, the range of the next one, and the code so far. -/
structure Begun where
  /-- The number of octets still owed; at least one. -/
  owed : Nat
  /-- The least octet that may follow. -/
  low : Nat
  /-- The greatest octet that may follow. -/
  high : Nat
  /-- The bits of the code point read so far. -/
  code : Nat

/-- What an octet does between characters. -/
inductive Start where
  /-- The octet is a character by itself. -/
  | whole (c : Char)
  /-- The octet begins a longer character. -/
  | begins (b : Begun)
  /-- No character starts with the octet. -/
  | refused

/-- An octet read between characters. The narrowed second octets keep out overlong forms,
surrogates and codes past the last plane. -/
def start (octet : Nat) : Start :=
  if octet < 0x80 then .whole (Char.ofNat octet)
  else if octet < 0xC2 then .refused
  else if octet < 0xE0 then .begins ⟨1, 0x80, 0xBF, octet - 0xC0⟩
  else if octet = 0xE0 then .begins ⟨2, 0xA0, 0xBF, 0⟩
  else if octet = 0xED then .begins ⟨2, 0x80, 0x9F, 13⟩
  else if octet < 0xF0 then .begins ⟨2, 0x80, 0xBF, octet - 0xE0⟩
  else if octet = 0xF0 then .begins ⟨3, 0x90, 0xBF, 0⟩
  else if octet < 0xF4 then .begins ⟨3, 0x80, 0xBF, octet - 0xF0⟩
  else if octet = 0xF4 then .begins ⟨3, 0x80, 0x8F, 4⟩
  else .refused

/-- Read an octet between characters: what it yields, and the character it begins. -/
def fresh (octet : UInt8) : List Char × Option Begun :=
  match start octet.toNat with
  | .whole c => ([c], none)
  | .begins begun => ([], some begun)
  | .refused => ([replacement], none)

/-- Read an octet in a state of the machine; `none` is between characters. -/
def step : Option Begun → UInt8 → List Char × Option Begun
  | none, octet => fresh octet
  | some begun, octet =>
    if begun.low ≤ octet.toNat ∧ octet.toNat ≤ begun.high then
      let code := begun.code * 64 + (octet.toNat - 0x80)
      if begun.owed ≤ 1 then ([Char.ofNat code], none)
      else ([], some ⟨begun.owed - 1, 0x80, 0xBF, code⟩)
    else (replacement :: (fresh octet).1, (fresh octet).2)

/-- Read octets from a state of the machine; a character begun at the end stays unfinished. -/
def run : Option Begun → List UInt8 → List Char
  | none, [] => []
  | some _, [] => [replacement]
  | state, octet :: rest => (step state octet).1 ++ run (step state octet).2 rest

/-- The text of octets, with a replacement character for each maximal malformed part. -/
def decodeLossy (octets : List UInt8) : String := String.ofList (run none octets)

example : decodeLossy [0x63, 0x61, 0x66, 0xC3, 0xA9] = "café" := by decide
example : decodeLossy [0x61, 0xE2, 0x82, 0x62, 0xFF] = "a\uFFFDb\uFFFD" := by decide
example : decodeLossy [0xED, 0xA0, 0x80] = "\uFFFD\uFFFD\uFFFD" := by decide

end Scorebook.Text.Utf8
