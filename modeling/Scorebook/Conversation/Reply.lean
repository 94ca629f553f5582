import Scorebook.Json.Reader
import Scorebook.Text.Blank
import Scorebook.Text.Search

/-!
# Replies with an intent

A model answers with a JSON object, but often wraps it: in blanks, in a fence of three backquotes
with or without the word for JSON, or in a field named for the intent. The wrappings are taken off,
and what remains has to be an object.
-/

namespace Scorebook.Reply

/-- The mark that opens and closes a fence. -/
def fence : List Char := ['\x60', '\x60', '\x60']

/-- The text behind the opening of a fence; the word for JSON belongs to the opening. -/
def behindFence? (cs : List Char) : Option (List Char) :=
  (Text.dropOpening? (fence ++ "json".toList) cs).or (Text.dropOpening? fence cs)

/-- A text without the blanks around it and, if it is fenced on both sides, without the fence. -/
def unfenced (content : List Char) : List Char :=
  let trimmed := Text.trim content
  ((behindFence? trimmed).bind fun rest => Text.dropClosing? fence (Text.trimEnd rest)).getD trimmed

/-- The object inside a field named for the intent, or the value itself. -/
def unwrapped (value : Json) : Json :=
  match value.field? "intent" with
  | some (.obj fields) => .obj fields
  | _ => value

/-- The object that a reply holds, for a given reader of JSON. -/
def objectBy? (parse? : String → Option Json) (content : String) : Option Json :=
  let bare := Text.trim (unfenced content.toList)
  ((parse? (String.ofList bare)).map unwrapped).filter Json.isObject

/-- The object that a reply holds. -/
def object? (content : String) : Option Json := objectBy? Json.parse? content

end Scorebook.Reply
