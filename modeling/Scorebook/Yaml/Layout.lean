import Scorebook.Yaml.Node
import Scorebook.Yaml.Token

/-!
# Nodes from tokens

Tokens are grouped into nodes: the entries between the borders of a sequence, the keys and values
between those of a mapping, and the members between brackets or braces. A sequence may stand right
below a key in the key's own column, without borders. A node that is left out is the empty plain
scalar. A text holds a single document.
-/

namespace Scorebook.Yaml

/-- A node, unless one of some tokens stands where it would start. -/
def nodeUnless (ends : List Token) (node : List Token → Option (Node × List Token))
    (tokens : List Token) : Option (Node × List Token) :=
  if tokens.head?.any ends.contains then some (.blank, tokens) else node tokens

/-- A value behind its mark; without the mark it is left out. -/
def valueUnless (ends : List Token) (node : List Token → Option (Node × List Token)) :
    List Token → Option (Node × List Token)
  | .value :: rest => nodeUnless ends node rest
  | tokens => some (.blank, tokens)

/-- The key of a pair inside a flow sequence. A question mark without a key takes the token behind
it instead. -/
def memberKey (node : List Token → Option (Node × List Token)) :
    List Token → Option (Node × List Token)
  | .value :: rest | .comma :: rest | .closeBracket :: rest => some (.blank, rest)
  | tokens => node tokens

/-- The tokens behind the comma that stands in front of every member but the first. -/
def behindComma (isFirst : Bool) : List Token → Option (List Token)
  | .comma :: rest => if isFirst then none else some rest
  | tokens => if isFirst then some tokens else none

mutual

/-- A node outside of flow collections. Right below a key a sequence needs no borders. -/
def blockNode : (fuel : Nat) → (belowKey : Bool) → List Token → Option (Node × List Token)
  | 0, _, _ => none
  | fuel + 1, belowKey, tokens =>
    match tokens with
    | .entry :: _ =>
      if belowKey then
        (bareEntries fuel tokens).map fun (items, rest) => (.sequence items, rest)
      else none
    | .sequenceStart :: rest =>
      (entries fuel rest).map fun (items, rest) => (.sequence items, rest)
    | .mappingStart :: rest =>
      (pairs fuel rest).map fun (pairs, rest) => (.mapping pairs, rest)
    | _ => flowNode fuel tokens

/-- The entries of a sequence up to its end. -/
def entries : (fuel : Nat) → List Token → Option (List Node × List Token)
  | fuel + 1, .entry :: rest => do
    let (item, rest) ← nodeUnless [.entry, .blockEnd] (blockNode fuel false) rest
    let (items, rest) ← entries fuel rest
    return (item :: items, rest)
  | _, .blockEnd :: rest => some ([], rest)
  | _, _ => none

/-- The entries of a sequence without borders. -/
def bareEntries : (fuel : Nat) → List Token → Option (List Node × List Token)
  | 0, _ => none
  | fuel + 1, tokens =>
    match tokens with
    | .entry :: rest => do
      let (item, rest) ←
        nodeUnless [.entry, .key, .value, .blockEnd] (blockNode fuel false) rest
      let (items, rest) ← bareEntries fuel rest
      return (item :: items, rest)
    | _ => some ([], tokens)

/-- The keys and values of a mapping up to its end. -/
def pairs : (fuel : Nat) → List Token → Option (List (Node × Node) × List Token)
  | fuel + 1, .key :: rest => do
    let ends := [.key, .value, .blockEnd]
    let (key, rest) ← nodeUnless ends (blockNode fuel true) rest
    let (value, rest) ← valueUnless ends (blockNode fuel true) rest
    let (others, rest) ← pairs fuel rest
    return ((key, value) :: others, rest)
  | _, .blockEnd :: rest => some ([], rest)
  | _, _ => none

/-- A scalar or a flow collection. -/
def flowNode : (fuel : Nat) → List Token → Option (Node × List Token)
  | _, .plain text :: rest => some (.plain text, rest)
  | _, .quoted text :: rest => some (.quoted text, rest)
  | fuel + 1, .openBracket :: rest =>
    (members fuel true rest).map fun (items, rest) => (.sequence items, rest)
  | fuel + 1, .openBrace :: rest =>
    (flowPairs fuel true rest).map fun (pairs, rest) => (.mapping pairs, rest)
  | _, _ => none

/-- The members of a flow sequence up to its end; a key with its value is a mapping of its own. A
comma may stand behind the last member. -/
def members : (fuel : Nat) → (isFirst : Bool) → List Token → Option (List Node × List Token)
  | _, _, .closeBracket :: rest => some ([], rest)
  | 0, _, _ => none
  | fuel + 1, isFirst, tokens => do
    match ← behindComma isFirst tokens with
    | .closeBracket :: rest => return ([], rest)
    | .key :: rest =>
      let (key, rest) ← memberKey (flowNode fuel) rest
      let (value, rest) ← valueUnless [.comma, .closeBracket] (flowNode fuel) rest
      let (others, rest) ← members fuel false rest
      return (.mapping [(key, value)] :: others, rest)
    | tokens =>
      let (item, rest) ← flowNode fuel tokens
      let (others, rest) ← members fuel false rest
      return (item :: others, rest)

/-- The keys and values of a flow mapping up to its end. A key may stand without a value and
without its mark, and a comma behind the last one. -/
def flowPairs : (fuel : Nat) → (isFirst : Bool) → List Token →
    Option (List (Node × Node) × List Token)
  | _, _, .closeBrace :: rest => some ([], rest)
  | 0, _, _ => none
  | fuel + 1, isFirst, tokens => do
    match ← behindComma isFirst tokens with
    | .closeBrace :: rest => return ([], rest)
    | .key :: rest =>
      let ends := [.comma, .closeBrace]
      let (key, rest) ← nodeUnless (.value :: ends) (flowNode fuel) rest
      let (value, rest) ← valueUnless ends (flowNode fuel) rest
      let (others, rest) ← flowPairs fuel false rest
      return ((key, value) :: others, rest)
    | tokens =>
      let (key, rest) ← flowNode fuel tokens
      let (others, rest) ← flowPairs fuel false rest
      return ((key, .blank) :: others, rest)

end

/-- The steps that suffice for tokens: no token is reached by more than three. -/
def stepsFor (tokens : List Token) : Nat := 3 * tokens.length + 3

/-- The node that the tokens of a document write, with the tokens behind it. Behind the mark of its
start a document may be empty. -/
def documentNode (tokens : List Token) : Option (Node × List Token) :=
  match tokens with
  | .documentStart :: rest =>
    if rest.isEmpty then some (.blank, rest)
    else nodeUnless [.documentStart, .documentEnd] (blockNode (stepsFor tokens) false) rest
  | _ => blockNode (stepsFor tokens) false tokens

/-- What a text says: nothing at all, or a single node. The outer `none` is a malformed text. -/
def document? (text : String) : Option (Option Node) :=
  match tokens? text with
  | none => none
  | some [] => some none
  | some tokens =>
    match documentNode tokens with
    | none => none
    | some (node, rest) =>
      if (rest.dropWhile (· == .documentEnd)).isEmpty then some (some node) else none

end Scorebook.Yaml
