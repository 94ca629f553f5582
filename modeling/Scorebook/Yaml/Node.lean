/-!
# Nodes of a settings document

What a document in the YAML notation says: scalars, sequences and mappings. A plain scalar is kept
apart from a quoted one, because only a plain one can stand for a number, a truth value or nothing
at all; which of these it stands for is decided by whoever reads the node. A key is a node too.
-/

namespace Scorebook.Yaml

/-- A node of a document. -/
inductive Node where
  /-- An unquoted scalar; the empty one stands where a node is left out. -/
  | plain (text : String)
  /-- A scalar in single or double quotes. -/
  | quoted (text : String)
  /-- A sequence of nodes. -/
  | sequence (items : List Node)
  /-- Keys with their nodes, in the order written; a key may be repeated. -/
  | mapping (entries : List (Node × Node))
  deriving Repr, Inhabited

/-- The node that stands where none is written. -/
def Node.blank : Node := .plain ""

/-- The text of a scalar. -/
def Node.scalar? : Node → Option String
  | .plain text | .quoted text => some text
  | _ => none

end Scorebook.Yaml
