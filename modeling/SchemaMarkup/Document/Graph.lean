import SchemaMarkup.Document.Fault
import SchemaMarkup.Document.Tag

set_option autoImplicit false

/-!
# The graph of a document

A document is a graph: a node with an anchor may stand in several places, and inside itself. Nodes
are known by their numbers, in the order in which they begin.

## Main definitions

* `SchemaMarkup.Document.Content`, `SchemaMarkup.Document.Node` — a node and what it holds.
* `SchemaMarkup.Document.Graph` — the nodes of a document.
* `SchemaMarkup.Document.Graph.textOf` — the text of a node, or of the map that stands for one.

## Main results

* `SchemaMarkup.Document.Graph.node_setNode` — what a node is after another was replaced.
-/

namespace SchemaMarkup.Document

/-- What a node holds: a text, or other nodes by their numbers. -/
inductive Content where
  | text (s : String)
  | list (items : List Nat)
  | map (entries : List (Nat × Nat))
  deriving DecidableEq, Repr, Inhabited

/-- A node. -/
structure Node where
  tag : Tag
  content : Content
  deriving DecidableEq, Repr, Inhabited

/-- The node that stands where there is none. -/
def Node.missing : Node := ⟨.null, .text ""⟩

/-- The nodes of a document. -/
structure Graph where
  nodes : Array Node
  deriving Repr, Inhabited

namespace Graph

variable (g : Graph)

/-- How many nodes there are. -/
def size : Nat := g.nodes.size

/-- The node of a number. -/
def node (n : Nat) : Node := g.nodes.getD n .missing

/-- Replace a node. -/
def setNode (n : Nat) (node : Node) : Graph := ⟨g.nodes.setIfInBounds n node⟩

/-- The entries of a map. -/
def entries (n : Nat) : List (Nat × Nat) :=
  match (g.node n).content with
  | .map es => es
  | _ => []

/-- Replace the entries of a map. -/
def setEntries (n : Nat) (es : List (Nat × Nat)) : Graph :=
  g.setNode n { g.node n with content := .map es }

/-- The node is a map. -/
def isMap (n : Nat) : Bool :=
  match (g.node n).content with
  | .map _ => true
  | _ => false

/-- How many entries all maps have together. -/
def entryCount : Nat :=
  g.nodes.foldl (fun sum node =>
    match node.content with
    | .map es => sum + es.length
    | _ => sum) 0

/-- The text of a node. For a map it is that of the first value with a key that says so. Such maps
may lie inside one another, and one that lies inside itself has no text: at most as many nodes are
looked at as the number says. -/
def textOf : Nat → Nat → Except Fault String
  | 0, _ => .error .tooDeep
  | fuel + 1, n =>
    match (g.node n).content with
    | .text s => .ok s
    | .list _ => .error .malformed
    | .map es =>
      match es.find? fun e => (g.node e.1).tag == .equals with
      | some e => textOf fuel e.2
      | none => .error .malformed

/-- What a node is after another was replaced. -/
theorem node_setNode (n m : Nat) (node : Node) (h : n < g.size) :
    (g.setNode n node).node m = if m = n then node else g.node m := by
  simp only [size] at h
  by_cases hm : m = n
  · subst hm
    simp [setNode, Graph.node, h]
  · have : ¬n = m := fun e => hm e.symm
    simp [setNode, Graph.node, this, hm]

end Graph

end SchemaMarkup.Document
