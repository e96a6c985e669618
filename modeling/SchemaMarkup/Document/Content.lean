import SchemaMarkup.Document.Check
import SchemaMarkup.Document.Reader
import SchemaMarkup.Value.Key

set_option autoImplicit false

/-!
# The value of a document

A node stands for one value wherever it stands. A key that is written twice keeps its place and
takes the later value. A node that stands inside itself is unfolded a few times: values are finite,
and nothing that is asked of a vocabulary reaches deeper.

## Main definitions

* `SchemaMarkup.Document.Evaluator.value` — the value of a node.
* `SchemaMarkup.Document.Checked.value` — the value of a node, unfolded often enough.
* `SchemaMarkup.Document.ofText` — the value of a document in YAML.
-/

namespace SchemaMarkup.Document

/-- Where the evaluation of a graph stands. -/
structure Evaluation where
  /-- The values known so far. -/
  known : Array (Option Value)
  /-- A node was met inside itself. -/
  looped : Bool

/-- Evaluating with the values so far. -/
abbrev Evaluator := StateM Evaluation

namespace Evaluator

mutual

/-- The value of a node. A node that holds no others has one from the start. A node that is met
inside itself, hence among those `above`, has the value that it had `before`. -/
def value (g : Graph) (before : Array Value) (above : List Nat) : Nat → Nat → Evaluator Value
  | 0, _ => return .null
  | fuel + 1, n => do
    if let some (some v) := (← get).known[n]? then return v
    if above.contains n then
      modify fun e => { e with looped := true }
      return before.getD n .null
    let above := n :: above
    let v ←
      match (g.node n).tag, (g.node n).content with
      | .list, .list vs => do pure (.list (← values g before above fuel vs))
      | .pairs, .list vs => do pure (.list (← pairs g before above fuel vs))
      | .map, .map es => do
        let es ← entries g before above fuel es
        pure (.map (((Value.entries? es).getD []).map fun e => e.2))
      | .set, .map es => do
        let es ← entries g before above fuel es
        pure (.set ((Value.members? (es.map Prod.fst)).getD []))
      | _, _ => pure .null
    modify fun e => { e with known := e.known.setIfInBounds n (some v) }
    return v

/-- The values of nodes in order. -/
def values (g : Graph) (before : Array Value) (above : List Nat) :
    Nat → List Nat → Evaluator (List Value)
  | 0, _ => return []
  | _ + 1, [] => return []
  | fuel + 1, n :: ns => do
    let v ← value g before above fuel n
    return v :: (← values g before above fuel ns)

/-- The values of keys and values in order. -/
def entries (g : Graph) (before : Array Value) (above : List Nat) :
    Nat → List (Nat × Nat) → Evaluator (List (Value × Value))
  | 0, _ => return []
  | _ + 1, [] => return []
  | fuel + 1, (k, n) :: es => do
    let key ← value g before above fuel k
    let v ← value g before above fuel n
    return (key, v) :: (← entries g before above fuel es)

/-- The pairs that maps of one entry stand for. -/
def pairs (g : Graph) (before : Array Value) (above : List Nat) :
    Nat → List Nat → Evaluator (List Value)
  | 0, _ => return []
  | _ + 1, [] => return []
  | fuel + 1, p :: ps => do
    let pair ← entries g before above fuel (g.entries p)
    return pair.map (fun e => .pair e.1 e.2) ++ (← pairs g before above fuel ps)

end

end Evaluator

/-- How often a node that stands inside itself is unfolded. -/
def unfoldings : Nat := 8

/-- The values of the nodes that stand in a node, itself included. Where one stands inside itself,
they are found again with those found `before`, at most as often as the number says. -/
def Checked.values (c : Checked) (root : Nat) : Nat → Array Value → Array Value
  | 0, before => before
  | n + 1, before =>
    let size := c.graph.size + 2 * c.graph.entryCount + 2
    let start : Evaluation := ⟨c.leaves, false⟩
    let (_, e) := (Evaluator.value c.graph before [] (4 * size * size) root).run start
    let found := e.known.map (·.getD .null)
    if e.looped then values c root n found else found

/-- The value of a node. -/
def Checked.value (c : Checked) (root : Nat) : Value :=
  (c.values root unfoldings #[]).getD root .null

/-- The value of a document in YAML, if the text is one. -/
def ofText (s : List Char) : Except Fault Value := do
  let (g, root) ← graphOf s
  return (← check g root).value root

end SchemaMarkup.Document
