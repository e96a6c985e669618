import SchemaMarkup.Document.Graph
import SchemaMarkup.Document.Scalar

set_option autoImplicit false

/-!
# Checking the graph of a document

Whether every node has a value is looked at level by level: a list or a map is opened when
everything in front of it on its level has been looked at, and what it holds makes the next level. A
key is no collection, whatever the collection holds. Opening a map merges the maps into it that it
asks for.

A node that holds no others has its value from the moment at which it is looked at. Later a merge
may change the keys of a map that stands for a text, but not the value.

## Main definitions

* `SchemaMarkup.Document.Checked` — a graph in which every node has a value.
* `SchemaMarkup.Document.Checker` — checking with the graph so far.
* `SchemaMarkup.Document.Checker.merge` — merge the maps into a map that it asks for.
* `SchemaMarkup.Document.Checker.look`, `SchemaMarkup.Document.Checker.openNode` — look at a node,
  and at those that it holds.
* `SchemaMarkup.Document.check` — the graph with all maps merged, if every node has a value.
-/

namespace SchemaMarkup.Document

/-- A graph in which every node has a value. -/
structure Checked where
  graph : Graph
  /-- The values of the nodes that hold no others. -/
  leaves : Array (Option Value)

/-- Where the check of a graph stands. -/
structure Checking extends Checked where
  /-- The nodes that have been looked at. -/
  seen : Array Bool
  /-- The nodes still to be opened, the last one first. -/
  waiting : List Nat

/-- Checking with the graph so far. -/
abbrev Checker := StateT Checking (Except Fault)

namespace Checker

/-- The graph so far. -/
def graph : Checker Graph := return (← get).graph

/-- The tag of a node. -/
def tag (n : Nat) : Checker Tag := return ((← graph).node n).tag

/-- Replace the entries of a map. -/
def setEntries (n : Nat) (es : List (Nat × Nat)) : Checker Unit :=
  modify fun c => { c with graph := c.graph.setEntries n es }

/-- Make an ordinary text of a key. -/
def makeText (n : Nat) : Checker Unit :=
  modify fun c => { c with graph := c.graph.setNode n { c.graph.node n with tag := .text } }

/-- Put entries in front of those of a map. -/
def putInFront (n : Nat) (es : List (Nat × Nat)) : Checker Unit := do
  if !es.isEmpty then setEntries n (es ++ (← graph).entries n)

/-- Pass over entries to the first one that asks for a merge. It is given by its place, where the
place of the first entry is known, and by its value. -/
def nextAsking (place : Nat) : List (Nat × Nat) → Checker (Option (Nat × Nat))
  | [] => return none
  | (k, v) :: es => do
    match ← tag k with
    | .merge => return some (place, v)
    | .equals =>
      makeText k
      nextAsking (place + 1) es
    | _ => nextAsking (place + 1) es

/-- The entries that a map asks for behind its first entries, whose number is the last argument. The
entries that ask are left out of the map, so none asks twice, and the first argument need only be
greater than the number of those that ask in the graph. Of a list of maps the first counts most, so
its entries stand last. -/
def askedFor : Nat → Nat → Nat → Checker (List (Nat × Nat))
  | 0, _, _ => throw .malformed
  | fuel + 1, n, passed => do
    let es := (← graph).entries n
    match ← nextAsking passed (es.drop passed) with
    | none => return []
    | some (place, v) =>
      setEntries n (es.eraseIdx place)
      let merged (m : Nat) : Checker (List (Nat × Nat)) := do
        if !(← graph).isMap m then throw .malformed
        putInFront m (← askedFor fuel m 0)
        return (← graph).entries m
      let found ←
        match ((← graph).node v).content with
        | .list ms => do pure (← ms.mapM merged).reverse.flatten
        | _ => merged v
      return found ++ (← askedFor fuel n place)

/-- Merge the maps into a map that it asks for. What is merged stands in front of its own entries,
in the order of the asking keys. The other number is greater than that of all keys that ask. -/
def merge (fuel n : Nat) : Checker Unit := do
  putInFront n (← askedFor fuel n 0)

/-- Look at a node that holds no others, and keep its value. -/
def lookAtText (n : Nat) : Checker Unit := do
  let g ← graph
  let t ← tag n
  let s ← g.textOf g.size n
  if t == .moment && g.isMap n then throw .mapAsMoment
  let v ← valueOf t s
  modify fun c => { c with leaves := c.leaves.setIfInBounds n (some v) }

/-- Open the node later. -/
def wait (n : Nat) : Checker Unit := modify fun c => { c with waiting := n :: c.waiting }

/-- Note that a node has been looked at. -/
def note (n : Nat) : Checker Unit := modify fun c => { c with seen := c.seen.setIfInBounds n true }

/-- A node that is to be a key is no collection. -/
def lookAtKey (n : Nat) : Checker Unit := do
  if (← tag n).isCollection then throw .malformed

/-- Look at a node. A collection is opened later. -/
def look (n : Nat) : Checker Unit := do
  if (← get).seen.getD n true then return
  match ← tag n with
  | .merge | .equals | .other => throw .malformed
  | .pairs | .set | .list | .map => wait n
  | _ => lookAtText n
  note n

/-- Look at a key and its value. -/
def lookAtEntry (e : Nat × Nat) : Checker Unit := do
  look e.1
  lookAtKey e.1
  look e.2

/-- Look at a map of one entry, whose key may be a collection. -/
def lookAtPair (p : Nat) : Checker Unit := do
  match ((← graph).node p).content with
  | .map [(k, v)] =>
    look k
    look v
  | _ => throw .malformed

/-- Open a node: look at the nodes that it holds. The other number is greater than that of all keys
that ask for a merge. -/
def openNode (fuel n : Nat) : Checker Unit := do
  match ← tag n, ((← graph).node n).content with
  | .list, .list vs => vs.forM look
  | .pairs, .list ps => ps.forM lookAtPair
  | .map, .map _ | .set, .map _ =>
    merge fuel n
    ((← graph).entries n).forM lookAtEntry
  | _, _ => throw .malformed

/-- Open the nodes that wait, level by level, in at most as many levels as the last number says. -/
def openAll (fuel : Nat) : Nat → Checker Unit
  | 0 => throw .malformed
  | levels + 1 => do
    let level := (← get).waiting.reverse
    if level.isEmpty then return
    modify fun c => { c with waiting := [] }
    level.forM (openNode fuel)
    openAll fuel levels

end Checker

/-- The graph with all maps merged, if the node of the given number and all in it have a value. -/
def check (g : Graph) (root : Nat) : Except Fault Checked := do
  let look : Checker Unit := do
    Checker.look root
    Checker.openAll (g.entryCount + 1) (g.size + 1)
  let start : Checking :=
    ⟨⟨g, Array.replicate g.size none⟩, Array.replicate g.size false, []⟩
  let (_, c) ← look.run start
  return c.toChecked

end SchemaMarkup.Document
